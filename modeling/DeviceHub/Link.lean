import DeviceHub.Message

/-!
Links of a session: the addresses that `AddressBuilder` writes, the nodes every hub has, and the
filter that starts a partition at a point in time.
-/
namespace DeviceHub

def managementNode : String := "$management"

def tokenNode : String := "$cbs"

def tokenReplyTo : String := "cbs"

def eventHubEntity : String := "com.microsoft:eventhub"

def defaultConsumerGroup : String := "$Default"

def partitionAddress (name group id : String) : String :=
  "/" ++ name ++ "/ConsumerGroups/" ++ group ++ "/Partitions/" ++ id

def brokerUrl (hostname : String) : String :=
  "amqps://" ++ hostname

inductive LinkFilter where
  /-- The instant itself passes. -/
  | enqueuedSince (start : Instant)
  deriving DecidableEq

namespace LinkFilter

def selector : LinkFilter → String
  | enqueuedSince start =>
    "amqp.annotation.x-opt-enqueuedtimeutc >= '" ++ toString start.millis ++ "'"

/-- Whole milliseconds are compared. -/
def accepts : LinkFilter → Option Instant → Bool
  | enqueuedSince start, some t => start.millis ≤ t.millis
  | enqueuedSince _, none => false

end LinkFilter

structure LinkOptions where
  source : Option String := none
  target : Option String := none
  filter : Option LinkFilter := none
  deriving DecidableEq, Inhabited

/-- The source, else the target. -/
def LinkOptions.address (o : LinkOptions) : String :=
  (o.source.or o.target).getD ""

def partitionLink (name group id : String) (since : Instant) : LinkOptions :=
  { source := some (partitionAddress name group id), filter := some (.enqueuedSince since) }

end DeviceHub
