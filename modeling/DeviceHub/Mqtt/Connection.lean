import DeviceHub.Event
import DeviceHub.Lifecycle
import DeviceHub.Mqtt.Arrival

/-!
A connection as `run_event_loop` serves it: it sends what comes through the request channel and
takes what the broker sends.  When the loop is left, for whatever reason, the link state is sent
first, then `fail_pending` runs, and only when the loop itself is dropped does the request channel
refuse packets.
-/
namespace DeviceHub.Mqtt

inductive Packet where
  | publish (topic : String) (payload : Bytes) (qos : Qos)
  | subscribe (filter : String) (qos : Qos)
  | disconnect
  deriving DecidableEq

inductive Standing where
  | connecting
  | connected
  | lost (reason : String)
  deriving DecidableEq

/-- How far `run_event_loop` is. -/
inductive Loop where
  | running
  /-- Those that are pending have not failed yet. -/
  | left (reason : String)
  /-- They have failed; the request channel still takes packets. -/
  | drained
  | finished
  deriving DecidableEq

structure Connection where
  deviceId : String
  standing : Standing := .connecting
  loop : Loop := .running
  /-- Whether `shutdown` is cancelled. -/
  stopped : Bool := false
  outbound : List Packet := []
  /-- Who is at, or waits for, the subscription of `ensure_twin_responses`. -/
  subscribers : Lock := {}
  /-- Whether `twin_responses` is initialized. -/
  hearsTwin : Bool := false
  deriving DecidableEq

namespace Connection

def capacity : Nat := 64

def gone : String := "Failed to send mqtt requests to eventloop"

/-- While the request channel is full, `none`. -/
def takes? (c : Connection) : Option Bool :=
  if c.loop = .finished then some false
  else if c.outbound.length < capacity then some true
  else none

def push (p : Packet) (c : Connection) : Connection :=
  { c with outbound := c.outbound ++ [p] }

def stop (c : Connection) : Connection :=
  { c with stopped := true }

def leave (reason : String) (c : Connection) : Connection :=
  { c with standing := .lost reason, loop := .left reason }

end Connection
end DeviceHub.Mqtt
