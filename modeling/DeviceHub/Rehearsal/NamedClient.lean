import DeviceHub.Client

/-!
A `Client` whose subscribers have names, as a schedule of calls gives them.
-/
namespace DeviceHub.Rehearsal

/-- A client, and the names that calls on it will give to their subscribers, the newest first. -/
structure NamedClient where
  client : Client := {}
  names : List ((SharedLink × String) × Nat) := []

namespace NamedClient

def step (event : ClientEvent) (c : NamedClient) : NamedClient :=
  { c with client := c.client.step event }

def start (request : Request) (token : Token) (name : Option String) (c : NamedClient) :
    NamedClient :=
  let names := match request.link?, name with
    | some link, some name => ((link, name), c.client.calls.length) :: c.names
    | _, _ => c.names
  { c with names }.step (.start request token)

def outcome? (c : NamedClient) (call : Nat) : Option (HubResult Reply) :=
  match c.client.calls[call]?.map Call.phase with
  | some (.returned outcome) => some outcome
  | _ => none

/-- The subscriber of a name; without one, a number that nobody has. -/
def subscriber (link : SharedLink) (name : String) (c : NamedClient) : Nat :=
  (c.names.findSome? fun (key, call) =>
    match c.outcome? call with
    | some (.ok (.subscriber id)) => if key = (link, name) then some id else none
    | _ => none).getD c.client.calls.length

def unsubscribe (link : SharedLink) (name : String) (c : NamedClient) : NamedClient :=
  let id := c.subscriber link name
  match link with
  | .events => { c with client.events := c.client.events.unsubscribe id }
  | .twinUpdates => { c with client.twinUpdates := c.client.twinUpdates.unsubscribe id }
  | .methods => c

def unregister (name : String) (c : NamedClient) : NamedClient :=
  { c with client.methods := c.client.methods.remove name }

def receiveEvent? (name : String) (c : NamedClient) : NamedClient × Option (HubResult Event) :=
  match c.client.events.receive? (c.subscriber .events name) with
  | some (item, events) => ({ c with client.events := events }, some item)
  | none => (c, none)

def receiveTwin? (name : String) (c : NamedClient) : NamedClient × Option (HubResult TwinState) :=
  match c.client.twinUpdates.receive? (c.subscriber .twinUpdates name) with
  | some (item, twinUpdates) => ({ c with client.twinUpdates := twinUpdates }, some item)
  | none => (c, none)

end NamedClient
end DeviceHub.Rehearsal
