import DeviceHub.Mqtt.Transport
import DeviceHub.Rehearsal.NamedClient
import DeviceHub.Rehearsal.Program

/-!
A `Client` over an `MqttTransport` whose network lets no connection come about.
-/
namespace DeviceHub.Rehearsal

/-- A call of the client, or of its transport directly. -/
inductive MqttAct where
  | client (call : Nat)
  | transport (call : Nat)

/-- What a connect starts from, why no connection comes about, the calls on the stage, the call of
the transport that does the operation of a call of the client, and the calls of the client whose
operation panicked. -/
structure MqttStage where
  device : NamedClient := {}
  transport : Mqtt.Transport Unit := {}
  options : Checked Mqtt.BrokerOptions
  reason : String
  acts : List MqttAct := []
  serving : List (Nat × Nat) := []
  panicked : List Nat := []

namespace MqttStage

def step (event : ClientEvent) (s : MqttStage) : MqttStage :=
  { s with device := s.device.step event }

def transportStep (event : Mqtt.TransportEvent Unit) (s : MqttStage) : MqttStage :=
  { s with transport := s.transport.step event }

def request (s : MqttStage) : Operation → Mqtt.Request Unit
  | .connect => .connect s.options
  | .close => .close
  | .send event => .send event
  | .setup link => .setup link ()
  | .retrieve => .retrieve
  | .update patch => .update patch

/-- A call that is left by itself has panicked. -/
def transportOutcome? (s : MqttStage) (call : Nat) : Option (Checked Answer) :=
  match s.transport.calls[call]?.map Mqtt.Call.phase with
  | some (.returned outcome) => some (.ofResult outcome)
  | some .dropped => some (.error .panic)
  | _ => none

/-- Request ids are made from how many calls there are. -/
def resumeTransport? (s : MqttStage) (call : Nat) : Option MqttStage :=
  (s.transport.resume? call (toString call)).map fun transport => { s with transport }

/-- A panic unwinds the call. -/
def answer (s : MqttStage) (call : Nat) (outcome : Checked Answer) : MqttStage :=
  match outcome with
  | .ok answer => s.step (.answer call (.ok answer))
  | .error (.error e) => s.step (.answer call (.error e))
  | .error .panic => { s with panicked := call :: s.panicked }.step (.drop call)

def moveClient? (s : MqttStage) (call : Nat) : Option MqttStage :=
  let byItself := ((s.device.client.resume? call).or (s.device.client.cancel? call)).map
    fun client => { s with device := { s.device with client } }
  let operation? := s.device.client.calls[call]?.bind Call.operation?
  match operation?, s.serving.lookup call with
  | some operation, none =>
    some ({ s with serving := (call, s.transport.calls.length) :: s.serving }.transportStep
      (.start (s.request operation)))
  | some _, some serving =>
    match s.transportOutcome? serving with
    | some outcome => some (s.answer call outcome)
    | none => (s.resumeTransport? serving).or byItself
  | none, some serving =>
    some ({ s with serving := s.serving.filter (·.1 != call) }.transportStep (.drop serving))
  | none, none => byItself

/-- A connection does not come about, and its loop comes to its end. -/
def moveConnection? (s : MqttStage) (n : Nat) : Option MqttStage :=
  s.transport.connections[n]?.bind fun c =>
    match c.loop with
    | .running => some (s.transportStep (.fail n s.reason))
    | .left _ | .drained => some (s.transportStep (.unwind n))
    | .finished => none

def move? (s : MqttStage) (id : Nat) : Option MqttStage :=
  (s.acts[id]?.bind fun
    | .client call => s.moveClient? call
    | .transport call => s.resumeTransport? call).or
    ((List.range s.transport.connections.length).findSome? s.moveConnection?)

instance : Stage MqttStage where
  move? := move?
  size s := s.acts.length
  drop s id :=
    match s.acts[id]? with
    | some (.client call) => s.step (.drop call)
    | some (.transport call) => s.transportStep (.drop call)
    | none => s
  fire s token := s.step (.fire token)

def outcome? (s : MqttStage) (id : Nat) : Option (Checked Reply) :=
  s.acts[id]?.bind fun
    | .client call =>
      match s.device.outcome? call with
      | some outcome => some (.ofResult outcome)
      | none => if s.panicked.contains call then some (.error .panic) else none
    | .transport call =>
      (s.transportOutcome? call).map fun outcome => outcome.map fun _ => .done

def setDevice (device : NamedClient) (s : MqttStage) : MqttStage :=
  let before := s.device.client.calls.length
  let new := List.range' before (device.client.calls.length - before)
  { s with device, acts := s.acts ++ new.map MqttAct.client }

def ask (request : Mqtt.Request Unit) (s : MqttStage) : MqttStage :=
  let acts := s.acts ++ [MqttAct.transport s.transport.calls.length]
  { s with acts }.transportStep (.start request)

end MqttStage
end DeviceHub.Rehearsal
