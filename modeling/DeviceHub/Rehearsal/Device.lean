import DeviceHub.Rehearsal.DeviceTransport
import DeviceHub.Rehearsal.NamedClient
import DeviceHub.Rehearsal.Schedule

/-!
A `Client` over a `MockDeviceTransport`, with a script that may answer in its place.
-/
namespace DeviceHub.Rehearsal

/-- The operations under way go by call, with the time when they are done, which may be never. -/
structure DeviceStage where
  device : NamedClient := {}
  transport : DeviceTransport := {}
  script : KeyMap Scripted := []
  underway : List (Nat × Option Nat) := []
  panicked : List Nat := []
  now : Nat := 0

namespace DeviceStage

abbrev client (s : DeviceStage) : Client := s.device.client

def step (event : ClientEvent) (s : DeviceStage) : DeviceStage :=
  { s with device := s.device.step event }

/-- A panic unwinds the call. -/
def answer (s : DeviceStage) (call : Nat) (outcome : Checked Answer) : DeviceStage :=
  match outcome with
  | .ok answer => s.step (.answer call (.ok answer))
  | .error (.error e) => s.step (.answer call (.error e))
  | .error .panic => { s with panicked := call :: s.panicked }.step (.drop call)

def perform (s : DeviceStage) (call : Nat) (operation : Operation) : DeviceStage :=
  let (transport, outcome) := s.transport.perform operation
  { s with transport }.answer call outcome

def begin (s : DeviceStage) (call : Nat) (operation : Operation) : DeviceStage :=
  let wait (time : Option Nat) := { s with underway := (call, time) :: s.underway }
  match s.script.find? (operationName operation) with
  | some (.fails e) => s.step (.answer call (.error e))
  | some .hangs => wait none
  | some (.answers a) => s.step (.answer call (.ok a))
  | none =>
    match s.transport.delay? operation with
    | some delay => wait (some (s.now + delay))
    | none => s.perform call operation

/-- The operation of a call goes on, else the call itself, else its token is noticed. -/
def move? (s : DeviceStage) (call : Nat) : Option DeviceStage :=
  let byItself := ((s.client.resume? call).or (s.client.cancel? call)).map fun client =>
    { s with device := { s.device with client } }
  match s.client.calls[call]?.bind Call.operation? with
  | none => byItself
  | some operation =>
    match s.underway.lookup call with
    | none => some (s.begin call operation)
    | some (some time) => if time ≤ s.now then some (s.perform call operation) else byItself
    | some none => byItself

def deadline? (s : DeviceStage) : Option Nat :=
  (s.underway.filterMap fun (call, time) =>
    if (s.client.calls[call]?.bind Call.operation?).isSome then time else none).min?

instance : Stage DeviceStage where
  move? := move?
  size s := s.client.calls.length
  drop s call := s.step (.drop call)
  fire s token := s.step (.fire token)
  clock s := s.now
  setClock s now := { s with now }
  deadline? := deadline?

def outcome? (s : DeviceStage) (call : Nat) : Option (Checked Reply) :=
  match s.device.outcome? call with
  | some outcome => some (.ofResult outcome)
  | none => if s.panicked.contains call then some (.error .panic) else none

/-- Reaches the client if the link is set up; whether it does. -/
def inject (link : SharedLink) (event : ClientEvent) (s : DeviceStage) : DeviceStage × Bool :=
  if s.transport.links.contains link then (s.step event, true) else (s, false)

def call? (method : String) (payload : Bytes) (s : DeviceStage) : Option MethodReply :=
  if s.transport.links.contains .methods then some (s.client.methods.dispatch.invoke method payload)
  else none

end DeviceStage
end DeviceHub.Rehearsal
