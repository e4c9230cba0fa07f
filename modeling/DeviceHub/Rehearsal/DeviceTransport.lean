import DeviceHub.Client

/-!
`MockDeviceTransport`, a transport without a hub.  It records what is sent, remembers its
dispatchers, and keeps a twin whose reported version grows with every patch.
-/
namespace DeviceHub

/-- Zero if there is none. -/
def Twin.versionIn (half : Mapping) : Int64 :=
  ((half.find? TwinState.versionKey).bind fun v => v.asInt64.toOption).getD 0

namespace Rehearsal

structure DeviceTransport where
  sent : List Event := []
  links : List SharedLink := []
  desired : Mapping := []
  reported : Mapping := []
  connects : Nat := 0
  closes : Nat := 0
  setups : SharedLink → Nat := fun _ => 0
  failsConnect : Bool := false
  failsSetups : Bool := false
  /-- In milliseconds; without it a setup takes no time. -/
  setupDelay : Option Nat := none

def setupAddress : SharedLink → String
  | .events => "devicebound"
  | .twinUpdates => "twin"
  | .methods => "methods"

namespace DeviceTransport

/-- The patch has been merged when counting the version up overflows. -/
def update (patch : Mapping) (t : DeviceTransport) : DeviceTransport × Checked Int64 :=
  let reported := Twin.merge t.reported patch
  match Checked.add (Twin.versionIn reported) 1 with
  | .ok version =>
    ({ t with reported := reported.insert TwinState.versionKey (.int version) }, .ok version)
  | .error failure => ({ t with reported }, .error failure)

def perform (operation : Operation) (t : DeviceTransport) : DeviceTransport × Checked Answer :=
  match operation with
  | .connect =>
    ({ t with connects := t.connects + 1 },
      if t.failsConnect then .error (.error (.transport "mock connection failure"))
      else .ok .done)
  | .close => ({ t with closes := t.closes + 1 }, .ok .done)
  | .send event => ({ t with sent := t.sent ++ [event] }, .ok .done)
  | .setup link =>
    let t := { t with setups := fun l => if l = link then t.setups l + 1 else t.setups l }
    if t.failsSetups then (t, .error (.error (.linkSetup (setupAddress link) "mock setup failure")))
    else ({ t with links := link :: t.links }, .ok .done)
  | .retrieve => (t, .ok (.document (Twin.document t.desired t.reported)))
  | .update patch =>
    match (Value.ofJson patch).bind Value.asMapping with
    | .ok patch => let (t, version) := t.update patch; (t, version.map .version)
    | .error e => (t, .error (.error e))

def delay? (operation : Operation) (t : DeviceTransport) : Option Nat :=
  match operation with
  | .setup _ => t.setupDelay
  | _ => none

end DeviceTransport

inductive Scripted where
  | fails (e : HubError)
  | hangs
  | answers (answer : Answer)

def operationName : Operation → String
  | .connect => "connect"
  | .close => "close"
  | .send _ => "send"
  | .setup .events => "subscribe_events"
  | .setup .twinUpdates => "subscribe_twin"
  | .setup .methods => "methods"
  | .retrieve => "retrieve"
  | .update _ => "update"

end Rehearsal
end DeviceHub
