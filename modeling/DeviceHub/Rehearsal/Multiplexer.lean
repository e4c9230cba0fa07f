import DeviceHub.Multiplexer.FanOut
import DeviceHub.Multiplexer.Registry
import DeviceHub.Rehearsal.Schedule

/-!
Calls on a `Multiplexer`: `once` with a setup behind a gate, and receiving.
-/
namespace DeviceHub.Rehearsal

/-- A setup that waits for a gate and then has an outcome, and how far its caller is. -/
structure GatedSetup where
  gate : Option Token
  outcome : HubResult Unit
  caller : Once := .entering

def GatedSetup.move? {δ : Type} (fired : List Token) (m : Multiplexer δ) (c : GatedSetup) :
    Option (Multiplexer δ × GatedSetup) :=
  match c.caller with
  | .running _ =>
    if isOpen fired c.gate then
      let (m, caller) := m.finish c.outcome c.caller
      some (m, { c with caller })
    else none
  | caller => (m.resume? caller).map fun (m, caller) => (m, { c with caller })

def GatedSetup.outcome? (c : GatedSetup) : Option (HubResult Unit) :=
  match c.caller with
  | .returned outcome => some outcome
  | _ => none

structure RegistryStage where
  mux : Multiplexer Registry := { dispatch := [] }
  fired : List Token := []
  calls : List GatedSetup := []

namespace RegistryStage

def setUp (c : GatedSetup) (s : RegistryStage) : RegistryStage :=
  { s with calls := s.calls ++ [c] }

def handle (name : String) (handler : Handler) (s : RegistryStage) :
    RegistryStage × HubResult Unit :=
  match s.mux.handle name handler with
  | .ok mux => ({ s with mux }, .ok ())
  | .error e => (s, .error e)

def outcome? (s : RegistryStage) (id : Nat) : Option (HubResult Unit) :=
  s.calls[id]?.bind GatedSetup.outcome?

instance : Stage RegistryStage where
  move? s id :=
    s.calls[id]?.bind fun c =>
      (c.move? s.fired s.mux).map fun (mux, c) => { s with mux, calls := s.calls.set id c }
  size s := s.calls.length
  drop s id :=
    match s.calls[id]? with
    | none => s
    | some c =>
      { s with
        mux := s.mux.abandon c.caller
        calls := s.calls.set id { c with caller := .dropped } }
  fire s token := { s with fired := token :: s.fired }

end RegistryStage

inductive FanOutCall (α : Type) where
  | setup (c : GatedSetup)
  /-- So many more items; `owned` says that the subscriber's handle goes with the call. -/
  | receive (channel : Nat) (owned : Bool) (left : Nat) (received : List (HubResult α))
  | dropped

structure FanOutStage (α : Type) where
  mux : Multiplexer (FanOut α) := { dispatch := {} }
  subscribers : KeyMap Nat := []
  fired : List Token := []
  calls : List (FanOutCall α) := []

namespace FanOutStage

variable {α : Type}

/-- Without a subscriber, a number that nobody has. -/
def subscriber (name : String) (s : FanOutStage α) : Nat :=
  (s.subscribers.find? name).getD s.mux.dispatch.channels.length

/-- Who had the name is let go of. -/
def subscribe (name : String) (s : FanOutStage α) : FanOutStage α × HubResult Nat :=
  match s.mux.subscribe with
  | .ok (mux, id) =>
    ({ s with
        mux := match s.subscribers.find? name with | some old => mux.release old | none => mux
        subscribers := s.subscribers.insert name id }, .ok id)
  | .error e => (s, .error e)

def release (name : String) (s : FanOutStage α) : FanOutStage α × Bool :=
  ({ s with
      mux := s.mux.release (s.subscriber name)
      subscribers := s.subscribers.erase name }, (s.subscribers.find? name).isSome)

def receive? (name : String) (s : FanOutStage α) : FanOutStage α × Option (HubResult α) :=
  match s.mux.receive? (s.subscriber name) with
  | some (item, mux) => ({ s with mux }, some item)
  | none => (s, none)

def start (c : FanOutCall α) (s : FanOutStage α) : FanOutStage α :=
  { s with calls := s.calls ++ [c] }

/-- The handle goes with the call, and is let go of at once when there is nothing to receive. -/
def receiveAll (name : String) (count : Nat) (s : FanOutStage α) : FanOutStage α :=
  { s.start (.receive (s.subscriber name) true count []) with
    mux := if count = 0 then s.mux.release (s.subscriber name) else s.mux
    subscribers := s.subscribers.erase name }

inductive Outcome (α : Type) where
  | setup (outcome : HubResult Unit)
  | item (item : HubResult α)
  | items (items : List (HubResult α))

def outcome? (s : FanOutStage α) (id : Nat) : Option (Outcome α) :=
  match s.calls[id]? with
  | some (.setup c) => c.outcome?.map .setup
  | some (.receive _ true 0 received) => some (.items received)
  | some (.receive _ false 0 received) => received.head?.map .item
  | _ => none

def move? (s : FanOutStage α) (id : Nat) : Option (FanOutStage α) :=
  s.calls[id]?.bind fun
    | .setup c =>
      (c.move? s.fired s.mux).map fun (mux, c) => { s with mux, calls := s.calls.set id (.setup c) }
    | .receive channel owned (left + 1) received =>
      (s.mux.receive? channel).map fun (item, mux) =>
        { s with
          mux := if owned && left = 0 then mux.release channel else mux
          calls := s.calls.set id (.receive channel owned left (received ++ [item])) }
    | _ => none

def drop (s : FanOutStage α) (id : Nat) : FanOutStage α :=
  let mux := match s.calls[id]? with
    | some (.setup c) => s.mux.abandon c.caller
    | some (.receive channel true _ _) => s.mux.release channel
    | _ => s.mux
  { s with mux, calls := s.calls.set id .dropped }

instance : Stage (FanOutStage α) where
  move? := move?
  size s := s.calls.length
  drop := drop
  fire s token := { s with fired := token :: s.fired }

end FanOutStage
end DeviceHub.Rehearsal
