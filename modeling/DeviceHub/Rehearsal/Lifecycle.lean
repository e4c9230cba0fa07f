import DeviceHub.Rehearsal.Schedule

/-!
Calls on a `Lifecycle`: `wait_ready`, transitions under the lock, and `run_cancellable`.
-/
namespace DeviceHub.Rehearsal.Lifecycle

inductive Call where
  | wait (token : Option Token)
  /-- Wants the lock, then waits for the gate, then sets the state. -/
  | transition (target : ConnectionState) (gate : Option Token)
  | run (token : Option Token) (gate : Option Token) (outcome : HubResult Unit)
  | returned (outcome : HubResult Unit)
  | changed (before after : ConnectionState)
  | dropped

structure State where
  state : ConnectionState := .unready
  lock : Lock := {}
  fired : List Token := []
  calls : List Call := []

namespace State

def isCancelled (s : State) (token : Option Token) : Bool :=
  token.any s.fired.contains

def start (call : Call) (s : State) : State :=
  let lock := match call with
    | .transition .. => s.lock.ask s.calls.length
    | _ => s.lock
  { s with calls := s.calls ++ [call], lock }

def finish (id : Nat) (outcome : HubResult Unit) (s : State) : State :=
  { s with calls := s.calls.set id (.returned outcome) }

/-- The state is looked at before the token, and so is work. -/
def move? (s : State) (id : Nat) : Option State :=
  s.calls[id]?.bind fun
    | .wait token =>
      match s.state.readiness? with
      | some outcome => some (s.finish id outcome)
      | none => if s.isCancelled token then some (s.finish id (.error .cancelled)) else none
    | .transition target gate =>
      if s.lock.holder = some id ∧ isOpen s.fired gate then
        some { s with
          calls := s.calls.set id (.changed s.state target)
          state := target
          lock := s.lock.leave id }
      else none
    | .run token gate outcome =>
      if isOpen s.fired gate then some (s.finish id outcome)
      else if s.isCancelled token then some (s.finish id (.error .cancelled))
      else none
    | _ => none

instance : Stage State where
  move? := move?
  size s := s.calls.length
  drop s id := { s with calls := s.calls.set id .dropped, lock := s.lock.leave id }
  fire s token := { s with fired := token :: s.fired }

/-- An outcome, or the state before and after the transition. -/
def outcome? (s : State) (id : Nat) :
    Option (HubResult Unit ⊕ ConnectionState × ConnectionState) :=
  match s.calls[id]? with
  | some (.returned outcome) => some (.inl outcome)
  | some (.changed before after) => some (.inr (before, after))
  | _ => none

end State
end DeviceHub.Rehearsal.Lifecycle
