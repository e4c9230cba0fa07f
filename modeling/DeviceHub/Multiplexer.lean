import DeviceHub.Error

/-!
`Multiplexer` shares one conversation link among many.  Its setup memo lets `once` run one setup at
a time, whose outcome every concurrent caller gets; only success is sticky.  Its close latch keeps
the first error.
-/
namespace DeviceHub

inductive SetupRun where
  | live
  | finished (outcome : HubResult Unit)
  /-- Its caller was dropped. -/
  | abandoned

inductive SetupMemo where
  | idle
  | running (run : Nat)
  | done
  deriving DecidableEq

structure Setup where
  memo : SetupMemo := .idle
  runs : List SetupRun := []

/-- A caller of `once`. -/
inductive Once where
  /-- Has not looked at the memo yet. -/
  | entering
  /-- Waits for the outcome of another caller's attempt. -/
  | waiting (run : Nat)
  | running (run : Nat)
  | returned (outcome : HubResult Unit)
  | dropped

structure Multiplexer (δ : Type) where
  setup : Setup := {}
  closed : Option HubError := none
  dispatch : δ

class Dispatch (δ : Type) where
  /-- Delivers the error to everyone behind the link and drops them. -/
  closeAll : HubError → δ → δ

namespace Multiplexer

variable {δ : Type}

def close [Dispatch δ] (e : HubError) (m : Multiplexer δ) : Multiplexer δ :=
  match m.closed with
  | some _ => m
  | none => { m with closed := some e, dispatch := Dispatch.closeAll e m.dispatch }

def enter (m : Multiplexer δ) : Multiplexer δ × Once :=
  match m.closed with
  | some e => (m, .returned (.error e))
  | none =>
    match m.setup.memo with
    | .done => (m, .returned (.ok ()))
    | .running run => (m, .waiting run)
    | .idle =>
      let run := m.setup.runs.length
      ({ m with setup := ⟨.running run, m.setup.runs ++ [.live]⟩ }, .running run)

/-- A caller of `once` goes on by itself; one whose attempt was dropped looks at the memo again. -/
def resume? (m : Multiplexer δ) : Once → Option (Multiplexer δ × Once)
  | .entering => some m.enter
  | .waiting run =>
    match m.setup.runs[run]? with
    | some (.finished outcome) => some (m, .returned outcome)
    | some .abandoned => some m.enter
    | _ => none
  | _ => none

def finish (outcome : HubResult Unit) (m : Multiplexer δ) : Once → Multiplexer δ × Once
  | .running run =>
    let memo := if outcome.isOk then SetupMemo.done else .idle
    ({ m with setup := ⟨memo, m.setup.runs.set run (.finished outcome)⟩ }, .returned outcome)
  | caller => (m, caller)

/-- An attempt that was dropped leaves the memo empty, by `SetupGuard`. -/
def abandon (m : Multiplexer δ) : Once → Multiplexer δ
  | .running run => { m with setup := ⟨.idle, m.setup.runs.set run .abandoned⟩ }
  | _ => m

end Multiplexer
end DeviceHub
