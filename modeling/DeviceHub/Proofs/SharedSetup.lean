import DeviceHub.Proofs.Closing
import Mathlib.Data.List.Basic

/-!
Many callers of `once` on one `Multiplexer`.  They come, go on, and are dropped in any order,
attempts come to any outcome, and the multiplexer is closed at any time.
-/
namespace DeviceHub

inductive SetupEvent where
  | call
  | resume (i : Nat)
  | finish (i : Nat) (outcome : HubResult Unit)
  | drop (i : Nat)
  | close (e : HubError)

instance : Closes SetupEvent where
  error?
    | .close e => some e
    | _ => none

/-- A link and everyone who has wanted it set up. -/
structure SharedSetup (δ : Type) where
  mux : Multiplexer δ
  callers : List Once := []

namespace SharedSetup

variable {δ : Type}

def start (dispatch : δ) : SharedSetup δ :=
  { mux := { dispatch } }

def attempts (s : SharedSetup δ) : List SetupRun :=
  s.mux.setup.runs

def memo (s : SharedSetup δ) : SetupMemo :=
  s.mux.setup.memo

/-- A caller after a step of its own. -/
def put (i : Nat) (s : SharedSetup δ) (result : Multiplexer δ × Once) : SharedSetup δ :=
  { mux := result.1, callers := s.callers.set i result.2 }

/-- A caller goes on by itself if it need not wait. -/
def resume (i : Nat) (s : SharedSetup δ) (caller : Once) : SharedSetup δ :=
  ((s.mux.resume? caller).map (s.put i)).getD s

def finish (i : Nat) (outcome : HubResult Unit) (s : SharedSetup δ) : Once → SharedSetup δ
  | .running r => s.put i (s.mux.finish outcome (.running r))
  | _ => s

/-- A caller is dropped; a call that is over stays what it is. -/
def drop (i : Nat) (s : SharedSetup δ) : Once → SharedSetup δ
  | .returned _ | .dropped => s
  | caller => s.put i (s.mux.abandon caller, .dropped)

variable [Dispatch δ]

/-- One event; what cannot happen changes nothing. -/
def step (s : SharedSetup δ) : SetupEvent → SharedSetup δ
  | .call => { s with callers := s.callers ++ [.entering] }
  | .resume i => (s.callers[i]?).elim s (s.resume i)
  | .finish i outcome => (s.callers[i]?).elim s (s.finish i outcome)
  | .drop i => (s.callers[i]?).elim s (s.drop i)
  | .close e => { s with mux := s.mux.close e }

def run (events : List SetupEvent) (s : SharedSetup δ) : SharedSetup δ :=
  events.foldl step s

@[simp] lemma run_append (events : List SetupEvent) (event : SetupEvent) (s : SharedSetup δ) :
    s.run (events ++ [event]) = (s.run events).step event :=
  List.foldl_append

/-- In a run, an attempt has come to an outcome: its caller finished it. -/
def Finished (dispatch : δ) (events : List SetupEvent) (r : Nat) (outcome : HubResult Unit) :
    Prop :=
  ∃ before i after, events = before ++ .finish i outcome :: after ∧
    ((start dispatch).run before).callers[i]? = some (.running r)

omit [Dispatch δ] in
/-- Whether a caller is to look at the memo: it has just come, or what it waited for is gone. -/
def Looks (s : SharedSetup δ) (i : Nat) : Prop :=
  s.callers[i]? = some .entering ∨
    ∃ r, s.callers[i]? = some (.waiting r) ∧ s.attempts[r]? = some .abandoned

inductive Move (s : SharedSetup δ) : SetupEvent → SharedSetup δ → Prop
  | idle {event} (closing : ∀ e, event = .close e → s.mux.closed ≠ none)
      (finishing : ∀ i outcome r, event = .finish i outcome →
        s.callers[i]? ≠ some (.running r)) : Move s event s
  | call : Move s .call { s with callers := s.callers ++ [.entering] }
  | refuse {i e} (looks : s.Looks i) (closed : s.mux.closed = some e) :
      Move s (.resume i) { s with callers := s.callers.set i (.returned (.error e)) }
  | pass {i} (looks : s.Looks i) (memo : s.memo = .done) :
      Move s (.resume i) { s with callers := s.callers.set i (.returned (.ok ())) }
  | wait {i r} (looks : s.Looks i) (memo : s.memo = .running r) :
      Move s (.resume i) { s with callers := s.callers.set i (.waiting r) }
  | begin {i} (looks : s.Looks i) (closed : s.mux.closed = none) (memo : s.memo = .idle) :
      Move s (.resume i)
        { mux := { s.mux with setup := ⟨.running s.attempts.length, s.attempts ++ [.live]⟩ }
          callers := s.callers.set i (.running s.attempts.length) }
  | learn {i r outcome} (waits : s.callers[i]? = some (.waiting r))
      (finished : s.attempts[r]? = some (.finished outcome)) :
      Move s (.resume i) { s with callers := s.callers.set i (.returned outcome) }
  | finish {i r outcome} (runs : s.callers[i]? = some (.running r)) :
      Move s (.finish i outcome)
        { mux := { s.mux with
            setup := ⟨if outcome.isOk then .done else .idle,
              s.attempts.set r (.finished outcome)⟩ }
          callers := s.callers.set i (.returned outcome) }
  | abandon {i r} (runs : s.callers[i]? = some (.running r)) :
      Move s (.drop i)
        { mux := { s.mux with setup := ⟨.idle, s.attempts.set r .abandoned⟩ }
          callers := s.callers.set i .dropped }
  | leave {i} (idles : s.callers[i]? = some .entering ∨ ∃ r, s.callers[i]? = some (.waiting r)) :
      Move s (.drop i) { s with callers := s.callers.set i .dropped }
  | close {e} (opened : s.mux.closed = none) :
      Move s (.close e) { s with mux := s.mux.close e }

lemma put_enter_move {s : SharedSetup δ} {i : Nat} (looks : s.Looks i) :
    Move s (.resume i) (s.put i s.mux.enter) := by
  unfold Multiplexer.enter
  split
  next e hclosed => exact .refuse looks hclosed
  next hclosed =>
    split
    next hmemo => exact .pass looks hmemo
    next r hmemo => exact .wait looks hmemo
    next hmemo => exact .begin looks hclosed hmemo

lemma resume_move {s : SharedSetup δ} {i : Nat} {c : Once} (hc : s.callers[i]? = some c) :
    Move s (.resume i) (s.resume i c) := by
  have hidle : Move s (.resume i) s := .idle (by nofun) (by nofun)
  cases c with
  | entering => exact put_enter_move (.inl hc)
  | waiting r =>
    simp only [resume, Multiplexer.resume?]
    split
    next outcome hr => exact .learn hc hr
    next hr => exact put_enter_move (.inr ⟨r, hc, hr⟩)
    next => exact hidle
  | running r => exact hidle
  | returned outcome => exact hidle
  | dropped => exact hidle

theorem step_move (s : SharedSetup δ) (event : SetupEvent) : Move s event (s.step event) := by
  cases event with
  | call => exact .call
  | resume i =>
    change Move s _ ((s.callers[i]?).elim s (s.resume i))
    cases hc : s.callers[i]? with
    | none => exact .idle (by simp) (by simp)
    | some c => exact resume_move hc
  | finish i outcome =>
    change Move s _ ((s.callers[i]?).elim s (s.finish i outcome))
    cases hc : s.callers[i]? with
    | none => exact .idle (by simp) (by rintro _ _ r ⟨⟩; simp [hc])
    | some c =>
      cases c with
      | running r => exact .finish hc
      | _ => exact .idle (by simp) (by rintro _ _ r ⟨⟩; simp [hc])
  | drop i =>
    change Move s _ ((s.callers[i]?).elim s (s.drop i))
    cases hc : s.callers[i]? with
    | none => exact .idle (by simp) (by simp)
    | some c =>
      cases c with
      | entering => exact .leave (.inl hc)
      | waiting r => exact .leave (.inr ⟨r, hc⟩)
      | running r => exact .abandon hc
      | returned outcome => exact .idle (by simp) (by simp)
      | dropped => exact .idle (by simp) (by simp)
  | close e =>
    cases hclosed : s.mux.closed with
    | none => exact .close hclosed
    | some e' =>
      have hsame : s.step (.close e) = s := by simp [step, Multiplexer.close, hclosed]
      rw [hsame]
      exact .idle (by simp [hclosed]) (by simp)

end SharedSetup
end DeviceHub
