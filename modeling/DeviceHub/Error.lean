import DeviceHub.Text.Quoted

/-!
`HubError`, what can go wrong; `message` is its wording.  Errors are values that can be delivered to
any number of waiting callers.
-/
namespace DeviceHub

inductive HubError where
  | alreadyConnected
  /-- The transport has no connection. -/
  | notReady
  /-- The client, the multiplexer or the link is torn down. -/
  | closed
  | cancelled
  | transport (reason : String)
  | linkSetup (address reason : String)
  /-- The response of the other side was not a success. -/
  | status (code : Int) (description : String)
  | correlationMismatch (expected : String) (actual : Option String)
  | decode (reason : String)
  | invalidInput (reason : String)
  | duplicateMethod (name : String)
  | credentials (reason : String)
  | config (reason : String)
  deriving DecidableEq, Inhabited

abbrev HubResult := Except HubError

namespace HubError

def message : HubError → String
  | alreadyConnected => "already connected"
  | notReady => "client is not connected"
  | closed => "closed"
  | cancelled => "operation cancelled"
  | transport reason => "transport error: " ++ reason
  | linkSetup address reason => "failed to open link " ++ address ++ ": " ++ reason
  | status code description =>
    "code = " ++ toString code ++ ", description = " ++ Text.quoted description
  | correlationMismatch expected actual =>
    "correlation id mismatch: expected " ++ expected ++ ", got " ++ Text.quotedOption actual
  | decode reason => "decode error: " ++ reason
  | invalidInput reason => "invalid input: " ++ reason
  | duplicateMethod name => "method " ++ Text.quoted name ++ " is already registered"
  | credentials reason => "credentials error: " ++ reason
  | config reason => "configuration error: " ++ reason

/-- Raised by the lifecycle of a connection and not by the network or the input. -/
def isLifecycle : HubError → Bool
  | alreadyConnected | notReady | closed | cancelled => true
  | _ => false

end HubError

/-- Why an operation comes to nothing: its caller gets an error, or it panics. -/
inductive Failure where
  | error (e : HubError)
  | panic
  deriving DecidableEq

/-- The outcome of an operation that can also panic. -/
abbrev Checked := Except Failure

namespace Checked

def ofResult {α : Type} : HubResult α → Checked α
  | .ok a => .ok a
  | .error e => .error (.error e)

theorem ofResult_eq_ok_iff {α : Type} {outcome : HubResult α} {a : α} :
    ofResult outcome = .ok a ↔ outcome = .ok a := by
  cases outcome <;> simp [ofResult]

theorem ofResult_ne_panic {α : Type} (outcome : HubResult α) :
    ofResult outcome ≠ .error .panic := by
  cases outcome <;> simp [ofResult]

/-- The sum of two integers; a sum that does not fit panics. -/
def add (a b : Int64) : Checked Int64 :=
  if (a + b).toInt = a.toInt + b.toInt then .ok (a + b) else .error .panic

theorem add_eq_ok_iff {a b c : Int64} : add a b = .ok c ↔ c.toInt = a.toInt + b.toInt := by
  unfold add
  constructor
  · intro h
    split at h
    next hsum =>
      cases h
      exact hsum
    next => cases h
  · intro h
    have hsum : a + b = c := by
      rw [← Int64.toInt_inj, Int64.toInt_add, ← h]
      exact Int.bmod_eq_of_le (by have := c.le_toInt; omega) (by have := c.toInt_lt; omega)
    rw [hsum, if_pos h]

theorem add_eq_panic_iff {a b : Int64} : add a b = .error .panic ↔
    a.toInt + b.toInt < Int64.minValue.toInt ∨ Int64.maxValue.toInt < a.toInt + b.toInt := by
  rw [Int64.toInt_minValue, Int64.toInt_maxValue]
  unfold add
  constructor
  · intro h
    split at h
    next => cases h
    next hsum =>
      refine Decidable.byContradiction fun hfits => hsum ?_
      rw [Int64.toInt_add]
      exact Int.bmod_eq_of_le (by omega) (by omega)
  · intro hout
    have hlow := (a + b).le_toInt
    have hhigh := (a + b).toInt_lt
    exact if_neg (by omega)

theorem add_cases (a b : Int64) : (∃ c, add a b = .ok c) ∨ add a b = .error .panic := by
  unfold add
  split
  next => exact .inl ⟨_, rfl⟩
  next => exact .inr rfl

end Checked
end DeviceHub
