import DeviceHub.Multiplexer
import Mathlib.Data.List.Induction

/-!
How a `Multiplexer` comes to be closed.  `close` latches its error once, so over a run of events of
any kind the error is that of the first one that closes.
-/
namespace DeviceHub

/-- Events some of which close a multiplexer. -/
class Closes (ε : Type) where
  error? : ε → Option HubError

/-- The error of the first close. -/
def firstClose? {ε : Type} [Closes ε] (events : List ε) : Option HubError :=
  events.findSome? Closes.error?

variable {ε σ δ : Type} [Closes ε]

lemma firstClose?_append (events : List ε) (event : ε) :
    firstClose? (events ++ [event]) = (firstClose? events).or (Closes.error? event) := by
  rw [firstClose?, List.findSome?_append, List.findSome?_singleton]
  rfl

lemma Multiplexer.closed_close [Dispatch δ] (m : Multiplexer δ) (e : HubError) :
    (m.close e).closed = m.closed.or (some e) := by
  cases hclosed : m.closed <;> simp [close, hclosed]

/-- Where every step latches the error it closes with, a run is closed with the first one. -/
theorem closed_foldl (closed : σ → Option HubError) {step : σ → ε → σ}
    (latches : ∀ s event, closed (step s event) = (closed s).or (Closes.error? event))
    {start : σ} (open_ : closed start = none) (events : List ε) :
    closed (events.foldl step start) = firstClose? events := by
  induction events using List.reverseRecOn with
  | nil => exact open_
  | append_singleton events event ih =>
    rw [List.foldl_append, List.foldl_cons, List.foldl_nil, latches, ih, firstClose?_append]

end DeviceHub
