import DeviceHub.Proofs.Consumption.Links
import DeviceHub.Proofs.ResponseStatus
import Mathlib.Data.List.Induction

/-!
Runs of `exchange`.  The broker answers as it likes, and the token fires and the caller goes away at
any moment; a run puts down every request with its answer.
-/
namespace DeviceHub.EventHub

inductive ExchangeEvent where
  | answer (outcome : HubResult PeerAnswer)
  | cancel
  | fire (token : Token)
  | drop

/-- An exchange under way, the tokens that fired, and what it asked for with the answers. -/
structure Dialogue where
  exchange : Exchange
  fired : List Token := []
  turns : List (PeerRequest × HubResult PeerAnswer) := []

namespace Dialogue

def start (receiver sender : LinkOptions) (request : Message) (token : Token) : Dialogue :=
  { exchange := .start receiver sender request token }

/-- One event; what cannot happen changes nothing. -/
def step (s : Dialogue) : ExchangeEvent → Dialogue
  | .answer outcome =>
    match s.exchange.request?, s.exchange.answer? outcome with
    | some r, some x => { s with exchange := x, turns := s.turns ++ [(r, outcome)] }
    | _, _ => s
  | .cancel => (s.exchange.cancel? s.fired).elim s fun x => { s with exchange := x }
  | .fire token => { s with fired := token :: s.fired }
  | .drop => { s with exchange := s.exchange.drop }

def run (events : List ExchangeEvent) (s : Dialogue) : Dialogue :=
  events.foldl step s

/-- What was done to the links. -/
def deeds (s : Dialogue) : List Deed :=
  s.turns.flatMap fun turn => turn.1.linkDeeds turn.2

/-- A response has come in over a link. -/
def Received (s : Dialogue) (link : Nat) (m : Message) : Prop :=
  (.receive link, .ok (.received m)) ∈ s.turns

/-- Accepting a response was asked for, or is. -/
def AsksToAccept (s : Dialogue) (link : Nat) (m : Message) : Prop :=
  s.exchange.request? = some (.accept link m) ∨ ∃ outcome, (.accept link m, outcome) ∈ s.turns

def Accepted (s : Dialogue) (link : Nat) (m : Message) : Prop :=
  (.accept link m, .ok .done) ∈ s.turns

inductive Move (s : Dialogue) : Dialogue → Prop
  | idle : Move s s
  | fire (token : Token) : Move s { s with fired := token :: s.fired }
  | answer {r outcome x} (asked : s.exchange.request? = some r)
      (answered : s.exchange.answer? outcome = some x) :
      Move s { s with exchange := x, turns := s.turns ++ [(r, outcome)] }
  | cancel {x} (cancelled : s.exchange.cancel? s.fired = some x) :
      Move s { s with exchange := x }
  | drop : Move s { s with exchange := s.exchange.drop }

theorem step_move (s : Dialogue) (event : ExchangeEvent) : s.Move (s.step event) := by
  cases event with
  | answer outcome =>
    simp only [step]
    split
    next asked answered => exact .answer asked answered
    next => exact .idle
  | cancel =>
    unfold step
    cases hcancel : s.exchange.cancel? s.fired with
    | none => exact .idle
    | some x => exact .cancel hcancel
  | fire token => exact .fire token
  | drop => exact .drop

lemma run_induction {P : Dialogue → Prop} (keep : ∀ {s t : Dialogue}, P s → s.Move t → P t)
    (events : List ExchangeEvent) {s : Dialogue} (hs : P s) : P (s.run events) := by
  induction events generalizing s with
  | nil => exact hs
  | cons event events ih => exact ih (keep hs (s.step_move event))

end Dialogue

namespace Exchange

variable {x x' : Exchange} {fired : List Token} {o : HubResult PeerAnswer} {m : Message}

/-- An exchange is at a request over both of its links. -/
def IsBusy (x : Exchange) (receiver sender : Nat) : Prop :=
  x.phase = .sending receiver sender ∨ x.phase = .receiving receiver sender ∨
    ∃ m, x.phase = .accepting receiver sender m

/-- Where an answer leads. -/
inductive Answered (x : Exchange) : HubResult PeerAnswer → ExchangePhase → Prop
  | openReceiver {r} (phase : x.phase = .openingReceiver) :
      Answered x (.ok (.opened r)) (.openingSender r)
  | noReceiver {e} (phase : x.phase = .openingReceiver) :
      Answered x (.error e) (.returned (.error e))
  | openSender {r t} (phase : x.phase = .openingSender r) :
      Answered x (.ok (.opened t)) (.sending r t)
  | noSender {r e} (phase : x.phase = .openingSender r) :
      Answered x (.error e) (.closingReceiver r (.error e))
  | send {r t} (phase : x.phase = .sending r t) : Answered x (.ok .done) (.receiving r t)
  | pass {r t m} (phase : x.phase = .receiving r t) (passes : x.check m = .ok ()) :
      Answered x (.ok (.received m)) (.accepting r t m)
  | refuse {r t m e} (phase : x.phase = .receiving r t) (refused : x.check m = .error e) :
      Answered x (.ok (.received m)) (.closingSender r t (.error e))
  | accept {r t m} (phase : x.phase = .accepting r t m) :
      Answered x (.ok .done) (.closingSender r t (.ok m))
  | fail {r t e} (busy : x.IsBusy r t) : Answered x (.error e) (.closingSender r t (.error e))
  | closeSender {r t outcome o} (phase : x.phase = .closingSender r t outcome) :
      Answered x o (.closingReceiver r outcome)
  | closeReceiver {r outcome o} (phase : x.phase = .closingReceiver r outcome) :
      Answered x o (.returned outcome)

/-- Where a token that fired leads. -/
inductive Cancelled (x : Exchange) : ExchangePhase → Prop
  | early (phase : x.phase = .openingReceiver) : Cancelled x (.returned (.error .cancelled))
  | half {r} (phase : x.phase = .openingSender r) :
      Cancelled x (.closingReceiver r (.error .cancelled))
  | busy {r t} (busy : x.IsBusy r t) : Cancelled x (.closingSender r t (.error .cancelled))

lemma answered_of_answer? (h : x.answer? o = some x') :
    ∃ phase, x.Answered o phase ∧ x' = { x with phase } := by
  obtain ⟨phase, hphase, rfl⟩ := Option.map_eq_some_iff.1 h
  refine ⟨phase, ?_, rfl⟩
  unfold next? at hphase
  split at hphase <;> cases hphase
  next r hx => exact .openReceiver hx
  next e hx => exact .noReceiver hx
  next r t hx => exact .openSender hx
  next r e hx => exact .noSender hx
  next r t hx => exact .send hx
  next r t e hx => exact .fail (.inl hx)
  next r t m hx =>
    cases hcheck : x.check m with
    | ok _ => exact .pass hx hcheck
    | error e => exact .refuse hx hcheck
  next r t e hx => exact .fail (.inr (.inl hx))
  next r t m hx => exact .accept hx
  next r t m e hx => exact .fail (.inr (.inr ⟨m, hx⟩))
  next r t outcome hx => exact .closeSender hx
  next r outcome hx => exact .closeReceiver hx

lemma cancelled_of_cancel? (h : x.cancel? fired = some x') :
    x.token ∈ fired ∧ ∃ phase, x.Cancelled phase ∧ x' = { x with phase } := by
  simp only [cancel?, Option.ite_none_right_eq_some, Option.map_eq_some_iff,
    List.contains_iff_mem] at h
  obtain ⟨hfired, phase, hphase, rfl⟩ := h
  refine ⟨hfired, phase, ?_, rfl⟩
  unfold cancelled? at hphase
  split at hphase <;> cases hphase
  next hx => exact .early hx
  next r hx => exact .half hx
  next r t hx => exact .busy (.inl hx)
  next r t hx => exact .busy (.inr (.inl hx))
  next r t m hx => exact .busy (.inr (.inr ⟨m, hx⟩))

lemma phase_eq_of_outcome? {outcome : HubResult Message} (h : x.outcome? = some outcome) :
    x.phase = .returned outcome := by
  unfold outcome? at h
  cases hx : x.phase <;> simp_all

/-- A response that does not name the request. -/
lemma check_of_correlation {id : String} (hid : x.request.messageId = some id)
    (h : m.correlationId ≠ some id) :
    x.check m = .error (.correlationMismatch id m.correlationId) := by
  simp [check, hid, Message.checkCorrelation, h, bind, Except.bind]

/-- A response that names the request is judged by its status. -/
lemma check_of_correlated {id : String} (hid : x.request.messageId = some id)
    (h : m.correlationId = some id) : x.check m = m.checkStatus := by
  simp [check, hid, Message.checkCorrelation, h, bind, Except.bind]

end Exchange
end DeviceHub.EventHub
