import DeviceHub.Proofs.Dialogue.Outcome
import DeviceHub.EventHub.Grant

/-!
Runs of `put_token_continuously` and `put_credentials_continuously`.  The first grant and every
renewal after it are rounds, each with an `exchange` of its own; time passes, tokens fire and the
caller goes away whenever they like.  An upkeep puts down its rounds, when the caller was told of
success, and what was sent to the broker and when.
-/
namespace DeviceHub.EventHub

inductive UpkeepEvent where
  | answer (outcome : HubResult PeerAnswer)
  /-- A renewal that is due begins, with a request of the given id. -/
  | tick (messageId : String)
  | cancel
  | fire (token : Token)
  | clock (now : Nat)
  | drop

/-- One grant of a token: when it began, the id of its request, and its exchange. -/
structure Round where
  begun : Nat
  messageId : String
  dialogue : Dialogue

structure Sending where
  time : Nat
  message : Message

/-- A grant with the clock, the tokens that fired, and what it has done. -/
structure Upkeep where
  grant : Grant
  clock : Nat
  fired : List Token
  /-- The rounds that are over; none of them but the last one of all can be under way. -/
  past : List Round := []
  last : Option Round := none
  /-- When the first grant was done. -/
  granted : Option Nat := none
  sent : List Sending := []

namespace Exchange

variable {x x' : Exchange} {fired : List Token}

/-- The request that is on its way to the broker. -/
def sending? (x : Exchange) : Option Message :=
  match x.request? with
  | some (.send _ m) => some m
  | _ => none

def IsEarly (x : Exchange) : Prop :=
  x.phase = .openingReceiver ∨ ∃ receiver, x.phase = .openingSender receiver

def HasSent (x : Exchange) : Prop :=
  (∃ receiver sender, x.IsBusy receiver sender) ∨ ∃ m, x.phase.decided? = some (.ok m)

inductive Goes (x : Exchange) : Exchange → Prop
  | answered {o phase} (answered : x.Answered o phase) : Goes x { x with phase }
  | cancelled {phase} (cancelled : x.Cancelled phase) : Goes x { x with phase }

lemma Goes.request (h : x.Goes x') : x'.request = x.request := by
  cases h <;> rfl

lemma Goes.token (h : x.Goes x') : x'.token = x.token := by
  cases h <;> rfl

lemma IsEarly.not_hasSent (h : x.IsEarly) : ¬x.HasSent := by
  rintro (⟨receiver, sender, busy⟩ | ⟨m, decided⟩)
  · obtain hx | hx | ⟨m, hx⟩ := busy <;> obtain h | ⟨r, h⟩ := h <;> cases hx.symm.trans h
  · obtain h | ⟨r, h⟩ := h <;> · rw [h] at decided; cases decided

lemma IsEarly.sending? (h : x.IsEarly) : x.sending? = none := by
  obtain h | ⟨r, h⟩ := h <;> rw [Exchange.sending?, request?, h]

lemma hasSent_of_sending? {m : Message} (h : x.sending? = some m) : x.HasSent := by
  unfold Exchange.sending? request? at h
  cases hx : x.phase with
  | sending receiver sender => exact .inl ⟨receiver, sender, .inl hx⟩
  | _ => simp [hx] at h

lemma late_of_decided {outcome : HubResult Message} (h : x.phase.decided? = some outcome) :
    ¬x.IsEarly ∧ x.sending? = none ∧ (x.HasSent → ∃ m, outcome = .ok m) := by
  refine ⟨fun early => ?_, ?_, ?_⟩
  · obtain hx | ⟨r, hx⟩ := early <;> · rw [hx] at h; cases h
  · unfold Exchange.sending? request?
    cases hx : x.phase with
    | sending receiver sender =>
      rw [hx] at h
      cases h
    | _ => rfl
  · rintro (⟨receiver, sender, busy⟩ | ⟨m, decided⟩)
    · rw [busy.decided?] at h
      cases h
    · rw [decided] at h
      exact ⟨m, (Option.some.inj h).symm⟩

lemma goes_of_answer? {outcome : HubResult PeerAnswer} (h : x.answer? outcome = some x') :
    x.Goes x' := by
  obtain ⟨phase, answered, rfl⟩ := answered_of_answer? h
  exact .answered answered

lemma goes_of_cancel? (h : x.cancel? fired = some x') : x.Goes x' := by
  obtain ⟨-, phase, cancelled, rfl⟩ := cancelled_of_cancel? h
  exact .cancelled cancelled

lemma of_dropped (h : x.phase = .dropped) : ¬x.IsEarly ∧ ¬x.HasSent := by
  refine ⟨fun early => ?_, fun sent => ?_⟩
  · obtain hx | ⟨r, hx⟩ := early <;> cases h.symm.trans hx
  · obtain ⟨_, _, hx | hx | ⟨_, hx⟩⟩ | ⟨_, hx⟩ := sent
    · cases h.symm.trans hx
    · cases h.symm.trans hx
    · cases h.symm.trans hx
    · rw [h] at hx
      cases hx

/-- The links are opened, then the request is sent, and that is all that is sent. -/
lemma Goes.posting (h : x.Goes x') :
    x.IsEarly ∧ x'.IsEarly ∨ x.IsEarly ∧ x'.sending? = some x.request ∨
      ¬x'.IsEarly ∧ x'.sending? = none ∧ (x'.HasSent → x.HasSent) := by
  have hdecided {phase : ExchangePhase} {outcome : HubResult Message}
      (decided : phase.decided? = some outcome) (sent : (∃ m, outcome = .ok m) → x.HasSent) :
      ¬({ x with phase } : Exchange).IsEarly ∧ ({ x with phase } : Exchange).sending? = none ∧
        (({ x with phase } : Exchange).HasSent → x.HasSent) := by
    obtain ⟨hlate, hsilent, hsent⟩ := late_of_decided (x := { x with phase }) decided
    exact ⟨hlate, hsilent, fun h => sent (hsent h)⟩
  cases h with
  | answered answered =>
    cases answered with
    | openReceiver phase => exact .inl ⟨.inl phase, .inr ⟨_, rfl⟩⟩
    | openSender phase => exact .inr (.inl ⟨.inr ⟨_, phase⟩, rfl⟩)
    | send phase => exact .inr (.inr ⟨by simp [IsEarly], rfl, fun _ => .inl ⟨_, _, .inl phase⟩⟩)
    | pass phase =>
      exact .inr (.inr ⟨by simp [IsEarly], rfl, fun _ => .inl ⟨_, _, .inr (.inl phase)⟩⟩)
    | noReceiver | noSender | refuse => exact .inr (.inr (hdecided rfl (by simp)))
    | accept phase =>
      exact .inr (.inr (hdecided rfl fun _ => .inl ⟨_, _, .inr (.inr ⟨_, phase⟩)⟩))
    | fail busy => exact .inr (.inr (hdecided rfl fun _ => .inl ⟨_, _, busy⟩))
    | closeSender phase | closeReceiver phase =>
      refine .inr (.inr (hdecided rfl ?_))
      rintro ⟨m, rfl⟩
      exact .inr ⟨m, by rw [phase]; rfl⟩
  | cancelled cancelled => exact .inr (.inr (hdecided cancelled.decided?.2 (by simp)))

end Exchange

/-- What holds of an exchange holds whichever tokens fired. -/
lemma Dialogue.Sound.with_fired {d : Dialogue} {request : Message} (h : d.Sound request)
    (fired : List Token) : Dialogue.Sound request { d with fired } :=
  ⟨h.asks, h.balanced, h.checked, h.received, h.judged, h.accepted, h.refused⟩

namespace Grant

def exchange? (g : Grant) : Option Exchange :=
  match g.phase with
  | .first x | .renewing x _ => some x
  | _ => none

/-- Only an exchange under way can be changed. -/
lemma withExchange?_eq_some {g g' : Grant} {clock : Nat} {change : Exchange → Option Exchange}
    (h : g.withExchange? clock change = some g') : ∃ x x', g.exchange? = some x ∧
      change x = some x' ∧ g.withExchange? clock (fun _ => some x') = some g' := by
  unfold withExchange? at h ⊢
  unfold exchange?
  cases hphase : g.phase with
  | first x | renewing x =>
    simp only [hphase] at h
    obtain ⟨x', hx', rfl⟩ := Option.map_eq_some_iff.1 h
    exact ⟨x, x', rfl, hx', rfl⟩
  | _ => simp [hphase] at h

end Grant

namespace Upkeep

def rounds (s : Upkeep) : List Round :=
  s.past ++ s.last.toList

/-- The grant goes on: success is put down when it comes, and a request when it is sent. -/
def note (g : Grant) (s : Upkeep) : Upkeep :=
  { s with
    grant := g
    granted :=
      match s.granted, g.outcome? with
      | none, some (.ok _) => some s.clock
      | granted, _ => granted
    sent :=
      match s.grant.exchange?.bind Exchange.sending?, g.exchange?.bind Exchange.sending? with
      | none, some message => s.sent ++ [⟨s.clock, message⟩]
      | _, _ => s.sent }

@[simp] lemma note_grant (g : Grant) (s : Upkeep) : (s.note g).grant = g := rfl
@[simp] lemma note_clock (g : Grant) (s : Upkeep) : (s.note g).clock = s.clock := rfl
@[simp] lemma note_fired (g : Grant) (s : Upkeep) : (s.note g).fired = s.fired := rfl

def converse (event : ExchangeEvent) (s : Upkeep) : Upkeep :=
  { s with last := s.last.map fun r => { r with dialogue := r.dialogue.step event } }

@[simp] lemma converse_clock (event : ExchangeEvent) (s : Upkeep) :
    (s.converse event).clock = s.clock := rfl
@[simp] lemma converse_fired (event : ExchangeEvent) (s : Upkeep) :
    (s.converse event).fired = s.fired := rfl

def enter (messageId : String) (g : Grant) (s : Upkeep) : Upkeep :=
  match g.phase with
  | .renewing exchange _ =>
    { s with past := s.rounds, last := some ⟨s.clock, messageId, { exchange, fired := s.fired }⟩ }
  | _ => s

def start (plan : GrantPlan) (clock : Nat) (messageId : String) (caller : Token)
    (fired : List Token) : Upkeep :=
  let grant := Grant.start plan clock messageId caller
  { grant, clock, fired
    last := grant.exchange?.map fun exchange => ⟨clock, messageId, { exchange, fired }⟩ }

/-- One event; what cannot happen changes nothing. -/
def step (s : Upkeep) : UpkeepEvent → Upkeep
  | .answer outcome =>
    (s.grant.answer? s.clock outcome).elim s fun g => (s.converse (.answer outcome)).note g
  | .tick messageId =>
    (s.grant.tick? s.clock messageId).elim s fun g => (s.enter messageId g).note g
  | .cancel => (s.grant.cancel? s.clock s.fired).elim s fun g => (s.converse .cancel).note g
  | .fire token => { s.converse (.fire token) with fired := token :: s.fired }
  | .clock now => { s with clock := Nat.max s.clock now }
  | .drop => (if s.grant.outcome?.isNone then s.converse .drop else s).note s.grant.drop

def run (events : List UpkeepEvent) (s : Upkeep) : Upkeep :=
  events.foldl step s

@[simp] lemma run_append (events : List UpkeepEvent) (event : UpkeepEvent) (s : Upkeep) :
    s.run (events ++ [event]) = (s.run events).step event :=
  List.foldl_append

end Upkeep

end DeviceHub.EventHub
