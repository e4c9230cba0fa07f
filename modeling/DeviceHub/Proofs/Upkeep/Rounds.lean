import DeviceHub.Proofs.Upkeep

/-!
The rounds of `grant_continuously`.  One after the other they begin, each when it is due and after
the one before has granted its token, and send what they are to send.
-/
namespace DeviceHub.EventHub

/-- A grant of the token that was minted for it. -/
def Round.Sound (plan : GrantPlan) (r : Round) : Prop :=
  ∃ token, plan.mint r.begun = .ok token ∧
    r.dialogue.Sound (tokenRequest plan.tokenType plan.audience token r.messageId)

def Round.Succeeded (r : Round) : Prop :=
  ∃ m, r.dialogue.exchange.outcome? = some (.ok m)

namespace Upkeep

variable {plan : GrantPlan} {s : Upkeep} {r : Round} {x x' : Exchange} {g : Grant}

/-- Every round begins in time, and every request is that of its round. -/
structure Kept (plan : GrantPlan) (s : Upkeep) : Prop where
  sound : ∀ (k : Nat) (r : Round), s.rounds[k]? = some r → r.Sound plan ∧ r.begun ≤ s.clock
  due : ∀ (k : Nat) (r : Round), s.rounds[k]? = some r → 0 < k →
    ∃ t, s.granted = some t ∧ t + k * plan.period ≤ r.begun
  posted : ∀ (k : Nat) (e : Sending), s.sent[k]? = some e →
    ∃ r : Round, s.rounds[k]? = some r ∧ e.message = r.dialogue.exchange.request ∧
      r.begun ≤ e.time ∧ e.time ≤ s.clock

lemma getElem?_concat_cases {α : Type} {xs : List α} {a b : α} {k : Nat}
    (h : (xs ++ [a])[k]? = some b) : xs[k]? = some b ∨ k = xs.length ∧ b = a := by
  obtain hlt | hge := Nat.lt_or_ge k xs.length
  · rw [List.getElem?_append_left hlt] at h
    exact .inl h
  · rw [List.getElem?_append_right hge, List.getElem?_singleton,
      Option.ite_none_right_eq_some] at h
    exact .inr ⟨by omega, (Option.some.inj h.2).symm⟩

lemma rounds_eq (h : s.last = some r) : s.rounds = s.past ++ [r] := by
  rw [rounds, h]
  rfl

lemma getElem?_rounds (h : s.last = some r) : s.rounds[s.past.length]? = some r := by
  simp [rounds_eq h]

/-- Only the last round is changed by what goes on in its exchange. -/
lemma getElem?_converse (event : ExchangeEvent) (s : Upkeep) (k : Nat) :
    (s.converse event).rounds[k]? = s.rounds[k]?.map fun r =>
      if k = s.past.length then { r with dialogue := r.dialogue.step event } else r := by
  unfold rounds converse
  cases s.last with
  | none =>
    obtain hlt | hge := Nat.lt_or_ge k s.past.length
    · simp [hlt, Nat.ne_of_lt hlt]
    · simp [hge]
  | some r =>
    obtain hlt | heq | hgt := Nat.lt_trichotomy k s.past.length
    · simp [hlt, Nat.ne_of_lt hlt, List.getElem?_append_left]
    · simp [heq]
    · have hnone : k - s.past.length ≠ 0 := by omega
      simp [List.getElem?_append_right (Nat.le_of_lt hgt), hnone]

lemma Kept.converse (h : s.Kept plan) (event : ExchangeEvent) : (s.converse event).Kept plan where
  sound k r hr := by
    rw [getElem?_converse] at hr
    obtain ⟨r, hr', rfl⟩ := Option.map_eq_some_iff.1 hr
    obtain ⟨⟨token, hmint, hdialogue⟩, hbegun⟩ := h.sound k r hr'
    split
    · exact ⟨⟨token, hmint, hdialogue.move (r.dialogue.step_move event)⟩, hbegun⟩
    · exact ⟨⟨token, hmint, hdialogue⟩, hbegun⟩
  due k r hr hk := by
    rw [getElem?_converse] at hr
    obtain ⟨r, hr', rfl⟩ := Option.map_eq_some_iff.1 hr
    obtain ⟨t, hgranted, hdue⟩ := h.due k r hr' hk
    refine ⟨t, hgranted, ?_⟩
    split <;> exact hdue
  posted k e he := by
    obtain ⟨r, hr, hmessage, hbegun, htime⟩ := h.posted k e he
    obtain ⟨⟨token, hmint, hdialogue⟩, -⟩ := h.sound k r hr
    rw [getElem?_converse, hr]
    refine ⟨_, rfl, ?_⟩
    split
    · have hasks := (hdialogue.move (r.dialogue.step_move event)).asks
      exact ⟨by rw [hmessage, hdialogue.asks, hasks], hbegun, htime⟩
    · exact ⟨hmessage, hbegun, htime⟩

/-- Time passes, success is told, and a round sends its request. -/
lemma Kept.mono {u : Upkeep} (h : s.Kept plan) (rounds : u.rounds = s.rounds)
    (clock : s.clock ≤ u.clock) (granted : ∀ t, s.granted = some t → u.granted = some t)
    (sent : u.sent = s.sent ∨ ∃ r, s.rounds[s.sent.length]? = some r ∧
      u.sent = s.sent ++ [⟨u.clock, r.dialogue.exchange.request⟩]) : u.Kept plan where
  sound k r hr := by
    rw [rounds] at hr
    exact (h.sound k r hr).imp_right (Nat.le_trans · clock)
  due k r hr hk := by
    rw [rounds] at hr
    obtain ⟨t, hgranted, hdue⟩ := h.due k r hr hk
    exact ⟨t, granted t hgranted, hdue⟩
  posted k e he := by
    have hold (he : s.sent[k]? = some e) : ∃ r : Round, u.rounds[k]? = some r ∧
        e.message = r.dialogue.exchange.request ∧ r.begun ≤ e.time ∧ e.time ≤ u.clock := by
      rw [rounds]
      obtain ⟨r, hr, hmessage, hbegun, htime⟩ := h.posted k e he
      exact ⟨r, hr, hmessage, hbegun, Nat.le_trans htime clock⟩
    obtain hsent | ⟨r, hr, hsent⟩ := sent
    · exact hold (hsent ▸ he)
    · rw [hsent] at he
      obtain he | ⟨rfl, rfl⟩ := getElem?_concat_cases he
      · exact hold he
      · exact ⟨r, by rw [rounds, hr], rfl, Nat.le_trans (h.sound _ r hr).2 clock, Nat.le_refl _⟩

/-- What an upkeep has come to, by the phase of the grant. -/
inductive Stage (plan : GrantPlan) (s : Upkeep) : Prop
  | first {x : Exchange} {r : Round} (phase : s.grant.phase = .first x) (past : s.past = [])
      (last : s.last = some r) (under : r.dialogue.exchange = x) (open_ : x.outcome? = none)
      (granted : s.granted = none)
  | failed {failure : Failure} (phase : s.grant.phase = .failed failure) (past : s.past = [])
      (reason : ∀ r : Round, s.last = some r →
        ∃ e, r.dialogue.exchange.outcome? = some (.error e) ∧ failure = .error e)
      (granted : s.granted = none)
  | waiting {deadline t : Nat} {r : Round} (phase : s.grant.phase = .waiting deadline)
      (last : s.last = some r) (succeeded : r.Succeeded) (granted : s.granted = some t)
      (due : t + (s.past.length + 1) * plan.period ≤ deadline)
  | renewing {x : Exchange} {deadline t : Nat} {r : Round}
      (phase : s.grant.phase = .renewing x deadline) (later : s.past ≠ []) (last : s.last = some r)
      (under : r.dialogue.exchange = x) (open_ : x.outcome? = none) (granted : s.granted = some t)
      (due : t + (s.past.length + 1) * plan.period ≤ deadline)
  | ended {t : Nat} {r : Round} (phase : s.grant.phase = .ended) (last : s.last = some r)
      (closed : r.dialogue.exchange.outcome?.isSome) (first : s.past = [] → r.Succeeded)
      (granted : s.granted = some t)
  | dropped {r : Round} (phase : s.grant.phase = .dropped) (past : s.past = [])
      (last : s.last = some r) (gone : r.dialogue.exchange.phase = .dropped)
      (granted : s.granted = none)

/-- What holds of an upkeep at every moment. -/
structure Sound (plan : GrantPlan) (s : Upkeep) : Prop where
  planned : s.grant.plan = plan
  kept : s.Kept plan
  past : ∀ r ∈ s.past, Round.Succeeded r
  stage : s.Stage plan
  heard : ∀ r : Round, s.last = some r → r.dialogue.fired = s.fired
  early : ∀ r : Round, s.last = some r → r.dialogue.exchange.IsEarly →
    s.sent.length = s.past.length
  sure : ∀ r : Round, s.last = some r → r.dialogue.exchange.HasSent →
    s.sent.length = s.past.length + 1

lemma Stage.under (h : s.Stage plan) (under : s.grant.exchange? = some x) :
    ∃ r, s.last = some r ∧ r.dialogue.exchange = x ∧ x.outcome? = none := by
  unfold Grant.exchange? at under
  cases h with
  | first phase _ last under' open_ =>
    rw [phase] at under
    cases under
    exact ⟨_, last, under', open_⟩
  | renewing phase _ last under' open_ =>
    rw [phase] at under
    cases under
    exact ⟨_, last, under', open_⟩
  | failed phase | waiting phase | ended phase | dropped phase =>
    rw [phase] at under
    cases under

lemma last_converse (event : ExchangeEvent) (h : s.last = some r) :
    (s.converse event).last = some { r with dialogue := r.dialogue.step event } := by
  rw [converse, h]
  rfl

/-- The exchange under way becomes another one. -/
lemma Stage.turn (h : s.Stage plan) (planned : s.grant.plan = plan) (last : s.last = some r)
    (under : s.grant.exchange? = some r.dialogue.exchange) {event : ExchangeEvent}
    (goes : (r.dialogue.step event).exchange = x')
    (hg : s.grant.withExchange? s.clock (fun _ => some x') = some g) :
    ((s.converse event).note g).Stage plan ∧ g.plan = plan ∧
      g.exchange?.bind Exchange.sending? = x'.sending? := by
  have hlast := last_converse event last
  have hsilent {outcome : HubResult Message} (hout : x'.outcome? = some outcome) :
      none = x'.sending? := by
    rw [Exchange.sending?, Exchange.request?, Exchange.phase_eq_of_outcome? hout]
  cases h with
  | first phase past _ _ _ granted =>
    simp only [Grant.withExchange?, phase, Option.map_some, Option.some.injEq] at hg
    cases hout : x'.outcome? with
    | none =>
      simp only [Grant.settle, hout] at hg
      subst hg
      exact ⟨.first rfl past hlast goes hout (by simp [note, converse, granted, Grant.outcome?]),
        planned, rfl⟩
    | some outcome =>
      cases outcome with
      | error e =>
        simp only [Grant.settle, hout] at hg
        subst hg
        refine ⟨.failed rfl past (fun r' hr' => ?_) ?_, planned, hsilent hout⟩
        · cases hlast.symm.trans hr'
          exact ⟨e, by rw [goes, hout], rfl⟩
        · simp [note, converse, granted, Grant.outcome?]
      | ok m =>
        simp only [Grant.settle, hout] at hg
        subst hg
        have hsucceeded : Round.Succeeded { r with dialogue := r.dialogue.step event } :=
          ⟨m, by rw [goes, hout]⟩
        unfold Grant.renewals
        split
        · exact ⟨.ended (t := s.clock) rfl hlast (by rw [goes, hout]; rfl) (fun _ => hsucceeded)
            (by simp [note, converse, granted, Grant.outcome?]), planned, hsilent hout⟩
        · refine ⟨.waiting (t := s.clock) rfl hlast hsucceeded
            (by simp [note, converse, granted, Grant.outcome?]) ?_, planned, hsilent hout⟩
          simp [note, converse, past, planned]
  | renewing phase later _ _ _ granted due =>
    have hgranted (g : Grant) : ((s.converse event).note g).granted = s.granted := by
      simp [note, converse, granted]
    simp only [Grant.withExchange?, phase, Option.map_some, Option.some.injEq] at hg
    cases hout : x'.outcome? with
    | none =>
      simp only [Grant.settle, hout] at hg
      subst hg
      exact ⟨.renewing rfl later hlast goes hout ((hgranted _).trans granted) due, planned, rfl⟩
    | some outcome =>
      cases outcome with
      | error e =>
        simp only [Grant.settle, hout] at hg
        subst hg
        exact ⟨.ended rfl hlast (by rw [goes, hout]; rfl) (fun hnil => absurd hnil later)
          ((hgranted _).trans granted), planned, hsilent hout⟩
      | ok m =>
        simp only [Grant.settle, hout] at hg
        subst hg
        exact ⟨.waiting rfl hlast ⟨m, by rw [goes, hout]⟩ ((hgranted _).trans granted) due,
          planned, hsilent hout⟩
  | failed phase | waiting phase | ended phase | dropped phase =>
    rw [Grant.exchange?, phase] at under
    cases under

/-- What is put down when the grant goes on. -/
lemma note_kept (h : s.Kept plan) (hsent : (s.note g).sent = s.sent ∨
      ∃ r, s.rounds[s.sent.length]? = some r ∧
        (s.note g).sent = s.sent ++ [⟨s.clock, r.dialogue.exchange.request⟩]) :
    (s.note g).Kept plan :=
  h.mono rfl (Nat.le_refl _) (fun t ht => by simp [note, ht]) hsent

/-- Nothing is sent unless the grant comes to a request. -/
lemma sent_note (h : g.exchange?.bind Exchange.sending? = none) : (s.note g).sent = s.sent := by
  simp only [note, h]
  split
  next hsome => cases hsome
  · rfl

lemma sent_note_sending {message : Message}
    (before : s.grant.exchange?.bind Exchange.sending? = none)
    (sends : g.exchange?.bind Exchange.sending? = some message) :
    (s.note g).sent = s.sent ++ [⟨s.clock, message⟩] := by
  simp only [note, before, sends]

lemma Sound.turn (h : s.Sound plan) (last : s.last = some r)
    (under : s.grant.exchange? = some r.dialogue.exchange) {event : ExchangeEvent}
    (goes : (r.dialogue.step event).exchange = x') (step : r.dialogue.exchange.Goes x')
    (fired : (r.dialogue.step event).fired = s.fired)
    (hg : s.grant.withExchange? s.clock (fun _ => some x') = some g) :
    ((s.converse event).note g).Sound plan := by
  obtain ⟨hstage, hplan, hsending⟩ := h.stage.turn h.planned last under goes hg
  have hlast := last_converse event last
  have hkept := h.kept.converse event
  have hlater {r' : Round} (hr' : ((s.converse event).note g).last = some r') :
      r' = { r with dialogue := r.dialogue.step event } :=
    Option.some.inj (Eq.trans hr'.symm hlast)
  obtain ⟨early, early'⟩ | ⟨early, sends⟩ | ⟨late, silent, sent⟩ := step.posting
  · have hsame : ((s.converse event).note g).sent = s.sent :=
      sent_note (hsending.trans early'.sending?)
    refine ⟨hplan, note_kept hkept (.inl hsame), h.past, hstage, fun r' hr' => ?_,
      fun r' hr' _ => ?_, fun r' hr' hsent' => ?_⟩
    · rw [hlater hr']
      exact fired
    · rw [hsame]
      exact h.early r last early
    · rw [hlater hr'] at hsent'
      exact absurd hsent' (goes ▸ early'.not_hasSent)
  · have happend : ((s.converse event).note g).sent =
        s.sent ++ [⟨s.clock, r.dialogue.exchange.request⟩] := by
      refine sent_note_sending ?_ (hsending.trans sends)
      change s.grant.exchange?.bind Exchange.sending? = none
      rw [under]
      exact early.sending?
    have hlength := h.early r last early
    refine ⟨hplan, note_kept hkept (.inr ⟨{ r with dialogue := r.dialogue.step event }, ?_, ?_⟩),
      h.past, hstage, fun r' hr' => ?_, fun r' hr' early' => ?_, fun r' hr' hsent' => ?_⟩
    · have hround := getElem?_rounds hlast
      rwa [show (s.converse event).past.length = s.sent.length from hlength.symm] at hround
    · rw [happend, ← step.request, ← goes]
      rfl
    · rw [hlater hr']
      exact fired
    · rw [hlater hr'] at early'
      exact absurd (Exchange.hasSent_of_sending? sends) (goes ▸ early'.not_hasSent)
    · rw [happend, List.length_append, hlength]
      rfl
  · have hsame : ((s.converse event).note g).sent = s.sent :=
      sent_note (hsending.trans silent)
    refine ⟨hplan, note_kept hkept (.inl hsame), h.past, hstage, fun r' hr' => ?_,
      fun r' hr' early' => ?_, fun r' hr' hsent' => ?_⟩
    · rw [hlater hr']
      exact fired
    · rw [hlater hr'] at early'
      exact absurd early' (goes ▸ late)
    · rw [hsame]
      rw [hlater hr'] at hsent'
      exact h.sure r last (sent (goes ▸ hsent'))

lemma Sound.answer (h : s.Sound plan) {outcome : HubResult PeerAnswer}
    (hg : s.grant.answer? s.clock outcome = some g) :
    ((s.converse (.answer outcome)).note g).Sound plan := by
  obtain ⟨x, x', under, hx', hg⟩ := Grant.withExchange?_eq_some hg
  obtain ⟨r, last, rfl, -⟩ := h.stage.under under
  obtain ⟨request, hrequest⟩ := Exchange.request?_of_answer? hx'
  have hstep : r.dialogue.step (.answer outcome) =
      { r.dialogue with exchange := x', turns := r.dialogue.turns ++ [(request, outcome)] } := by
    simp only [Dialogue.step, hrequest, hx']
  exact h.turn last under (by rw [hstep]) (Exchange.goes_of_answer? hx')
    (by rw [hstep]; exact h.heard r last) hg

lemma Sound.cancel_exchange (h : s.Sound plan)
    (hg : s.grant.withExchange? s.clock (·.cancel? s.fired) = some g) :
    ((s.converse .cancel).note g).Sound plan := by
  obtain ⟨x, x', under, hx', hg⟩ := Grant.withExchange?_eq_some hg
  obtain ⟨r, last, rfl, -⟩ := h.stage.under under
  have hstep : r.dialogue.step .cancel = { r.dialogue with exchange := x' } := by
    simp only [Dialogue.step, h.heard r last, hx', Option.elim]
  exact h.turn last under (by rw [hstep]) (Exchange.goes_of_cancel? hx')
    (by rw [hstep]; exact h.heard r last) hg

lemma Sound.finish (h : s.Sound plan) {deadline : Nat} (waits : s.grant.phase = .waiting deadline) :
    (s.note { s.grant with phase := .ended }).Sound plan := by
  cases h.stage with
  | @waiting _ t r phase last succeeded granted due =>
    have hsent : (s.note { s.grant with phase := .ended }).sent = s.sent := sent_note rfl
    obtain ⟨m, hm⟩ := succeeded
    refine ⟨h.planned, note_kept h.kept (.inl hsent), h.past,
      .ended (t := t) rfl last (by rw [hm]; rfl) (fun _ => ⟨m, hm⟩) (by simp [note, granted]),
      h.heard, ?_, ?_⟩
    · rw [hsent]
      exact h.early
    · rw [hsent]
      exact h.sure
  | first phase | failed phase | renewing phase | ended phase | dropped phase =>
    rw [waits] at phase
    cases phase

/-- Who waits between two grants has no exchange to cancel. -/
lemma Sound.converse_cancel (h : s.Sound plan) {deadline : Nat}
    (waits : s.grant.phase = .waiting deadline) : s.converse .cancel = s := by
  cases h.stage with
  | @waiting _ t r phase last succeeded granted due =>
    obtain ⟨m, hm⟩ := succeeded
    have hstep : r.dialogue.step .cancel = r.dialogue := by
      have hcancel : r.dialogue.exchange.cancel? r.dialogue.fired = none := by
        simp [Exchange.cancel?, Exchange.cancelled?, Exchange.phase_eq_of_outcome? hm]
      rw [Dialogue.step, hcancel]
      rfl
    rw [converse, last, Option.map_some, hstep, ← last]
  | first phase | failed phase | renewing phase | ended phase | dropped phase =>
    rw [waits] at phase
    cases phase

lemma Sound.cancel (h : s.Sound plan) (hg : s.grant.cancel? s.clock s.fired = some g) :
    ((s.converse .cancel).note g).Sound plan := by
  cases hphase : s.grant.phase with
  | waiting deadline =>
    simp only [Grant.cancel?, hphase, Option.ite_none_right_eq_some, Option.some.injEq] at hg
    rw [h.converse_cancel hphase, ← hg.2]
    exact h.finish hphase
  | _ => exact h.cancel_exchange (by simpa only [Grant.cancel?, hphase] using hg)

lemma Kept.enter (h : s.Kept plan) (begun : r.begun = s.clock) (sound : r.Sound plan) {t : Nat}
    (granted : s.granted = some t) (due : t + s.rounds.length * plan.period ≤ s.clock) :
    Kept plan { s with past := s.rounds, last := some r } := by
  have hrounds : { s with past := s.rounds, last := some r : Upkeep }.rounds = s.rounds ++ [r] :=
    rounds_eq rfl
  refine ⟨fun k r' hr => ?_, fun k r' hr hk => ?_, fun k e he => ?_⟩
  · rw [hrounds] at hr
    obtain hr | ⟨-, rfl⟩ := getElem?_concat_cases hr
    · exact h.sound k r' hr
    · exact ⟨sound, Nat.le_of_eq begun⟩
  · rw [hrounds] at hr
    obtain hr | ⟨rfl, rfl⟩ := getElem?_concat_cases hr
    · exact h.due k r' hr hk
    · exact ⟨t, granted, begun ▸ due⟩
  · obtain ⟨r', hr, hposted⟩ := h.posted k e he
    refine ⟨r', ?_, hposted⟩
    rw [hrounds, List.getElem?_append_left (List.getElem?_eq_some_iff.1 hr).1, hr]

lemma Sound.enter (h : s.Sound s.grant.plan) {deadline due : Nat} {token messageId : String}
    (waits : s.grant.phase = .waiting deadline) (late : deadline ≤ s.clock)
    (mint : s.grant.plan.mint s.clock = .ok token) (later : deadline + s.grant.plan.period ≤ due)
    (hx : tokenExchange s.grant.plan.tokenType s.grant.plan.audience token messageId
      s.grant.plan.stop = x)
    (hg : { s.grant with phase := .renewing x due } = g) :
    ((s.enter messageId g).note g).Sound s.grant.plan := by
  cases h.stage with
  | @waiting deadline' t r phase last succeeded granted due' =>
    obtain rfl : deadline = deadline' := by
      rw [waits] at phase
      cases phase
      rfl
    have hrounds : s.rounds = s.past ++ [r] := rounds_eq last
    obtain ⟨m, hm⟩ := succeeded
    have hlength : s.sent.length = s.rounds.length := by
      have hsure := h.sure r last (.inr ⟨m, by rw [Exchange.phase_eq_of_outcome? hm]; rfl⟩)
      simpa [hrounds] using hsure
    subst hg
    have hearly : x.IsEarly := hx ▸ .inl rfl
    have hnew := h.kept.enter (r := ⟨s.clock, messageId, ⟨x, s.fired, []⟩⟩) rfl
      ⟨token, mint, hx ▸ Dialogue.Sound.with_fired (.start ..) _⟩ granted
      (by simp only [hrounds, List.length_append, List.length_singleton]; omega)
    have hsame := sent_note (s := s.enter messageId { s.grant with phase := .renewing x due })
      (g := { s.grant with phase := .renewing x due }) hearly.sending?
    refine ⟨rfl, note_kept hnew (.inl hsame), fun r' hr' => ?_,
      .renewing (t := t) rfl ?_ rfl rfl (hx ▸ rfl) (by simp [note, enter, granted]) ?_,
      fun r' hr' => ?_, fun r' hr' _ => hsame ▸ hlength, fun r' hr' hs => ?_⟩
    · have hmem : r' ∈ s.past ++ [r] := hrounds ▸ hr'
      obtain hr' | hr' := List.mem_append.1 hmem
      · exact h.past r' hr'
      · exact List.mem_singleton.1 hr' ▸ ⟨m, hm⟩
    · change s.rounds ≠ []
      simp [hrounds]
    · change t + (s.rounds.length + 1) * s.grant.plan.period ≤ due
      rw [hrounds, List.length_append, List.length_singleton, Nat.succ_mul]
      omega
    · cases hr'
      rfl
    · cases hr'
      exact absurd hs hearly.not_hasSent
  | first phase | failed phase | renewing phase | ended phase | dropped phase =>
    rw [waits] at phase
    cases phase

lemma Sound.tick (h : s.Sound plan) {messageId : String}
    (hg : s.grant.tick? s.clock messageId = some g) :
    ((s.enter messageId g).note g).Sound plan := by
  obtain rfl := h.planned
  unfold Grant.tick? at hg
  split at hg
  next deadline waits =>
    split at hg
    · cases hg
    next hdue =>
      split at hg
      · cases hg
        exact h.finish waits
      next token hmint =>
        refine h.enter waits (Nat.not_lt.1 hdue) hmint ?_ rfl (Option.some.inj hg)
        split <;> omega
  · cases hg

/-- What changes no exchange and nothing that was put down. -/
lemma Sound.keep {u : Upkeep} (h : s.Sound plan) (kept : u.Kept plan) (grant : u.grant = s.grant)
    (past : u.past = s.past) (granted : u.granted = s.granted) (sent : u.sent = s.sent)
    (last : u.last.map (·.dialogue.exchange) = s.last.map (·.dialogue.exchange))
    (heard : ∀ r, u.last = some r → r.dialogue.fired = u.fired) : u.Sound plan := by
  have hback {r : Round} (hr : u.last = some r) :
      ∃ r', s.last = some r' ∧ r'.dialogue.exchange = r.dialogue.exchange :=
    Option.map_eq_some_iff.1 (by rw [← last, hr]; rfl)
  have hforth {r : Round} (hr : s.last = some r) :
      ∃ r', u.last = some r' ∧ r'.dialogue.exchange = r.dialogue.exchange :=
    Option.map_eq_some_iff.1 (by rw [last, hr]; rfl)
  refine ⟨by rw [grant, h.planned], kept, past ▸ h.past, ?_, heard, fun r hr early => ?_,
    fun r hr sure => ?_⟩
  · cases h.stage with
    | first phase past' last under open_ granted' =>
      obtain ⟨r', hr', hsame⟩ := hforth last
      exact .first (grant ▸ phase) (past ▸ past') hr' (hsame.trans under) open_
        (granted.trans granted')
    | failed phase past' reason granted' =>
      refine .failed (grant ▸ phase) (past ▸ past') (fun r hr => ?_) (granted.trans granted')
      obtain ⟨r', hr', hsame⟩ := hback hr
      exact hsame ▸ reason r' hr'
    | waiting phase last succeeded granted' due =>
      obtain ⟨r', hr', hsame⟩ := hforth last
      refine .waiting (grant ▸ phase) hr' ?_ (granted.trans granted') (past ▸ due)
      rwa [Round.Succeeded, hsame]
    | renewing phase later last under open_ granted' due =>
      obtain ⟨r', hr', hsame⟩ := hforth last
      exact .renewing (grant ▸ phase) (past ▸ later) hr' (hsame.trans under) open_
        (granted.trans granted') (past ▸ due)
    | ended phase last closed first granted' =>
      obtain ⟨r', hr', hsame⟩ := hforth last
      refine .ended (grant ▸ phase) hr' (hsame ▸ closed) (fun hnil => ?_) (granted.trans granted')
      rw [Round.Succeeded, hsame]
      exact first (past ▸ hnil)
    | dropped phase past' last gone granted' =>
      obtain ⟨r', hr', hsame⟩ := hforth last
      exact .dropped (grant ▸ phase) (past ▸ past') hr' (hsame ▸ gone) (granted.trans granted')
  · obtain ⟨r', hr', hsame⟩ := hback hr
    rw [sent, past]
    exact h.early r' hr' (hsame ▸ early)
  · obtain ⟨r', hr', hsame⟩ := hback hr
    rw [sent, past]
    exact h.sure r' hr' (hsame ▸ sure)

lemma Sound.fire (h : s.Sound plan) (token : Token) :
    Sound plan { s.converse (.fire token) with fired := token :: s.fired } := by
  refine h.keep ((h.kept.converse (.fire token)).mono rfl (Nat.le_refl _) (fun _ ht => ht)
    (.inl rfl)) rfl rfl rfl rfl ?_ fun r hr => ?_
  · cases hlast : s.last <;> simp [converse, hlast, Dialogue.step]
  · obtain ⟨r', hr', rfl⟩ := Option.map_eq_some_iff.1 hr
    exact congrArg (token :: ·) (h.heard r' hr')

lemma Sound.pass (h : s.Sound plan) (now : Nat) :
    Sound plan { s with clock := Nat.max s.clock now } :=
  h.keep (h.kept.mono rfl (Nat.le_max_left _ _) (fun _ ht => ht) (.inl rfl)) rfl rfl rfl rfl rfl
    h.heard

lemma sent_note_self (s : Upkeep) : (s.note s.grant).sent = s.sent := by
  simp only [note]
  split
  next hnone hsome =>
    rw [hnone] at hsome
    cases hsome
  · rfl

lemma note_self (told : s.granted = none → ∀ u, s.grant.outcome? ≠ some (.ok u)) :
    s.note s.grant = s := by
  have hgranted : (s.note s.grant).granted = s.granted := by
    simp only [note]
    split
    next hnone hok => exact absurd hok (told hnone _)
    · rfl
  calc s.note s.grant
    _ = { s with granted := (s.note s.grant).granted, sent := (s.note s.grant).sent } := rfl
    _ = s := by rw [hgranted, sent_note_self]

/-- The caller goes away while the first grant is under way. -/
lemma Sound.abandon (h : s.Sound plan) (first : s.grant.phase = .first x) :
    ((s.converse .drop).note { s.grant with phase := .dropped }).Sound plan := by
  cases h.stage with
  | @first _ r phase past last under open_ granted =>
    obtain rfl : x = r.dialogue.exchange := by
      rw [first] at phase
      cases phase
      exact under.symm
    have hlast := last_converse .drop last
    have hgone : (r.dialogue.step .drop).exchange.phase = .dropped := by
      simp only [Dialogue.step, Exchange.drop]
      split
      next outcome hx =>
        rw [← under, Exchange.outcome?, hx] at open_
        cases open_
      · rfl
    have hsent : ((s.converse .drop).note { s.grant with phase := .dropped }).sent = s.sent :=
      sent_note rfl
    refine ⟨h.planned, note_kept (h.kept.converse .drop) (.inl hsent), h.past,
      .dropped rfl past hlast hgone (by simp [note, converse, granted, Grant.outcome?]),
      fun r' hr' => ?_, fun r' hr' early => ?_, fun r' hr' sure => ?_⟩
    · cases hlast.symm.trans hr'
      exact h.heard r last
    · cases hlast.symm.trans hr'
      exact absurd early (Exchange.of_dropped hgone).1
    · cases hlast.symm.trans hr'
      exact absurd sure (Exchange.of_dropped hgone).2
  | failed phase | waiting phase | renewing phase | ended phase | dropped phase =>
    rw [first] at phase
    cases phase

lemma Sound.drop (h : s.Sound plan) : (s.step .drop).Sound plan := by
  have hstill (grant : s.grant.drop = s.grant) (outcome : ∃ o, s.grant.outcome? = some o)
      (told : s.granted = none → ∀ u, s.grant.outcome? ≠ some (.ok u)) :
      (s.step .drop).Sound plan := by
    obtain ⟨o, ho⟩ := outcome
    simp only [Upkeep.step, ho, Option.isNone_some, Bool.false_eq_true, if_false]
    rwa [grant, note_self told]
  cases h.stage with
  | first phase =>
    simp only [Upkeep.step, Grant.outcome?, Grant.drop, phase, Option.isNone_none, if_true]
    exact h.abandon phase
  | failed phase =>
    exact hstill (by simp [Grant.drop, phase]) ⟨_, by rw [Grant.outcome?, phase]⟩
      fun _ u => by simp [Grant.outcome?, phase]
  | waiting phase _ _ granted | renewing phase _ _ _ _ granted | ended phase _ _ _ granted =>
    exact hstill (by simp [Grant.drop, phase]) ⟨_, by rw [Grant.outcome?, phase]⟩
      fun hnone => by rw [granted] at hnone; cases hnone
  | @dropped r phase past last gone granted =>
    have hstep : r.dialogue.step .drop = r.dialogue := by
      simp only [Dialogue.step, Exchange.drop, gone]
      rw [← gone]
    have hsame : s.converse .drop = s := by
      rw [converse, last, Option.map_some, hstep, ← last]
    simp only [Upkeep.step, Grant.outcome?, Grant.drop, phase, Option.isNone_none, if_true, hsame]
    rwa [note_self fun _ u => by simp [Grant.outcome?, phase]]

theorem Sound.step (h : s.Sound plan) (event : UpkeepEvent) : (s.step event).Sound plan := by
  cases event with
  | answer outcome =>
    simp only [Upkeep.step]
    cases hg : s.grant.answer? s.clock outcome with
    | none => exact h
    | some g => exact h.answer hg
  | tick messageId =>
    simp only [Upkeep.step]
    cases hg : s.grant.tick? s.clock messageId with
    | none => exact h
    | some g => exact h.tick hg
  | cancel =>
    simp only [Upkeep.step]
    cases hg : s.grant.cancel? s.clock s.fired with
    | none => exact h
    | some g => exact h.cancel hg
  | fire token => exact h.fire token
  | clock now => exact h.pass now
  | drop => exact h.drop

lemma sound_start (plan : GrantPlan) (clock : Nat) (messageId : String) (caller : Token)
    (fired : List Token) : (start plan clock messageId caller fired).Sound plan := by
  unfold start Grant.start
  cases hmint : plan.mint clock with
  | error e =>
    refine ⟨rfl, ⟨?_, ?_, ?_⟩, by simp, .failed rfl rfl ?_ rfl, ?_, ?_, ?_⟩ <;>
      simp [rounds, Grant.exchange?]
  | ok token =>
    have hsound : Round.Sound plan ⟨clock, messageId, ⟨tokenExchange plan.tokenType plan.audience
        token messageId caller, fired, []⟩⟩ :=
      ⟨token, hmint, Dialogue.Sound.with_fired (.start ..) _⟩
    have hfirst {k : Nat} {r r' : Round} (hr : [r][k]? = some r') : k = 0 ∧ r' = r := by
      rw [List.getElem?_singleton, Option.ite_none_right_eq_some] at hr
      exact ⟨hr.1, (Option.some.inj hr.2).symm⟩
    refine ⟨rfl, ⟨fun k r hr => ?_, fun k r hr hk => ?_, by simp⟩, by simp,
      .first rfl rfl rfl rfl rfl rfl, fun r hr => ?_, fun r hr _ => rfl, fun r hr sure => ?_⟩
    · obtain ⟨-, rfl⟩ := hfirst hr
      exact ⟨hsound, Nat.le_refl _⟩
    · exact absurd (hfirst hr).1 (Nat.ne_of_gt hk)
    · cases hr
      rfl
    · cases hr
      exact absurd sure (Exchange.IsEarly.not_hasSent (.inl rfl))

theorem run_sound (plan : GrantPlan) (clock : Nat) (messageId : String) (caller : Token)
    (fired : List Token) (events : List UpkeepEvent) :
    ((start plan clock messageId caller fired).run events).Sound plan := by
  induction events using List.reverseRecOn with
  | nil => exact sound_start plan clock messageId caller fired
  | append_singleton events event ih =>
    rw [run_append]
    exact ih.step event

end Upkeep
end DeviceHub.EventHub
