import DeviceHub.Proofs.Upkeep.Rounds

/-!
When `grant_continuously` renews.  Success is told once the first grant is done, and every renewal
comes in its time after it, one at a time; the first that fails is the last.
-/
namespace DeviceHub.EventHub

/-- A token was granted: the response that names the request reports success, and was accepted. -/
def Round.Granted (r : Round) : Prop :=
  ∃ link m, r.dialogue.exchange.outcome? = some (.ok m) ∧ r.dialogue.Accepted link m ∧
    m.correlationId = some r.messageId ∧ m.statusNumber? = some 200

lemma Round.Sound.granted {plan : GrantPlan} {r : Round} (h : r.Sound plan)
    (succeeded : r.Succeeded) : r.Granted := by
  obtain ⟨token, -, hdialogue⟩ := h
  obtain ⟨m, hm⟩ := succeeded
  obtain ⟨link, -, haccepted⟩ :=
    hdialogue.accepted (by rw [Exchange.phase_eq_of_outcome? hm]; rfl)
  obtain ⟨id, hid, hcorrelation, hstatus⟩ := hdialogue.passes (.inr ⟨_, haccepted⟩)
  cases hid
  exact ⟨link, m, hm, haccepted, hcorrelation, hstatus⟩

namespace Upkeep

variable {plan : GrantPlan} {s : Upkeep} {r : Round} {e : HubError} {failure : Failure}

/-- Nothing is to be granted any more. -/
def IsOver (s : Upkeep) : Prop :=
  s.grant.phase = .ended ∨ ∃ failure, s.grant.phase = .failed failure

lemma length_rounds_converse (event : ExchangeEvent) (s : Upkeep) :
    (s.converse event).rounds.length = s.rounds.length := by
  cases hlast : s.last <;> simp [rounds, converse, hlast]

lemma IsOver.step (h : s.IsOver) (event : UpkeepEvent) :
    (s.step event).grant = s.grant ∧ (s.step event).sent = s.sent ∧
      (s.step event).rounds.length = s.rounds.length := by
  have hidle : (∀ clock outcome, s.grant.answer? clock outcome = none) ∧
      (∀ clock messageId, s.grant.tick? clock messageId = none) ∧
      (∀ clock fired, s.grant.cancel? clock fired = none) ∧
      s.grant.drop = s.grant ∧ s.grant.outcome?.isNone = false := by
    unfold Grant.answer? Grant.tick? Grant.cancel? Grant.withExchange? Grant.drop Grant.outcome?
    obtain hphase | ⟨e, hphase⟩ := h <;> simp [hphase]
  obtain ⟨hanswer, htick, hcancel, hdrop, hout⟩ := hidle
  cases event with
  | answer outcome =>
    simp only [Upkeep.step, hanswer]
    exact ⟨rfl, rfl, rfl⟩
  | tick messageId =>
    simp only [Upkeep.step, htick]
    exact ⟨rfl, rfl, rfl⟩
  | cancel =>
    simp only [Upkeep.step, hcancel]
    exact ⟨rfl, rfl, rfl⟩
  | fire token => exact ⟨rfl, rfl, length_rounds_converse (.fire token) s⟩
  | clock now => exact ⟨rfl, rfl, rfl⟩
  | drop =>
    simp only [Upkeep.step, hout, hdrop]
    exact ⟨rfl, sent_note_self s, rfl⟩

lemma IsOver.run (h : s.IsOver) (later : List UpkeepEvent) :
    (s.run later).grant = s.grant ∧ (s.run later).sent = s.sent ∧
      (s.run later).rounds.length = s.rounds.length := by
  induction later using List.reverseRecOn with
  | nil => exact ⟨rfl, rfl, rfl⟩
  | append_singleton later event ih =>
    obtain ⟨hgrant, hsent, hrounds⟩ := ih
    have hover : (s.run later).IsOver := by rwa [IsOver, hgrant]
    obtain ⟨hgrant', hsent', hrounds'⟩ := hover.step event
    rw [run_append]
    exact ⟨hgrant'.trans hgrant, hsent'.trans hsent, hrounds'.trans hrounds⟩

/-- A round that fails is the last one. -/
lemma Sound.isOver (h : s.Sound plan) (hr : r ∈ s.rounds)
    (failed : r.dialogue.exchange.outcome? = some (.error e)) :
    s.IsOver ∧ (s.past = [] → s.grant.phase = .failed (.error e)) := by
  have hnot {r' : Round} (succeeded : r'.Succeeded) (heq : r = r') : False := by
    obtain ⟨m, hm⟩ := succeeded
    rw [← heq, failed] at hm
    cases hm
  have hlast : s.last = some r := by
    obtain hr | hr := List.mem_append.1 hr
    · exact (hnot (h.past r hr) rfl).elim
    · exact Option.mem_toList.1 hr
  cases h.stage with
  | first _ _ last under open_ =>
    cases hlast.symm.trans last
    rw [← under, failed] at open_
    cases open_
  | failed phase _ reason =>
    obtain ⟨e', hsame, rfl⟩ := reason r hlast
    rw [failed] at hsame
    cases hsame
    exact ⟨.inr ⟨.error e, phase⟩, fun _ => phase⟩
  | waiting _ last succeeded =>
    exact (hnot succeeded (Option.some.inj (hlast.symm.trans last))).elim
  | renewing _ _ last under open_ =>
    cases hlast.symm.trans last
    rw [← under, failed] at open_
    cases open_
  | ended phase last _ first =>
    exact ⟨.inl phase, fun hnil =>
      (hnot (first hnil) (Option.some.inj (hlast.symm.trans last))).elim⟩
  | dropped _ _ last gone =>
    cases hlast.symm.trans last
    rw [Exchange.outcome?, gone] at failed
    cases failed

lemma Sound.only_round (h : s.Sound plan) (hr : s.rounds[0]? = some r)
    (failed : r.dialogue.exchange.outcome? = some (.error e)) :
    s.grant.outcome? = some (.error (.error e)) ∧ s.rounds.length = 1 := by
  have hpast : s.past = [] := by
    cases hpast : s.past with
    | nil => rfl
    | cons r' rest =>
      obtain ⟨m, hm⟩ := h.past r' (by simp [hpast])
      rw [rounds, hpast] at hr
      cases hr
      rw [failed] at hm
      cases hm
  have hphase := (h.isOver (List.mem_of_getElem? hr) failed).2 hpast
  rw [rounds, hpast, List.nil_append] at hr ⊢
  refine ⟨by rw [Grant.outcome?, hphase], ?_⟩
  cases hlast : s.last with
  | none => simp [hlast] at hr
  | some r => rfl

/-- Without a token there is no round at all. -/
lemma start_of_mint_error {clock : Nat} (messageId : String) (caller : Token) (fired : List Token)
    (hmint : plan.mint clock = .error failure) :
    (start plan clock messageId caller fired).grant.phase = .failed failure ∧
      (start plan clock messageId caller fired).rounds = [] := by
  constructor
  · simp only [start, Grant.start, hmint]
  · simp [rounds, start, Grant.exchange?, Grant.start, hmint]

/-- Without a token a renewal that is due does not begin, and it is over. -/
lemma tick_of_mint_error {deadline : Nat} (waits : s.grant.phase = .waiting deadline)
    (late : deadline ≤ s.clock) (hmint : s.grant.plan.mint s.clock = .error failure)
    (id : String) :
    (s.step (.tick id)).IsOver ∧ (s.step (.tick id)).sent = s.sent := by
  have htick : s.grant.tick? s.clock id = some { s.grant with phase := .ended } := by
    simp only [Grant.tick?, waits, hmint, if_neg (Nat.not_lt.2 late)]
  have hstep : s.step (.tick id) = s.note { s.grant with phase := .ended } := by
    simp only [step, htick]
    rfl
  rw [hstep]
  exact ⟨.inl rfl, sent_note rfl⟩

lemma Sound.granted (h : s.Sound plan) {k : Nat} (hr : s.rounds[k]? = some r)
    (succeeded : r.Succeeded) : r.Granted :=
  (h.kept.sound k r hr).1.granted succeeded

lemma Sound.first_granted (h : s.Sound plan) {u : Unit} (told : s.grant.outcome? = some (.ok u)) :
    ∃ r, s.rounds[0]? = some r ∧ r.Granted := by
  cases hpast : s.past with
  | cons r rest =>
    have hround : s.rounds[0]? = some r := by simp [rounds, hpast]
    exact ⟨r, hround, h.granted hround (h.past r (by simp [hpast]))⟩
  | nil =>
    have hround {r : Round} (last : s.last = some r) : s.rounds[0]? = some r := by
      simp [rounds, hpast, last]
    cases h.stage with
    | @waiting _ _ r _ last succeeded => exact ⟨r, hround last, h.granted (hround last) succeeded⟩
    | renewing _ later => exact absurd hpast later
    | @ended _ r _ last _ first =>
      exact ⟨r, hround last, h.granted (hround last) (first hpast)⟩
    | first phase | failed phase | dropped phase =>
      rw [Grant.outcome?, phase] at told
      cases told

/-- A renewal follows a round that has granted its token. -/
lemma Sound.granted_of_lt (h : s.Sound plan) {k : Nat} (hr : s.rounds[k]? = some r)
    (hk : k + 1 < s.rounds.length) : r.Granted := by
  have hlt : k < s.past.length := by
    have hlength : s.rounds.length ≤ s.past.length + 1 := by
      cases hlast : s.last <;> simp [rounds, hlast]
    omega
  have hpast : s.past[k]? = some r := by
    rwa [rounds, List.getElem?_append_left hlt] at hr
  exact h.granted hr (h.past r (List.mem_of_getElem? hpast))

lemma granted_note {g : Grant} {t : Nat} (h : (s.note g).granted = some t) :
    s.granted = some t ∨ (∃ u, g.outcome? = some (.ok u)) ∧ s.clock = t := by
  simp only [note] at h
  split at h
  next u _ hok =>
    cases h
    exact .inr ⟨⟨u, hok⟩, rfl⟩
  · exact .inl h

/-- What a step puts down as told is told then. -/
lemma granted_step {t : Nat} {event : UpkeepEvent} (h : (s.step event).granted = some t) :
    s.granted = some t ∨
      (∃ u, (s.step event).grant.outcome? = some (.ok u)) ∧ (s.step event).clock = t := by
  cases event with
  | answer outcome =>
    simp only [Upkeep.step] at h ⊢
    cases hg : s.grant.answer? s.clock outcome with
    | none => exact .inl (by rwa [hg] at h)
    | some g => exact granted_note (by rwa [hg] at h)
  | tick messageId =>
    simp only [Upkeep.step] at h ⊢
    cases hg : s.grant.tick? s.clock messageId with
    | none => exact .inl (by rwa [hg] at h)
    | some g =>
      have henter : (s.enter messageId g).granted = s.granted ∧
          (s.enter messageId g).clock = s.clock := by
        unfold enter
        split <;> exact ⟨rfl, rfl⟩
      obtain hold | ⟨hok, hclock⟩ := granted_note (s := s.enter messageId g) (by rwa [hg] at h)
      · exact .inl (henter.1 ▸ hold)
      · exact .inr ⟨hok, hclock⟩
  | cancel =>
    simp only [Upkeep.step] at h ⊢
    cases hg : s.grant.cancel? s.clock s.fired with
    | none => exact .inl (by rwa [hg] at h)
    | some g => exact granted_note (by rwa [hg] at h)
  | fire token => exact .inl h
  | clock now => exact .inl h
  | drop =>
    simp only [Upkeep.step] at h ⊢
    split at h
    next hfirst =>
      rw [if_pos hfirst]
      exact granted_note h
    next hfirst =>
      rw [if_neg hfirst]
      exact granted_note h

/-- When success was put down it was told. -/
lemma told_of_granted (hs : s.granted = none) {events : List UpkeepEvent} {t : Nat}
    (h : (s.run events).granted = some t) : ∃ before u, before <+: events ∧
      (s.run before).grant.outcome? = some (.ok u) ∧ (s.run before).clock = t := by
  induction events using List.reverseRecOn with
  | nil =>
    rw [show s.run [] = s from rfl, hs] at h
    cases h
  | append_singleton events event ih =>
    rw [run_append] at h
    obtain hold | ⟨⟨u, hok⟩, hclock⟩ := granted_step h
    · obtain ⟨before, u, hpre, htold⟩ := ih hold
      exact ⟨before, u, hpre.trans (List.prefix_append _ _), htold⟩
    · exact ⟨events ++ [event], u, List.prefix_refl _, by rwa [run_append], by rwa [run_append]⟩

/-- A token is renewed again and again, in time.  Success is told only after the first grant; when
the first token cannot be minted or granted that is what is told, and nothing is sent after it.
Renewals come one after the other, each after the one before has granted its token.  The request of
renewal number `k` carries the audience and the token that was minted for it, and is sent `k`
periods after success was told at the earliest.  Once a token cannot be minted or granted nothing is
sent. -/
theorem renewals_in_time (plan : GrantPlan) (clock : Nat) (messageId : String) (caller : Token)
    (fired : List Token) (events : List UpkeepEvent) :
    let s := start plan clock messageId caller fired
    (∀ u, (s.run events).grant.outcome? = some (.ok u) →
      ∃ r, (s.run events).rounds[0]? = some r ∧ r.Granted) ∧
    (∀ failure, plan.mint clock = .error failure →
      (s.run events).grant.outcome? = some (.error failure) ∧
      (s.run events).rounds = [] ∧ (s.run events).sent = []) ∧
    (∀ r e, (s.run events).rounds[0]? = some r → r.dialogue.exchange.outcome? = some (.error e) →
      (s.run events).grant.outcome? = some (.error (.error e)) ∧
      (s.run events).rounds.length = 1) ∧
    (∀ k r, (s.run events).rounds[k]? = some r → k + 1 < (s.run events).rounds.length →
      r.Granted) ∧
    (∀ k e, (s.run events).sent[k]? = some e →
      (∃ r token, (s.run events).rounds[k]? = some r ∧ plan.mint r.begun = .ok token ∧
        e.message = tokenRequest plan.tokenType plan.audience token r.messageId ∧
        r.begun ≤ e.time) ∧
      (0 < k → ∃ before u, before <+: events ∧ (s.run before).grant.outcome? = some (.ok u) ∧
        (s.run before).clock + k * plan.period ≤ e.time)) ∧
    (∀ r e, r ∈ (s.run events).rounds → r.dialogue.exchange.outcome? = some (.error e) →
      ∀ later, ((s.run events).run later).sent = (s.run events).sent) ∧
    ∀ deadline failure, (s.run events).grant.phase = .waiting deadline →
      deadline ≤ (s.run events).clock → plan.mint (s.run events).clock = .error failure →
      ∀ id later, (((s.run events).step (.tick id)).run later).sent = (s.run events).sent := by
  intro s
  have h : (s.run events).Sound plan := run_sound plan clock messageId caller fired events
  refine ⟨fun u => h.first_granted, fun failure hmint => ?_, fun r e => h.only_round,
    fun k r => h.granted_of_lt, fun k e he => ⟨?_, fun hk => ?_⟩, fun r e hr failed later => ?_,
    fun deadline failure waits late hmint id later => ?_⟩
  · obtain ⟨hphase, hempty⟩ := start_of_mint_error messageId caller fired hmint
    have hover : s.IsOver := .inr ⟨failure, hphase⟩
    obtain ⟨hgrant, hsent, hrounds⟩ := hover.run events
    refine ⟨by rw [hgrant, Grant.outcome?, hphase], List.eq_nil_of_length_eq_zero ?_, hsent⟩
    rw [hrounds, hempty]
    rfl
  · obtain ⟨r, hr, hmessage, hbegun, -⟩ := h.kept.posted k e he
    obtain ⟨⟨token, hmint, hdialogue⟩, -⟩ := h.kept.sound k r hr
    exact ⟨r, token, hr, hmint, hmessage.trans hdialogue.asks, hbegun⟩
  · obtain ⟨r, hr, -, hbegun, -⟩ := h.kept.posted k e he
    obtain ⟨t, hgranted, hdue⟩ := h.kept.due k r hr hk
    obtain ⟨before, u, hpre, htold, rfl⟩ := told_of_granted rfl hgranted
    exact ⟨before, u, hpre, htold, Nat.le_trans hdue hbegun⟩
  · exact ((h.isOver hr failed).1.run later).2.1
  · obtain ⟨hover, hsent⟩ := tick_of_mint_error waits late (by rwa [h.planned]) id
    exact (hover.run later).2.1.trans hsent

def everySecond : GrantPlan :=
  { tokenType := "t", audience := "a", mint := GrantPlan.ofToken "token", period := 1000,
    stop := "stop" }

/-- The first grant is done. -/
def firstGrant : List UpkeepEvent :=
  [.answer (.ok (.opened 0)), .answer (.ok (.opened 1)), .answer (.ok .done),
    .answer (.ok (.received
      { correlationId := some "m0", applicationProperties := [("status-code", .int 200)] })),
    .answer (.ok .done), .answer (.ok .done), .answer (.ok .done)]

/-- A renewal that the broker refuses. -/
def refusedRenewal : List UpkeepEvent :=
  [.clock 1000, .tick "m1", .answer (.ok (.opened 2)), .answer (.ok (.opened 3)),
    .answer (.ok .done),
    .answer (.ok (.received
      { correlationId := some "m1", applicationProperties := [("status-code", .int 500)] })),
    .answer (.ok .done), .answer (.ok .done), .answer (.ok .done)]

theorem renewals_in_time_of_refused :
    let s := (start everySecond 0 "m0" "caller" []).run (firstGrant ++ refusedRenewal)
    (∃ r, s.rounds[0]? = some r ∧ r.Granted) ∧
      s.sent[1]? = some ⟨1000, tokenRequest "t" "a" "token" "m1"⟩ ∧
      (∃ before u, before <+: firstGrant ++ refusedRenewal ∧
        ((start everySecond 0 "m0" "caller" []).run before).grant.outcome? = some (.ok u) ∧
        ((start everySecond 0 "m0" "caller" []).run before).clock + 1 * 1000 ≤ 1000) ∧
      ∀ later, (s.run later).sent = s.sent := by
  intro s
  obtain ⟨hfirst, -, -, -, hsent, hfailed, -⟩ :=
    renewals_in_time everySecond 0 "m0" "caller" [] (firstGrant ++ refusedRenewal)
  have hsecond : s.sent[1]? = some ⟨1000, tokenRequest "t" "a" "token" "m1"⟩ := rfl
  obtain ⟨r, hr, hrefused⟩ : ∃ r, r ∈ s.rounds ∧
      r.dialogue.exchange.outcome? = some (.error (.status 500 "")) :=
    ⟨_, List.mem_of_getElem? (i := 1) rfl, rfl⟩
  exact ⟨hfirst () rfl, hsecond, (hsent 1 _ hsecond).2 (by decide), hfailed r _ hr hrefused⟩

end Upkeep
end DeviceHub.EventHub
