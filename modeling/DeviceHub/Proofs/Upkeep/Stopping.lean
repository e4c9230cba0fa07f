import DeviceHub.Proofs.Upkeep.Renewals

/-!
The end of `grant_continuously`.  `stop` is noticed at a moment of its own, and whatever else is
possible then may come first: a request can be sent after the stop has fired, but none after it has
been noticed.
-/
namespace DeviceHub.EventHub

namespace Upkeep

variable {plan : GrantPlan} {s : Upkeep} {g : Grant} {x x' : Exchange}

/-- Renewals look at the stop. -/
def HeedsStop (s : Upkeep) : Prop :=
  ∀ x deadline, s.grant.phase = .renewing x deadline → x.token = s.grant.plan.stop

/-- Nothing is sent any more; at most links are closed. -/
def IsQuiet (s : Upkeep) : Prop :=
  s.IsOver ∨ ∃ x deadline e, s.grant.phase = .renewing x deadline ∧
    x.phase.decided? = some (.error e)

/-- A renewal that goes on is the one that was under way. -/
lemma renewing_of_withExchange? {g g' : Grant} {clock : Nat}
    {change : Exchange → Option Exchange} (h : g.withExchange? clock change = some g') :
    g'.plan = g.plan ∧ ∀ x' deadline, g'.phase = .renewing x' deadline →
      ∃ x, g.phase = .renewing x deadline ∧ change x = some x' := by
  unfold Grant.withExchange? at h
  cases hphase : g.phase with
  | first x =>
    simp only [hphase] at h
    obtain ⟨y, hy, rfl⟩ := Option.map_eq_some_iff.1 h
    simp only [Grant.settle, Grant.renewals]
    cases y.outcome? with
    | none => exact ⟨rfl, fun x' deadline hsame => by simp at hsame⟩
    | some outcome =>
      cases outcome with
      | error e => exact ⟨rfl, fun x' deadline hsame => by simp at hsame⟩
      | ok m =>
        refine ⟨rfl, fun x' deadline hsame => ?_⟩
        simp only at hsame
        split at hsame <;> cases hsame
  | renewing x due =>
    simp only [hphase] at h
    obtain ⟨y, hy, rfl⟩ := Option.map_eq_some_iff.1 h
    simp only [Grant.settle]
    cases y.outcome? with
    | none =>
      refine ⟨rfl, fun x' deadline hsame => ?_⟩
      cases hsame
      exact ⟨x, rfl, hy⟩
    | some outcome => cases outcome <;> exact ⟨rfl, fun x' deadline hsame => by simp at hsame⟩
  | _ => simp [hphase] at h

/-- A renewal that begins looks at the stop. -/
lemma token_of_tick? {g g' : Grant} {clock deadline : Nat} {messageId : String}
    (h : g.tick? clock messageId = some g') (renews : g'.phase = .renewing x' deadline) :
    x'.token = g'.plan.stop := by
  unfold Grant.tick? at h
  split at h
  · split at h
    · cases h
    · split at h
      · obtain rfl := Option.some.inj h
        cases renews
      · obtain rfl := Option.some.inj h
        simp only [GrantPhase.renewing.injEq] at renews
        rw [← renews.1]
        rfl
  · cases h

lemma HeedsStop.step (h : s.HeedsStop) (event : UpkeepEvent) : (s.step event).HeedsStop := by
  have hchange {change : Exchange → Option Exchange} {g : Grant} {u : Upkeep}
      (hg : s.grant.withExchange? s.clock change = some g) (grant : u.grant = g)
      (token : ∀ x x', change x = some x' → x'.token = x.token) : u.HeedsStop := by
    intro x' deadline hphase
    rw [grant] at hphase ⊢
    obtain ⟨hplan, hrenews⟩ := renewing_of_withExchange? hg
    obtain ⟨x, hx, hx'⟩ := hrenews x' deadline hphase
    rw [token x x' hx', h x deadline hx, hplan]
  cases event with
  | answer outcome =>
    simp only [Upkeep.step]
    cases hg : s.grant.answer? s.clock outcome with
    | none => exact h
    | some g => exact hchange hg rfl fun x x' hx => (Exchange.goes_of_answer? hx).token
  | tick messageId =>
    simp only [Upkeep.step]
    cases hg : s.grant.tick? s.clock messageId with
    | none => exact h
    | some g => exact fun x deadline hphase => token_of_tick? hg hphase
  | cancel =>
    simp only [Upkeep.step]
    cases hg : s.grant.cancel? s.clock s.fired with
    | none => exact h
    | some g =>
      unfold Grant.cancel? at hg
      split at hg
      · rw [Option.ite_none_right_eq_some] at hg
        obtain rfl := Option.some.inj hg.2
        intro x deadline hphase
        cases hphase
      · exact hchange hg rfl fun x x' hx => (Exchange.goes_of_cancel? hx).token
  | fire token => exact h
  | clock now => exact h
  | drop =>
    have hgrant : (s.step .drop).grant = s.grant.drop := rfl
    unfold Grant.drop at hgrant
    split at hgrant
    · intro x deadline hphase
      rw [hgrant] at hphase
      cases hphase
    · intro x deadline hphase
      rw [hgrant] at hphase ⊢
      exact h x deadline hphase

lemma heedsStop_run (plan : GrantPlan) (clock : Nat) (messageId : String) (caller : Token)
    (fired : List Token) (events : List UpkeepEvent) :
    ((start plan clock messageId caller fired).run events).HeedsStop := by
  induction events using List.reverseRecOn with
  | nil =>
    intro x deadline hphase
    change (Grant.start plan clock messageId caller).phase = _ at hphase
    unfold Grant.start at hphase
    cases hmint : plan.mint clock <;> simp [hmint] at hphase
  | append_singleton events event ih =>
    rw [run_append]
    exact ih.step event

/-- A renewal that has failed only closes its links. -/
lemma isQuiet_settle {deadline : Nat} {e : HubError} (failed : x.phase.decided? = some (.error e))
    (hg : Grant.settle { s.grant with phase := .renewing x deadline } s.clock = g)
    (event : ExchangeEvent) :
    ((s.converse event).note g).IsQuiet ∧ ((s.converse event).note g).sent = s.sent := by
  simp only [Grant.settle] at hg
  cases hout : x.outcome? with
  | none =>
    simp only [hout] at hg
    subst hg
    exact ⟨.inr ⟨x, deadline, e, rfl, failed⟩, sent_note (Exchange.late_of_decided failed).2.1⟩
  | some outcome =>
    rw [Exchange.phase_eq_of_outcome? hout] at failed
    cases Option.some.inj failed
    simp only [hout] at hg
    subst hg
    exact ⟨.inl (.inl rfl), sent_note rfl⟩

lemma IsQuiet.step (h : s.IsQuiet) (event : UpkeepEvent) :
    (s.step event).IsQuiet ∧ (s.step event).sent = s.sent := by
  obtain hover | ⟨x, deadline, e, phase, failed⟩ := h
  · obtain ⟨hgrant, hsent, -⟩ := hover.step event
    exact ⟨.inl (by rwa [IsOver, hgrant]), hsent⟩
  · have hsame {u : Upkeep} (grant : u.grant = s.grant) : u.IsQuiet :=
      .inr ⟨x, deadline, e, by rw [grant, phase], failed⟩
    cases event with
    | answer outcome =>
      simp only [Upkeep.step]
      cases hg : s.grant.answer? s.clock outcome with
      | none => exact ⟨hsame rfl, rfl⟩
      | some g =>
        simp only [Grant.answer?, Grant.withExchange?, phase] at hg
        obtain ⟨x', hx', hg⟩ := Option.map_eq_some_iff.1 hg
        obtain ⟨phase', answered, rfl⟩ := Exchange.answered_of_answer? hx'
        exact isQuiet_settle (x := { x with phase := phase' }) (answered.decided? failed) hg _
    | tick messageId =>
      have hnone : s.grant.tick? s.clock messageId = none := by simp only [Grant.tick?, phase]
      simp only [Upkeep.step, hnone]
      exact ⟨hsame rfl, rfl⟩
    | cancel =>
      simp only [Upkeep.step]
      cases hg : s.grant.cancel? s.clock s.fired with
      | none => exact ⟨hsame rfl, rfl⟩
      | some g =>
        simp only [Grant.cancel?, Grant.withExchange?, phase] at hg
        obtain ⟨x', hx', -⟩ := Option.map_eq_some_iff.1 hg
        obtain ⟨-, phase', cancelled, -⟩ := Exchange.cancelled_of_cancel? hx'
        rw [cancelled.decided?.1] at failed
        cases failed
    | fire token => exact ⟨hsame rfl, rfl⟩
    | clock now => exact ⟨hsame rfl, rfl⟩
    | drop =>
      have hdrop : s.grant.drop = s.grant ∧ s.grant.outcome?.isNone = false := by
        simp [Grant.drop, Grant.outcome?, phase]
      simp only [Upkeep.step, hdrop]
      exact ⟨hsame rfl, sent_note_self s⟩

lemma IsQuiet.run (h : s.IsQuiet) (later : List UpkeepEvent) :
    (s.run later).IsQuiet ∧ (s.run later).sent = s.sent := by
  induction later using List.reverseRecOn with
  | nil => exact ⟨h, rfl⟩
  | append_singleton later event ih =>
    obtain ⟨hquiet, hsent⟩ := ih.1.step event
    rw [run_append]
    exact ⟨hquiet, hsent.trans ih.2⟩

lemma isQuiet_of_cancel? {u : Unit} (told : s.grant.outcome? = some (.ok u))
    (hg : s.grant.cancel? s.clock s.fired = some g) :
    (s.step .cancel).IsQuiet ∧ (s.step .cancel).sent = s.sent := by
  simp only [Upkeep.step, hg]
  unfold Grant.cancel? Grant.withExchange? at hg
  cases hphase : s.grant.phase with
  | waiting deadline =>
    simp only [hphase, Option.ite_none_right_eq_some] at hg
    obtain rfl := Option.some.inj hg.2
    exact ⟨.inl (.inl rfl), sent_note rfl⟩
  | renewing x deadline =>
    simp only [hphase] at hg
    obtain ⟨x', hx', hg⟩ := Option.map_eq_some_iff.1 hg
    obtain ⟨-, phase', cancelled, rfl⟩ := Exchange.cancelled_of_cancel? hx'
    exact isQuiet_settle (x := { x with phase := phase' }) cancelled.decided?.2 hg _
  | first x =>
    rw [Grant.outcome?, hphase] at told
    cases told
  | failed | ended | dropped => simp [hphase] at hg

lemma sent_tick (s : Upkeep) (messageId : String) : (s.step (.tick messageId)).sent = s.sent := by
  simp only [Upkeep.step]
  cases hg : s.grant.tick? s.clock messageId with
  | none => rfl
  | some g =>
    have henter : (s.enter messageId g).sent = s.sent := by
      unfold enter
      split <;> rfl
    have hsilent : g.exchange?.bind Exchange.sending? = none := by
      unfold Grant.tick? at hg
      split at hg
      · split at hg
        · cases hg
        · split at hg <;> · obtain rfl := Option.some.inj hg; rfl
      · cases hg
    exact (sent_note hsilent).trans henter

lemma sent_answer {deadline : Nat} (phase : s.grant.phase = .renewing x deadline)
    (late : ¬x.IsEarly) (outcome : HubResult PeerAnswer) :
    (s.step (.answer outcome)).sent = s.sent := by
  simp only [Upkeep.step]
  cases hg : s.grant.answer? s.clock outcome with
  | none => rfl
  | some g =>
    simp only [Grant.answer?, Grant.withExchange?, phase] at hg
    obtain ⟨x', hx', rfl⟩ := Option.map_eq_some_iff.1 hg
    obtain ⟨early, -⟩ | ⟨early, -⟩ | ⟨-, silent, -⟩ := (Exchange.goes_of_answer? hx').posting
    · exact absurd early late
    · exact absurd early late
    · refine sent_note ?_
      simp only [Grant.settle]
      split
      · rfl
      · rfl
      · exact silent

/-- Only a renewal that opens its links comes to a request. -/
lemma early_of_sent {u : Unit} (told : s.grant.outcome? = some (.ok u)) {event : UpkeepEvent}
    (hsent : (s.step event).sent ≠ s.sent) :
    ∃ x deadline, s.grant.phase = .renewing x deadline ∧ x.IsEarly := by
  cases event with
  | answer outcome =>
    cases hphase : s.grant.phase with
    | renewing x deadline =>
      by_cases early : x.IsEarly
      · exact ⟨x, deadline, rfl, early⟩
      · exact absurd (sent_answer hphase early outcome) hsent
    | first x =>
      rw [Grant.outcome?, hphase] at told
      cases told
    | _ =>
      have hnone : s.grant.answer? s.clock outcome = none := by
        simp only [Grant.answer?, Grant.withExchange?, hphase]
      simp only [Upkeep.step, hnone] at hsent
      exact absurd rfl hsent
  | tick messageId => exact absurd (sent_tick s messageId) hsent
  | cancel =>
    cases hg : s.grant.cancel? s.clock s.fired with
    | none =>
      simp only [Upkeep.step, hg] at hsent
      exact absurd rfl hsent
    | some g => exact absurd (isQuiet_of_cancel? told hg).2 hsent
  | fire token => exact absurd rfl hsent
  | clock now => exact absurd rfl hsent
  | drop =>
    have hdrop : s.grant.drop = s.grant := by
      unfold Grant.drop
      split
      next x hphase =>
        rw [Grant.outcome?, hphase] at told
        cases told
      · rfl
    simp only [Upkeep.step, told, hdrop] at hsent
    exact absurd (sent_note_self s) hsent

/-- An exchange that is early can be cancelled. -/
lemma cancel?_of_early {deadline : Nat} (phase : s.grant.phase = .renewing x deadline)
    (early : x.IsEarly) (fired : x.token ∈ s.fired) :
    ∃ g, s.grant.cancel? s.clock s.fired = some g := by
  have hfired : s.fired.contains x.token = true := List.contains_iff_mem.2 fired
  simp only [Grant.cancel?, Grant.withExchange?, phase, Exchange.cancel?, hfired, if_true]
  obtain hx | ⟨r, hx⟩ := early <;> exact ⟨_, by simp only [hx, Exchange.cancelled?]; rfl⟩

/-- Renewals end with the stop, as soon as it is noticed: no request is sent after that.  Where a
request is sent after the stop has fired, the stop could have been noticed in its place. -/
theorem silent_once_noticed (plan : GrantPlan) (clock : Nat) (messageId : String) (caller : Token)
    (fired : List Token) (events : List UpkeepEvent) :
    let s := (start plan clock messageId caller fired).run events
    (∀ u g, s.grant.outcome? = some (.ok u) → s.grant.cancel? s.clock s.fired = some g →
      ∀ later, ((s.step .cancel).run later).sent = s.sent) ∧
    ∀ u event, s.grant.outcome? = some (.ok u) → plan.stop ∈ s.fired →
      (s.step event).sent ≠ s.sent → ∃ g, s.grant.cancel? s.clock s.fired = some g := by
  intro s
  refine ⟨fun u g told hg later => ?_, fun u event told hstop hsent => ?_⟩
  · obtain ⟨hquiet, hsent⟩ := isQuiet_of_cancel? told hg
    exact (hquiet.run later).2.trans hsent
  · have hplan : s.grant.plan = plan :=
      (run_sound plan clock messageId caller fired events).planned
    have hheeds : s.HeedsStop := heedsStop_run plan clock messageId caller fired events
    obtain ⟨x, deadline, phase, early⟩ := early_of_sent told hsent
    exact cancel?_of_early phase early (by rwa [hheeds x deadline phase, hplan])

/-- The stop fires, and a renewal that is due opens its receiver all the same. -/
def stopBeforeTick : List UpkeepEvent :=
  firstGrant ++ [.clock 1000, .fire "stop", .tick "m1", .answer (.ok (.opened 2))]

theorem silent_once_noticed_of_tick :
    let s := (start everySecond 0 "m0" "caller" []).run stopBeforeTick
    s.grant.outcome? = some (.ok ()) ∧ everySecond.stop ∈ s.fired ∧
      (s.step (.answer (.ok (.opened 3)))).sent ≠ s.sent ∧
      ∃ g, s.grant.cancel? s.clock s.fired = some g ∧
        ∀ later, ((s.step .cancel).run later).sent = s.sent := by
  intro s
  obtain ⟨hnoticed, hbefore⟩ :=
    silent_once_noticed everySecond 0 "m0" "caller" [] stopBeforeTick
  have hsent : (s.step (.answer (.ok (.opened 3)))).sent ≠ s.sent := fun heq =>
    absurd (congrArg List.length heq) (by decide)
  obtain ⟨g, hg⟩ := hbefore () (.answer (.ok (.opened 3))) rfl (by decide) hsent
  exact ⟨rfl, by decide, hsent, g, hg, hnoticed () g rfl hg⟩

theorem sent_after_stop :
    let s := (start everySecond 0 "m0" "caller" []).run
      (firstGrant ++ [.clock 1000, .fire "stop"])
    everySecond.stop ∈ s.fired ∧ s.grant.outcome? = some (.ok ()) ∧
      (s.run [.tick "m1", .answer (.ok (.opened 2)), .answer (.ok (.opened 3)),
        .answer (.ok .done)]).sent =
        s.sent ++ [⟨1000, tokenRequest "t" "a" "token" "m1"⟩] :=
  ⟨by decide, rfl, rfl⟩

end Upkeep
end DeviceHub.EventHub
