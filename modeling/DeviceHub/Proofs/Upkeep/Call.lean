import DeviceHub.EventHub.Client
import DeviceHub.Proofs.Upkeep

/-!
The calls of `put_token_continuously` on an `EventHubClient`.  Whatever happens to a client, each
such call is at a run of its upkeep.
-/
namespace DeviceHub.EventHub
namespace Upkeep

variable {s : Client} {call other : Nat} {u : Upkeep} {f : Activity → Option Activity}

/-- A call of a client has come as far as an upkeep. -/
def IsCall (u : Upkeep) (s : Client) (call : Nat) : Prop :=
  s.calls[call]? = some (.renewing u.grant) ∧ s.fired = u.fired ∧ s.clock = u.clock

/-- An upkeep goes on as its grant does, at the same time. -/
def Follows (u : Upkeep) (event : UpkeepEvent) (grant : Grant) : Prop :=
  (u.step event).grant = grant ∧ (u.step event).fired = u.fired ∧ (u.step event).clock = u.clock

/-- A change of a call, of this one or another, is an event of the upkeep or nothing to it. -/
lemma IsCall.change? (h : u.IsCall s call) (event : UpkeepEvent) (changed : Option Grant)
    (hf : f (.renewing u.grant) = changed.map .renewing)
    (follows : ∀ g, changed = some g → u.Follows event g) :
    ∃ events, (u.run events).IsCall ((s.change? other f).getD s) call := by
  obtain ⟨hcall, hrest⟩ := h
  by_cases hother : other = call
  · subst hother
    have hchange : s.change? other f = changed.map fun g =>
        { s with calls := s.calls.set other (.renewing g) } := by
      rw [Client.change?, hcall, Option.bind_some, hf, Option.map_map]
      rfl
    cases hchanged : changed with
    | none => exact ⟨[], by rw [hchange, hchanged]; exact ⟨hcall, hrest⟩⟩
    | some g =>
      obtain ⟨hgrant, hfired, hclock⟩ := follows g hchanged
      have hlt := (List.getElem?_eq_some_iff.1 hcall).1
      refine ⟨[event], ?_, ?_⟩
      · rw [hchange, hchanged, Option.map_some, Option.getD_some, List.getElem?_set_self hlt]
        exact congrArg (fun g => some (Activity.renewing g)) hgrant.symm
      · rw [hchange, hchanged]
        exact ⟨hrest.1.trans hfired.symm, hrest.2.trans hclock.symm⟩
  · refine ⟨[], ?_⟩
    cases h : s.calls[other]?.bind f with
    | none => simpa [Client.change?, h, IsCall, run] using ⟨hcall, hrest⟩
    | some a =>
      simpa [Client.change?, h, IsCall, run, List.getElem?_set_ne hother] using ⟨hcall, hrest⟩

lemma IsCall.start (h : u.IsCall s call) (request : ClientRequest) (token : Token) :
    u.IsCall (s.start request token) call := by
  obtain ⟨hcall, hrest⟩ := h
  have hlt := (List.getElem?_eq_some_iff.1 hcall).1
  unfold Client.start
  split <;> exact ⟨by simpa [List.getElem?_append_left hlt] using hcall, hrest⟩

lemma follows_answer (u : Upkeep) (outcome : HubResult PeerAnswer) {g : Grant}
    (h : u.grant.answer? u.clock outcome = some g) : u.Follows (.answer outcome) g := by
  simp [Follows, step, h]

lemma follows_cancel (u : Upkeep) {g : Grant} (h : u.grant.cancel? u.clock u.fired = some g) :
    u.Follows .cancel g := by
  simp [Follows, step, h]

lemma follows_tick (u : Upkeep) (messageId : String) {g : Grant}
    (h : u.grant.tick? u.clock messageId = some g) : u.Follows (.tick messageId) g := by
  simp only [Follows, step, h, Option.elim, enter]
  split <;> simp

lemma follows_drop (u : Upkeep) : u.Follows .drop u.grant.drop := by
  simp only [Follows, step]
  split <;> simp

theorem IsCall.step (h : u.IsCall s call) (event : ClientEvent) :
    ∃ events, (u.run events).IsCall (s.step event) call := by
  have hfired : s.fired = u.fired := h.2.1
  have hclock : s.clock = u.clock := h.2.2
  -- a grant has one part only
  have hother {other : Nat} {f : Activity → Option Activity} (hf : f (.renewing u.grant) = none) :
      ∃ events, (u.run events).IsCall ((s.change? other f).getD s) call :=
    h.change? .drop none hf (by simp)
  cases event with
  | dialed outcome => exact ⟨[], h⟩
  | start request token => exact ⟨[], h.start request token⟩
  | answer other part outcome =>
    cases part with
    | zero =>
      refine h.change? (.answer outcome) (u.grant.answer? u.clock outcome) ?_
        fun g => follows_answer u outcome
      simp [Activity.answer?, hclock]
    | succ part => exact hother rfl
  | resume other part messageId =>
    cases part with
    | zero =>
      refine h.change? (.tick messageId) (u.grant.tick? u.clock messageId) ?_
        fun g => follows_tick u messageId
      simp [Activity.resume?, hclock]
    | succ part => exact hother rfl
  | cancel other part =>
    cases part with
    | zero =>
      refine h.change? .cancel (u.grant.cancel? u.clock u.fired) ?_
        fun g => follows_cancel u
      simp [Activity.cancel?, hclock, hfired]
    | succ part => exact hother rfl
  | fire token => exact ⟨[.fire token], h.1, congrArg (token :: ·) hfired, hclock⟩
  | clock now => exact ⟨[.clock now], h.1, hfired, congrArg (Nat.max · now) hclock⟩
  | drop other =>
    exact h.change? .drop (some u.grant.drop) rfl fun g hg =>
      Option.some.inj hg ▸ follows_drop u

/-- A call that renews a token is a run of an upkeep from its beginning. -/
theorem isCall_of_putTokenContinuously (live : s.phase = .live) (plan : GrantPlan)
    (messageId : String) (caller : Token) (events : List ClientEvent) :
    ∃ moves, ((start plan s.clock messageId caller s.fired).run moves).IsCall
      (events.foldl Client.step (s.step (.start (.putTokenContinuously plan messageId) caller)))
      s.calls.length := by
  have hcall : (start plan s.clock messageId caller s.fired).IsCall
      (s.step (.start (.putTokenContinuously plan messageId) caller)) s.calls.length := by
    refine ⟨?_, ?_⟩ <;> simp [Client.step, Client.start, live, Activity.start, start]
  induction events using List.reverseRecOn with
  | nil => exact ⟨[], hcall⟩
  | append_singleton events event ih =>
    obtain ⟨moves, hmoves⟩ := ih
    obtain ⟨further, hfurther⟩ := hmoves.step event
    exact ⟨moves ++ further, by rwa [List.foldl_append, run, List.foldl_append]⟩

end Upkeep
end DeviceHub.EventHub
