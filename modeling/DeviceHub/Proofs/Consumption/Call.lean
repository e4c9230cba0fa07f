import DeviceHub.Proofs.Consumption

/-!
The calls of `subscribe_partitions` on an `EventHubClient`.  Whatever happens to a client, each such
call is at a run of its consumer.
-/
namespace DeviceHub.EventHub
namespace Consumption

lemma step_of_next? {s : Consumption} {event : ConsumerEvent} {c : Consumer} {deeds : List Deed}
    (h : s.next? event = some (c, deeds)) (hfire : ∀ token, event ≠ .fire token) :
    (s.step event).consumer = c ∧ (s.step event).fired = s.fired := by
  unfold step
  split
  next token c' deeds' hnext => exact absurd rfl (hfire token)
  next c' deeds' _ hnext =>
    cases h.symm.trans hnext
    exact ⟨note_consumer _ _ _, note_fired _ _ _⟩
  next hnext => cases h.symm.trans hnext

/-- A call of a client has come as far as a consumption. -/
def IsCall (t : Consumption) (s : Client) (call : Nat) : Prop :=
  s.calls[call]? = some (.consuming t.consumer) ∧ s.fired = t.fired

/-- A change of a call, of this one or another, is an event of the consumer or nothing to it. -/
lemma IsCall.change? {s : Client} {call other : Nat} {t : Consumption} (event : ConsumerEvent)
    {f : Activity → Option Activity} (h : t.IsCall s call)
    (hf : f (.consuming t.consumer) = (t.next? event).map fun next => .consuming next.1)
    (hfire : ∀ token, event ≠ .fire token) :
    ∃ events, (t.run events).IsCall ((s.change? other f).getD s) call := by
  obtain ⟨hcall, hfired⟩ := h
  by_cases hother : other = call
  · subst hother
    cases hnext : t.next? event with
    | none =>
      have hchange : s.change? other f = none := by
        rw [Client.change?, hcall, Option.bind_some, hf, hnext]
        rfl
      exact ⟨[], by rwa [hchange], by rwa [hchange]⟩
    | some next =>
      obtain ⟨hconsumer, hstep⟩ := step_of_next? hnext hfire
      have hlt := (List.getElem?_eq_some_iff.1 hcall).1
      have hchange : s.change? other f =
          some { s with calls := s.calls.set other (.consuming next.1) } := by
        rw [Client.change?, hcall, Option.bind_some, hf, hnext]
        rfl
      refine ⟨[event], ?_, ?_⟩
      · rw [hchange, Option.getD_some, List.getElem?_set_self hlt]
        exact congrArg (fun c => some (Activity.consuming c)) hconsumer.symm
      · rw [hchange, Option.getD_some]
        exact hfired.trans hstep.symm
  · refine ⟨[], ?_, ?_⟩
    · cases h : s.calls[other]?.bind f with
      | none => simpa [Client.change?, h, run] using hcall
      | some a => simpa [Client.change?, h, List.getElem?_set_ne hother, run] using hcall
    · cases h : s.calls[other]?.bind f <;> simpa [Client.change?, h, run] using hfired

lemma IsCall.start {s : Client} {call : Nat} {t : Consumption} (h : t.IsCall s call)
    (request : ClientRequest) (token : Token) : t.IsCall (s.start request token) call := by
  obtain ⟨hcall, hfired⟩ := h
  have hlt := (List.getElem?_eq_some_iff.1 hcall).1
  unfold Client.start
  split <;> exact ⟨by simpa [List.getElem?_append_left hlt] using hcall, hfired⟩

theorem IsCall.step {s : Client} {call : Nat} {t : Consumption} (h : t.IsCall s call)
    (event : ClientEvent) : ∃ events, (t.run events).IsCall (s.step event) call := by
  have hfired : s.fired = t.fired := h.2
  cases event with
  | dialed outcome => exact ⟨[], h⟩
  | start request token => exact ⟨[], h.start request token⟩
  | answer other part outcome =>
    cases part with
    | zero =>
      exact h.change? (.answer outcome)
        (by simp [Activity.answer?, next?, Function.comp_def]) (by simp)
    | succ i =>
      exact h.change? (.answerWorker i outcome)
        (by simp [Activity.answer?, next?, hfired, Function.comp_def]) (by simp)
  | resume other part messageId =>
    cases part with
    | zero =>
      exact h.change? .turn (by simp [Activity.resume?, next?, hfired, Function.comp_def]) (by simp)
    | succ i =>
      exact h.change? (.deliver i) (by simp [Activity.resume?, next?, Function.comp_def]) (by simp)
  | cancel other part =>
    cases part with
    | zero =>
      exact h.change? .cancel
        (by simp [Activity.cancel?, next?, hfired, Function.comp_def]) (by simp)
    | succ i =>
      exact h.change? (.stopWorker i)
        (by simp [Activity.cancel?, next?, hfired, Function.comp_def]) (by simp)
  | fire token =>
    have hstep : (t.step (.fire token)).consumer = t.consumer := note_consumer _ _ _
    refine ⟨[.fire token], ?_, congrArg (token :: ·) hfired⟩
    exact h.1.trans (congrArg (fun c => some (Activity.consuming c)) hstep.symm)
  | clock now => exact ⟨[], h⟩
  | drop other => exact h.change? .drop (by simp [Activity.drop, next?]) (by simp)

lemma IsCall.run {s : Client} {call : Nat} {t : Consumption} (h : t.IsCall s call)
    (events : List ClientEvent) :
    ∃ moves, (t.run moves).IsCall (events.foldl Client.step s) call := by
  induction events generalizing s t with
  | nil => exact ⟨[], h⟩
  | cons event events ih =>
    obtain ⟨first, hfirst⟩ := h.step event
    obtain ⟨rest, hrest⟩ := ih hfirst
    exact ⟨first ++ rest, by rwa [Consumption.run, List.foldl_append]⟩

lemma run_fire (tokens : List Token) (t : Consumption) :
    (t.run (tokens.map .fire)).consumer = t.consumer ∧
      (t.run (tokens.map .fire)).fired = tokens.reverse ++ t.fired := by
  induction tokens generalizing t with
  | nil => exact ⟨rfl, rfl⟩
  | cons token tokens ih =>
    have hstep : (t.step (.fire token)).consumer = t.consumer := note_consumer _ _ _
    obtain ⟨hconsumer, hfired⟩ := ih (t.step (.fire token))
    refine ⟨hconsumer.trans hstep, hfired.trans ?_⟩
    rw [List.reverse_cons, List.append_assoc]
    rfl

/-- A call of `subscribe_partitions` is a run of a consumer that begins with the tokens that had
fired before the call. -/
theorem isCall_of_consume {s : Client} (live : s.phase = .live)
    (name group replyTo messageId : String) (since : Instant) (token : Token)
    (events : List ClientEvent) :
    ∃ moves, ((start name group replyTo messageId since token).run moves).IsCall
      (events.foldl Client.step
        (s.step (.start (.consume name group replyTo messageId since) token))) s.calls.length := by
  obtain ⟨hconsumer, hfired⟩ :=
    run_fire s.fired.reverse (start name group replyTo messageId since token)
  have hcall : ((start name group replyTo messageId since token).run
      (s.fired.reverse.map .fire)).IsCall
      (s.step (.start (.consume name group replyTo messageId since) token)) s.calls.length := by
    refine ⟨?_, ?_⟩
    · rw [hconsumer]
      simp [Client.step, Client.start, live, Activity.start, start]
    · rw [hfired]
      simp [Client.step, Client.start, live, start]
  obtain ⟨moves, hmoves⟩ := hcall.run events
  exact ⟨s.fired.reverse.map .fire ++ moves, by rwa [Consumption.run, List.foldl_append]⟩

end Consumption
end DeviceHub.EventHub
