import DeviceHub.Proofs.Consumption.Links

/-!
How `subscribe_partitions` ends.  What it returns is told by its deeds until then: what
`get_partition_ids` came to, the receiver that could not be opened, or the error that a worker
reported first, unless the token of the caller fired before any of them.
-/
namespace DeviceHub.EventHub

def discoveries (deeds : List Deed) : List (HubResult (List String)) :=
  deeds.filterMap fun
    | .discovered outcome => some outcome
    | _ => none

def refusals (deeds : List Deed) : List HubError :=
  deeds.filterMap fun
    | .refused e => some e
    | _ => none

/-- The errors that workers report: those before the token fires. -/
def reports (token : Token) : List Deed → List HubError
  | [] => []
  | .failed e :: deeds => e :: reports token deeds
  | .fired t :: deeds => if t = token then [] else reports token deeds
  | _ :: deeds => reports token deeds

def queuedMessages (deeds : List Deed) : List Message :=
  deeds.filterMap fun
    | .queued _ m => some m
    | _ => none

inductive Cause where
  | discovery
  | noPartitions
  | refusal
  | failure
  | cancellation

/-- The cause for which a consumer ends and its error, by its deeds until then and the number of
receivers it has opened. -/
inductive EndsFor (name : String) (token : Token) (receivers : Nat) (deeds : List Deed) :
    Cause → HubError → Prop
  | discovery {e} (asked : discoveries deeds = [.error e]) :
      EndsFor name token receivers deeds .discovery e
  | noPartitions (asked : discoveries deeds = [.ok []]) :
      EndsFor name token receivers deeds .noPartitions
        (.decode ("event hub " ++ name ++ " reported no partitions"))
  | refusal {ids e} (asked : discoveries deeds = [.ok ids]) (left : receivers < ids.length)
      (refused : refusals deeds = [e]) : EndsFor name token receivers deeds .refusal e
  | giveUp {ids} (asked : discoveries deeds = [.ok ids]) (left : receivers < ids.length)
      (refused : refusals deeds = []) (fired : .fired token ∈ deeds) :
      EndsFor name token receivers deeds .cancellation .cancelled
  | failure {ids e} (asked : discoveries deeds = [.ok ids]) (all : receivers = ids.length)
      (nonempty : 0 < receivers) (refused : refusals deeds = [])
      (first : (reports token deeds).head? = some e) :
      EndsFor name token receivers deeds .failure e
  | notice {ids} (asked : discoveries deeds = [.ok ids]) (all : receivers = ids.length)
      (nonempty : 0 < receivers) (refused : refusals deeds = [])
      (quiet : reports token deeds = []) (fired : .fired token ∈ deeds) :
      EndsFor name token receivers deeds .cancellation .cancelled

theorem EndsFor.unique {name : String} {token : Token} {receivers : Nat} {deeds : List Deed}
    {cause cause' : Cause} {e e' : HubError} (h : EndsFor name token receivers deeds cause e)
    (h' : EndsFor name token receivers deeds cause' e') : cause = cause' ∧ e = e' := by
  cases h with
  | discovery asked => cases h' <;> simp_all
  | noPartitions asked => cases h' <;> simp_all
  | refusal asked left refused => cases h' <;> simp_all
  | giveUp asked left refused fired => cases h' <;> simp_all
  | failure asked all nonempty refused first => cases h' <;> simp_all
  | notice asked all nonempty refused quiet fired => cases h' <;> simp_all

/-- What has been handed to the callback when a consumer ends: all that was queued when a worker has
failed, and nothing before all receivers are open. -/
def HandedOver (delivered : List Message) (deeds : List Deed) : Cause → Prop
  | .failure => delivered = queuedMessages deeds
  | .cancellation => delivered <+: queuedMessages deeds
  | .discovery | .noPartitions | .refusal => delivered = []

section Deeds

variable {token : Token} {deeds more : List Deed}

@[simp] lemma discoveries_append :
    discoveries (deeds ++ more) = discoveries deeds ++ discoveries more :=
  List.filterMap_append

@[simp] lemma refusals_append : refusals (deeds ++ more) = refusals deeds ++ refusals more :=
  List.filterMap_append

@[simp] lemma queuedMessages_append :
    queuedMessages (deeds ++ more) = queuedMessages deeds ++ queuedMessages more :=
  List.filterMap_append

/-- What fails after the token fired is not reported. -/
lemma reports_append_of_mem (h : .fired token ∈ deeds) :
    reports token (deeds ++ more) = reports token deeds := by
  induction deeds with
  | nil => simp at h
  | cons d deeds ih =>
    cases d with
    | fired t =>
      by_cases ht : t = token
      · simp [reports, ht]
      · simpa [reports, ht] using ih (by simpa [Ne.symm ht] using h)
    | _ => simpa [reports] using ih (by simpa using h)

lemma reports_append_of_not_mem (h : .fired token ∉ deeds) :
    reports token (deeds ++ more) = reports token deeds ++ reports token more := by
  induction deeds with
  | nil => rfl
  | cons d deeds ih =>
    have hrest : .fired token ∉ deeds := fun hmem => h (List.mem_cons_of_mem d hmem)
    cases d with
    | fired t =>
      have ht : t ≠ token := fun ht => h (by simp [ht])
      simpa [reports, ht] using ih hrest
    | _ => simpa [reports] using ih hrest

/-- Deeds that are about links only. -/
def OnlyLinks (deeds : List Deed) : Prop :=
  ∀ d ∈ deeds, ∃ link, d = .opened link ∨ d = .closed link

lemma OnlyLinks.filterMap {α : Type} {f : Deed → Option α} (h : OnlyLinks deeds)
    (hf : ∀ link, f (.opened link) = none ∧ f (.closed link) = none) :
    deeds.filterMap f = [] := by
  rw [List.filterMap_eq_nil_iff]
  intro d hd
  obtain ⟨link, rfl | rfl⟩ := h d hd
  · exact (hf link).1
  · exact (hf link).2

lemma OnlyLinks.reports (h : OnlyLinks deeds) : reports token deeds = [] := by
  induction deeds with
  | nil => rfl
  | cons d deeds ih =>
    have hrest : OnlyLinks deeds := fun d hd => h d (List.mem_cons_of_mem _ hd)
    obtain ⟨link, rfl | rfl⟩ := h d List.mem_cons_self <;> exact ih hrest

lemma OnlyLinks.not_fired (h : OnlyLinks deeds) : .fired token ∉ deeds := by
  intro hmem
  obtain ⟨link, hd | hd⟩ := h _ hmem <;> cases hd

lemma PeerRequest.linkDeeds_onlyLinks (r : PeerRequest) (outcome : HubResult PeerAnswer) :
    OnlyLinks (r.linkDeeds outcome) := by
  unfold linkDeeds
  split <;> simp [OnlyLinks]

lemma Exchange.Move.onlyLinks {fired : List Token} {x x' : Exchange}
    (h : x.Move fired deeds x') : OnlyLinks deeds := by
  cases h with
  | answer asked answered => exact PeerRequest.linkDeeds_onlyLinks _ _
  | cancel cancelled => simp [OnlyLinks]

lemma Exchange.discoveries_frame (x : Exchange) :
    refusals x.discoveries = [] ∧ (∀ token, .fired token ∉ x.discoveries) ∧
      (∀ token, EventHub.reports token x.discoveries = []) ∧
      queuedMessages x.discoveries = [] := by
  unfold discoveries
  cases x.outcome? <;> simp [refusals, EventHub.reports, queuedMessages]

end Deeds

def Worker.isDone (w : Worker) : Bool :=
  match w.phase with
  | .closing | .finished => true
  | _ => false

namespace Consumer

variable {fired : List Token} {c c' : Consumer} {deeds : List Deed}

lemma isRunning_of_stopping {e : HubError} (phase : c.phase = .stopping e) :
    c.isRunning = false := by
  simp [isRunning, phase]

lemma isRunning_of_returned {e : HubError} (phase : c.phase = .returned e) :
    c.isRunning = false := by
  simp [isRunning, phase]

lemma isStopped_of_running (h : c.isRunning = true) :
    c.isStopped fired = fired.contains c.token := by
  unfold isRunning at h
  unfold isStopped
  cases hphase : c.phase <;> simp_all

/-- The consumer by what its exchange has come to. -/
lemma discovered_cases (c : Consumer) (x : Exchange) :
    (x.discoveries = [] ∧ c.discovered x = { c with phase := .discovering x }) ∨
    (∃ e, x.discoveries = [.discovered (.error e)] ∧
      c.discovered x = { c with phase := .returned e }) ∨
    (x.discoveries = [.discovered (.ok [])] ∧
      c.discovered x = { c with
        phase := .returned (.decode ("event hub " ++ c.name ++ " reported no partitions")) }) ∨
    ∃ ids, ids ≠ [] ∧ x.discoveries = [.discovered (.ok ids)] ∧
      c.discovered x = { c with phase := .opening ids, capacity := ids.length } := by
  unfold discovered Exchange.discoveries
  cases x.outcome? with
  | none => exact .inl ⟨rfl, rfl⟩
  | some outcome =>
    cases h : outcome.bind readPartitions with
    | error e => exact .inr (.inl ⟨e, by simp [h], by simp [h]⟩)
    | ok ids =>
      cases ids with
      | nil => exact .inr (.inr (.inl ⟨by simp [h], by simp [h]⟩))
      | cons id rest => exact .inr (.inr (.inr ⟨id :: rest, by simp, by simp [h], by simp [h]⟩))

lemma not_isDone_of_busy {w : Worker} (busy : w.phase = .receiving ∨ ∃ m, w.phase = .accepting m) :
    w.isDone = false := by
  obtain hw | ⟨m, hw⟩ := busy <;> simp [Worker.isDone, hw]

lemma WorkerMove.done (h : c.WorkerMove fired deeds c') :
    c'.errors.length + c.workers.countP Worker.isDone ≤
      c.errors.length + c'.workers.countP Worker.isDone := by
  cases h with
  | @fail before after e w split busy =>
    have hclosing : Worker.isDone ⟨w.link, .closing⟩ = true := rfl
    have hlength : (if c.isStopped fired then c.errors else (c.report e).errors).length ≤
        c.errors.length + 1 := by
      unfold report
      split <;> [skip; split] <;> simp
    simp only [split, List.countP_append, List.countP_cons, not_isDone_of_busy busy, hclosing,
      Bool.false_eq_true, if_false, if_true]
    omega
  | receive split | accept split | enqueue split room => simp [split, Worker.isDone]
  | stop split stopped | discard split stopped | close split =>
    simp [split, Worker.isDone, List.countP_cons]

/-- The error of a worker finds room: every worker that is done has reported one at most. -/
lemma WorkerMove.errors (h : c.WorkerMove fired deeds c') (hrunning : c.isRunning = true)
    (hdone : c.errors.length ≤ c.workers.countP Worker.isDone)
    (hcapacity : c.workers.length ≤ c.capacity) :
    c'.errors = c.errors ++ if c.token ∈ fired then [] else reports c.token deeds := by
  have hstopped : c.isStopped fired = fired.contains c.token := isStopped_of_running hrunning
  cases h with
  | @fail before after e w split busy =>
    by_cases hfired : c.token ∈ fired
    · have hc : c.isStopped fired = true := by simpa [hstopped] using hfired
      simp [hc, hfired]
    · have hc : c.isStopped fired = false := by simpa [hstopped] using hfired
      have hroom : c.errors.length < c.capacity := by
        have hbefore : before.countP Worker.isDone ≤ before.length := List.countP_le_length
        have hafter : after.countP Worker.isDone ≤ after.length := List.countP_le_length
        simp only [split, List.countP_append, List.countP_cons, not_isDone_of_busy busy,
          List.length_append, List.length_cons, Bool.false_eq_true, if_false] at hdone hcapacity
        omega
      simp [hc, hfired, report, hroom, reports]
  | receive split | accept split | enqueue split room | stop split stopped | discard split stopped
  | close split => simp [reports]

lemma WorkerMove.deeds_frame (h : c.WorkerMove fired deeds c') :
    discoveries deeds = [] ∧ refusals deeds = [] ∧ ∀ token, .fired token ∉ deeds := by
  cases h <;> simp [discoveries, refusals]

lemma WorkerMove.queue (h : c.WorkerMove fired deeds c') :
    c'.queue = c.queue ++ queuedMessages deeds := by
  cases h <;> simp [queuedMessages]

end Consumer

namespace Consumption

/-- How far a running consumer is with its partitions. -/
inductive Stage (c : Consumer) (deeds : List Deed) : Prop
  | discovering {x} (phase : c.phase = .discovering x) (asked : discoveries deeds = [])
      (workers : c.workers = []) (capacity : c.capacity = 0)
  | opening {ids rest} (phase : c.phase = .opening rest) (asked : discoveries deeds = [.ok ids])
      (left : rest ≠ []) (count : c.workers.length + rest.length = ids.length)
      (capacity : c.capacity = ids.length)
  | consuming {ids} (phase : c.phase = .consuming) (asked : discoveries deeds = [.ok ids])
      (nonempty : 0 < c.workers.length) (count : c.workers.length = ids.length)
      (capacity : c.capacity = ids.length)

structure Running (s : Consumption) : Prop where
  aftermath : s.aftermath = []
  fired : ∀ token, .fired token ∈ s.deeds ↔ token ∈ s.fired
  /-- The queue of errors holds all that was reported. -/
  errors : s.consumer.errors = reports s.consumer.token s.deeds
  done : s.consumer.errors.length ≤ s.consumer.workers.countP Worker.isDone
  refused : refusals s.deeds = []
  /-- What was queued is in the queue or was handed over. -/
  queue : queuedMessages s.deeds = s.consumer.delivered ++ s.consumer.queue
  early : s.consumer.phase ≠ .consuming → s.consumer.delivered = []
  stage : Stage s.consumer s.deeds

/-- What holds from the end of a consumer on. -/
def Ended (s : Consumption) (e : HubError) : Prop :=
  ∃ cause, EndsFor s.consumer.name s.consumer.token s.consumer.workers.length s.deeds cause e ∧
    HandedOver s.consumer.delivered s.deeds cause

inductive Sound (s : Consumption) : Prop
  | running (h : s.Running)
  | stopping {e} (phase : s.consumer.phase = .stopping e) (ended : s.Ended e)
  | returned {e} (phase : s.consumer.phase = .returned e) (ended : s.Ended e)
      (joined : ∀ w ∈ s.consumer.workers, w.phase = .finished)
  | dropped (phase : s.consumer.phase = .dropped)

lemma Stage.isRunning {c : Consumer} {deeds : List Deed} (h : Stage c deeds) :
    c.isRunning = true := by
  cases h <;> simp_all [Consumer.isRunning]

lemma Stage.workers_le {c : Consumer} {deeds : List Deed} (h : Stage c deeds) :
    c.workers.length ≤ c.capacity := by
  cases h with
  | discovering phase asked workers capacity => simp [workers]
  | opening phase asked left count capacity => omega
  | consuming phase asked nonempty count capacity => omega

/-- Only the phase, the number of workers and the capacity tell how far a consumer is. -/
lemma Stage.congr {c c' : Consumer} {deeds more : List Deed} (h : Stage c deeds)
    (phase : c'.phase = c.phase) (workers : c'.workers.length = c.workers.length)
    (capacity : c'.capacity = c.capacity) (more_none : discoveries more = []) :
    Stage c' (deeds ++ more) := by
  have hasked : discoveries (deeds ++ more) = discoveries deeds := by simp [more_none]
  cases h with
  | discovering hphase asked hworkers hcapacity =>
    refine .discovering (phase.trans hphase) (hasked.trans asked) ?_ (capacity.trans hcapacity)
    exact List.eq_nil_of_length_eq_zero (by simpa [hworkers] using workers)
  | opening hphase asked left count hcapacity =>
    exact .opening (phase.trans hphase) (hasked.trans asked) left (workers ▸ count)
      (capacity.trans hcapacity)
  | consuming hphase asked nonempty count hcapacity =>
    exact .consuming (phase.trans hphase) (hasked.trans asked) (workers ▸ nonempty)
      (workers.trans count) (capacity.trans hcapacity)

lemma Running.worker {s : Consumption} {c : Consumer} {deeds : List Deed} (h : s.Running)
    (move : s.consumer.WorkerMove s.fired deeds c) : (s.note c deeds).Running := by
  obtain ⟨-, htoken, hphase, hcapacity, hdelivered, hworkers⟩ := move.frame
  obtain ⟨hasked, hrefused, hfired⟩ := move.deeds_frame
  have herrors := move.errors h.stage.isRunning h.done h.stage.workers_le
  have hdone := move.done
  have := h.done
  rw [note_of_running h.stage.isRunning]
  refine ⟨h.aftermath, fun token => ?_, ?_, by simp only; omega, ?_, ?_, ?_, ?_⟩
  · rw [List.mem_append, h.fired]
    exact or_iff_left (hfired token)
  · simp only [htoken]
    rw [herrors, h.errors]
    split
    next hmem => rw [reports_append_of_mem ((h.fired _).2 hmem), List.append_nil]
    next hmem => rw [reports_append_of_not_mem fun hm => hmem ((h.fired _).1 hm)]
  · rw [refusals_append, h.refused, hrefused, List.append_nil]
  · rw [queuedMessages_append, h.queue, hdelivered, move.queue, List.append_assoc]
  · rw [hphase, hdelivered]
    exact h.early
  · exact h.stage.congr hphase hworkers hcapacity hasked

lemma Running.fire {s : Consumption} (h : s.Running) (token : Token) :
    Running { s.note s.consumer [.fired token] with fired := token :: s.fired } := by
  rw [note_of_running h.stage.isRunning]
  refine ⟨h.aftermath, fun t => ?_, ?_, h.done, ?_, ?_, h.early, ?_⟩
  · simp [h.fired, or_comm]
  · simp only
    rw [h.errors]
    by_cases hmem : .fired s.consumer.token ∈ s.deeds
    · rw [reports_append_of_mem hmem]
    · rw [reports_append_of_not_mem hmem]
      simp [reports]
  · rw [refusals_append, h.refused]
    rfl
  · rw [queuedMessages_append, h.queue]
    exact List.append_nil _
  · exact h.stage.congr rfl rfl rfl rfl

section Inversion

variable {c : Consumer} {deeds : List Deed}

lemma Stage.of_discovering {x : Exchange} (h : Stage c deeds) (phase : c.phase = .discovering x) :
    discoveries deeds = [] ∧ c.workers = [] ∧ c.capacity = 0 := by
  cases h with
  | discovering hphase asked workers capacity => exact ⟨asked, workers, capacity⟩
  | opening hphase => cases phase.symm.trans hphase
  | consuming hphase => cases phase.symm.trans hphase

lemma Stage.of_opening {rest : List String} (h : Stage c deeds) (phase : c.phase = .opening rest) :
    ∃ ids, discoveries deeds = [.ok ids] ∧ rest ≠ [] ∧
      c.workers.length + rest.length = ids.length ∧ c.capacity = ids.length := by
  cases h with
  | discovering hphase => cases phase.symm.trans hphase
  | opening hphase asked left count capacity =>
    cases phase.symm.trans hphase
    exact ⟨_, asked, left, count, capacity⟩
  | consuming hphase => cases phase.symm.trans hphase

lemma Stage.of_consuming (h : Stage c deeds) (phase : c.phase = .consuming) :
    ∃ ids, discoveries deeds = [.ok ids] ∧ 0 < c.workers.length ∧
      c.workers.length = ids.length ∧ c.capacity = ids.length := by
  cases h with
  | discovering hphase => cases phase.symm.trans hphase
  | opening hphase => cases phase.symm.trans hphase
  | consuming hphase asked nonempty count capacity =>
    exact ⟨_, asked, nonempty, count, capacity⟩

end Inversion

lemma Running.extend {s : Consumption} {c : Consumer} {more : List Deed} (h : s.Running)
    (fired : ∀ token, .fired token ∉ more) (refused : refusals more = [])
    (quiet : reports s.consumer.token more = []) (queued : queuedMessages more = [])
    (token : c.token = s.consumer.token) (errors : c.errors = s.consumer.errors)
    (queue : c.delivered ++ c.queue = s.consumer.delivered ++ s.consumer.queue)
    (early : c.phase = .consuming ∨ c.delivered = [])
    (done : s.consumer.workers.countP Worker.isDone ≤ c.workers.countP Worker.isDone)
    (stage : Stage c (s.deeds ++ more)) :
    Running { s with consumer := c, deeds := s.deeds ++ more } where
  aftermath := h.aftermath
  fired t := by
    rw [List.mem_append, h.fired]
    exact or_iff_left (fired t)
  errors := by
    simp only [errors, token]
    rw [h.errors]
    by_cases hmem : .fired s.consumer.token ∈ s.deeds
    · rw [reports_append_of_mem hmem]
    · rw [reports_append_of_not_mem hmem, quiet, List.append_nil]
  done := by
    simp only [errors]
    exact Nat.le_trans h.done done
  refused := by rw [refusals_append, h.refused, refused, List.append_nil]
  queue := by rw [queuedMessages_append, h.queue, queued, List.append_nil, queue]
  early hphase := early.resolve_left hphase
  stage := stage

lemma Running.ask {s : Consumption} {x x' : Exchange} {exchanged : List Deed} (h : s.Running)
    (phase : s.consumer.phase = .discovering x) (move : x.Move s.fired exchanged x') :
    (s.note (s.consumer.discovered x') (exchanged ++ x'.discoveries)).Sound := by
  obtain ⟨hasked, hworkers, hcapacity⟩ := h.stage.of_discovering phase
  have hdelivered : s.consumer.delivered = [] := h.early (by rw [phase]; nofun)
  have hlinks := move.onlyLinks
  obtain ⟨hrefused, hfired, hquiet, hqueued⟩ := x'.discoveries_frame
  have hmore : discoveries (s.deeds ++ (exchanged ++ x'.discoveries)) =
      discoveries x'.discoveries := by
    rw [discoveries_append, discoveries_append, hasked]
    simp [discoveries, hlinks.filterMap]
  -- whatever the phase, what the exchange does leaves a consumer running
  have hrunning : ∀ phase capacity,
      Stage { s.consumer with phase, capacity } (s.deeds ++ (exchanged ++ x'.discoveries)) →
      Running { s with
        consumer := { s.consumer with phase, capacity }
        deeds := s.deeds ++ (exchanged ++ x'.discoveries) } := by
    intro phase capacity
    refine h.extend (fun t ht => ?_) ?_ ?_ ?_ rfl rfl rfl (.inr hdelivered) (Nat.le_refl _)
    · exact (List.mem_append.1 ht).elim hlinks.not_fired (hfired t)
    · rw [refusals_append, hrefused]
      simp [refusals, hlinks.filterMap]
    · rw [reports_append_of_not_mem hlinks.not_fired, hlinks.reports, hquiet]
      rfl
    · rw [queuedMessages_append, hqueued]
      simp [queuedMessages, hlinks.filterMap]
  rw [note_of_running h.stage.isRunning]
  obtain ⟨hfound, hc⟩ | ⟨e, hfound, hc⟩ | ⟨hfound, hc⟩ | ⟨ids, hids, hfound, hc⟩ :=
    s.consumer.discovered_cases x'
  · rw [hc]
    exact .running <| hrunning (.discovering x') s.consumer.capacity <|
      .discovering rfl (by rw [hmore, hfound]; rfl) hworkers hcapacity
  · rw [hc]
    refine .returned rfl ⟨.discovery, .discovery (by rw [hmore, hfound]; rfl), hdelivered⟩ ?_
    simp [hworkers]
  · rw [hc]
    refine .returned rfl ⟨.noPartitions, .noPartitions (by rw [hmore, hfound]; rfl), hdelivered⟩ ?_
    simp [hworkers]
  · rw [hc]
    exact .running <| hrunning (.opening ids) ids.length <|
      .opening rfl (by rw [hmore, hfound]; rfl) hids (by simp [hworkers]) rfl

lemma Running.own {s : Consumption} {c : Consumer} {deeds : List Deed} (h : s.Running)
    (move : s.consumer.OwnMove s.fired deeds c) : (s.note c deeds).Sound := by
  cases move with
  | ask phase move => exact h.ask phase move
  | @join id rest link phase =>
    obtain ⟨ids, hasked, -, hcount, hcapacity⟩ := h.stage.of_opening phase
    have hdelivered : s.consumer.delivered = [] := h.early (by rw [phase]; nofun)
    have hasked' : discoveries (s.deeds ++ [.opened link]) = [.ok ids] := by
      rw [discoveries_append, hasked]
      rfl
    rw [note_of_running h.stage.isRunning]
    refine .running <|
      h.extend (by simp) rfl rfl rfl rfl rfl rfl (.inr hdelivered) (by simp) ?_
    cases rest with
    | nil => exact .consuming rfl hasked' (by simp) (by simpa using hcount) hcapacity
    | cons next rest =>
      refine .opening rfl hasked' (by simp) ?_ hcapacity
      simp only [List.length_append, List.length_cons, List.length_nil] at hcount ⊢
      omega
  | @refuse rest e phase =>
    obtain ⟨ids, hasked, hleft, hcount, hcapacity⟩ := h.stage.of_opening phase
    have hdelivered : s.consumer.delivered = [] := h.early (by rw [phase]; nofun)
    have := List.length_pos_iff.2 hleft
    rw [note_of_running h.stage.isRunning]
    have hasked' : discoveries (s.deeds ++ [.refused e]) = [.ok ids] := by
      rw [discoveries_append, hasked]
      rfl
    have hrefused : refusals (s.deeds ++ [.refused e]) = [e] := by
      rw [refusals_append, h.refused]
      rfl
    refine .stopping rfl ⟨.refusal, ?_, hdelivered⟩
    exact .refusal hasked' (by simp only; omega) hrefused
  | @giveUp rest phase cancelled =>
    obtain ⟨ids, hasked, hleft, hcount, hcapacity⟩ := h.stage.of_opening phase
    have := List.length_pos_iff.2 hleft
    rw [note_of_running h.stage.isRunning, List.append_nil]
    refine .stopping rfl ⟨.cancellation, ?_, ?_⟩
    · exact .giveUp hasked (by simp only; omega) h.refused ((h.fired _).2 cancelled)
    · exact ⟨s.consumer.queue, h.queue.symm⟩
  | @take e errors phase reported =>
    obtain ⟨ids, hasked, hsome, hcount, -⟩ := h.stage.of_consuming phase
    rw [note_of_running h.stage.isRunning, List.append_nil]
    refine .stopping rfl ⟨.failure, .failure hasked hcount hsome h.refused ?_, h.queue.symm⟩
    rw [← h.errors, reported, List.head?_cons]
  | notice phase quiet cancelled =>
    obtain ⟨ids, hasked, hsome, hcount, -⟩ := h.stage.of_consuming phase
    rw [note_of_running h.stage.isRunning, List.append_nil]
    refine .stopping rfl ⟨.cancellation, ?_, ?_⟩
    · exact .notice hasked hcount hsome h.refused (h.errors ▸ quiet) ((h.fired _).2 cancelled)
    · exact ⟨s.consumer.queue, h.queue.symm⟩
  | @hand m queue phase next =>
    obtain ⟨ids, hasked, hsome, hcount, hcapacity⟩ := h.stage.of_consuming phase
    rw [note_of_running h.stage.isRunning]
    refine .running (h.extend (by simp) rfl rfl rfl rfl rfl ?_ (.inl phase) (Nat.le_refl _) ?_)
    · rw [next, List.append_assoc]
      rfl
    · rw [List.append_nil]
      exact .consuming phase hasked hsome hcount hcapacity
  | finish phase joined =>
    have := h.stage.isRunning
    simp [Consumer.isRunning, phase] at this

lemma Ended.note {s : Consumption} {e : HubError} (h : s.Ended e) (c : Consumer)
    (deeds : List Deed) (running : s.consumer.isRunning = false) (name : c.name = s.consumer.name)
    (token : c.token = s.consumer.token) (delivered : c.delivered = s.consumer.delivered)
    (workers : c.workers.length = s.consumer.workers.length) : (s.note c deeds).Ended e := by
  obtain ⟨cause, hends, hhanded⟩ := h
  rw [note_of_not_running running]
  refine ⟨cause, ?_, ?_⟩
  · simpa only [name, token, workers] using hends
  · simpa only [delivered] using hhanded

lemma Running.not_returned {s : Consumption} (h : s.Running) (e : HubError) :
    s.consumer.phase ≠ .returned e := by
  intro phase
  have := h.stage.isRunning
  rw [Consumer.isRunning_of_returned phase] at this
  cases this

theorem Sound.move {s t : Consumption} (hs : s.Sound) (h : s.Move t) : t.Sound := by
  cases h with
  | idle => exact hs
  | @worker deeds c move =>
    obtain ⟨hname, htoken, hphase, -, hdelivered, hworkers⟩ := move.frame
    cases hs with
    | running hs => exact .running (hs.worker move)
    | stopping phase ended =>
      have hended := ended.note c deeds (Consumer.isRunning_of_stopping phase) hname htoken
        hdelivered hworkers
      exact .stopping (by rw [note_consumer, hphase, phase]) hended
    | returned phase ended joined =>
      obtain ⟨w, hw, hunfinished⟩ := move.exists_unfinished
      exact absurd (joined w hw) hunfinished
    | dropped phase => exact .dropped (by rw [note_consumer, hphase, phase])
  | @own deeds c move =>
    cases hs with
    | running hs => exact hs.own move
    | @stopping e phase ended =>
      cases move with
      | finish hphase joined =>
        cases phase.symm.trans hphase
        have hended := ended.note { s.consumer with phase := .returned e } []
          (Consumer.isRunning_of_stopping phase) rfl rfl rfl rfl
        refine .returned ?_ hended ?_
        · rw [note_consumer]
        · rwa [note_consumer]
      | _ => simp_all
    | returned phase ended joined => exact absurd phase (move.not_over.1 _)
    | dropped phase => exact absurd phase move.not_over.2
  | fire token =>
    have hconsumer := note_consumer s.consumer [.fired token] s
    cases hs with
    | running hs => exact .running (hs.fire token)
    | stopping phase ended =>
      have hended := ended.note s.consumer [.fired token] (Consumer.isRunning_of_stopping phase)
        rfl rfl rfl rfl
      exact .stopping (by rw [hconsumer, phase]) hended
    | returned phase ended joined =>
      have hended := ended.note s.consumer [.fired token] (Consumer.isRunning_of_returned phase)
        rfl rfl rfl rfl
      exact .returned (by rw [hconsumer, phase]) hended (by rwa [hconsumer])
    | dropped phase => exact .dropped (by rw [hconsumer, phase])
  | drop =>
    obtain ⟨e, phase, hdrop⟩ | hdropped := s.consumer.drop_cases
    · rw [hdrop]
      cases hs with
      | running hs => exact absurd phase (hs.not_returned e)
      | stopping hphase ended => cases phase.symm.trans hphase
      | returned hphase ended joined =>
        have hended := ended.note s.consumer [] (Consumer.isRunning_of_returned phase)
          rfl rfl rfl rfl
        exact .returned (by rw [note_consumer, hphase]) hended (by rwa [note_consumer])
      | dropped hphase => cases phase.symm.trans hphase
    · exact .dropped (by rw [note_consumer, hdropped])

theorem run_sound (name group replyTo messageId : String) (since : Instant) (token : Token)
    (events : List ConsumerEvent) :
    ((start name group replyTo messageId since token).run events).Sound := by
  refine run_induction (fun _ _ hs h => hs.move h) events (.running ?_)
  exact ⟨rfl, by simp [start], rfl, Nat.le_refl _, rfl, rfl, fun _ => rfl,
    .discovering rfl rfl rfl rfl⟩

lemma Sound.of_outcome? {s : Consumption} {reply : Checked ClientReply} (hs : s.Sound)
    (h : (Activity.consuming s.consumer).outcome? = some reply) :
    ∃ e, reply = .error (.error e) ∧ s.consumer.phase = .returned e ∧ s.Ended e ∧
      ∀ w ∈ s.consumer.workers, w.phase = .finished := by
  obtain ⟨e, houtcome, rfl⟩ := Option.map_eq_some_iff.1 h
  have hphase : s.consumer.phase = .returned e := by
    unfold Consumer.outcome? at houtcome
    split at houtcome
    next hphase => rw [hphase, Option.some.inj houtcome]
    next => cases houtcome
  cases hs with
  | running hrunning => exact absurd hphase (hrunning.not_returned e)
  | stopping phase => cases hphase.symm.trans phase
  | dropped phase => cases hphase.symm.trans phase
  | returned phase ended joined =>
    cases hphase.symm.trans phase
    exact ⟨e, rfl, phase, ended, joined⟩

/-- A consumer that returns has closed every link it opened exactly once, no worker of it is left,
and it returns an error, for a cause that is told by what was done until its end. -/
theorem returned_with_cause (name group replyTo messageId : String) (since : Instant)
    (token : Token) (events : List ConsumerEvent) {s : Consumption} {reply : Checked ClientReply}
    (hs : (start name group replyTo messageId since token).run events = s)
    (h : (Activity.consuming s.consumer).outcome? = some reply) :
    (∀ link, (openedLinks s.record).count link = (closedLinks s.record).count link) ∧
      (∀ w ∈ s.consumer.workers, w.phase = .finished) ∧
      ∃ cause e, reply = .error (.error e) ∧
        EndsFor name token s.consumer.workers.length s.deeds cause e := by
  have hsound := run_sound name group replyTo messageId since token events
  have hbalanced := links_lawful.run_balanced events
    (.inr fun _ => rfl : links.Balanced (start name group replyTo messageId since token))
  have hframe := run_frame name group replyTo messageId since token events
  rw [hs] at hsound hbalanced hframe
  obtain ⟨e, rfl, phase, ⟨cause, hcause, -⟩, joined⟩ := hsound.of_outcome? h
  refine ⟨fun link => ?_, joined, cause, e, rfl, hframe.1 ▸ hframe.2 ▸ hcause⟩
  refine (hbalanced.perm_of_returned phase rfl fun w hw => ?_).count_eq link
  simp only [links, Worker.heldLink?, joined w hw]

def twoPartitions : List ConsumerEvent :=
  [.answer (.ok (.opened 0)), .answer (.ok (.opened 1)), .answer (.ok .done),
    .answer (.ok (.received
      { value := .mapping [("partition_ids", .sequence [.string "a", .string "b"])]
        correlationId := some "q"
        applicationProperties := [("status-code", .int 200)] })),
    .answer (.ok .done), .answer (.ok .done), .answer (.ok .done)]

/-- The second receiver fails; the first one is closed when its worker notices. -/
def secondFails : List ConsumerEvent :=
  twoPartitions ++
    [.answer (.ok (.opened 2)), .answer (.ok (.opened 3)), .answerWorker 1 (.error .closed), .turn,
      .stopWorker 0, .answerWorker 1 (.ok .done), .fire "t", .answerWorker 0 (.ok .done), .turn]

theorem returned_with_cause_of_failure :
    let s := (start "n" "g" "r" "q" ⟨0⟩ "t").run secondFails
    (Activity.consuming s.consumer).outcome? = some (.error (.error .closed)) ∧
      (∀ link, (openedLinks s.record).count link = (closedLinks s.record).count link) ∧
      (∀ w ∈ s.consumer.workers, w.phase = .finished) ∧
      ∃ cause e, (.error (.error .closed) : Checked ClientReply) = .error (.error e) ∧
        EndsFor "n" "t" s.consumer.workers.length s.deeds cause e :=
  ⟨rfl, returned_with_cause "n" "g" "r" "q" ⟨0⟩ "t" secondFails rfl rfl⟩

end Consumption
end DeviceHub.EventHub
