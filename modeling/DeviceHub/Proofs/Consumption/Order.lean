import DeviceHub.Proofs.Consumption.Watch

/-!
The messages of `subscribe_partitions` in the order of time.  At every moment what was handed to the
callback from a receiver is a beginning of what was accepted on it, and that is a beginning of what
was received; nothing is seen after the return.
-/
namespace DeviceHub.EventHub
namespace Watch

/-- At some moment the messages of each receiver have come along in their order. -/
def InOrder (sightings : List Sighting) : Prop :=
  ∀ i, reached .handed i sightings <+: reached .accepted i sightings ∧
    reached .accepted i sightings <+: reached .received i sightings

structure Ordered (w : Watch) : Prop where
  /-- Every message in the queue is some worker's. -/
  origins : w.origins.length = w.consumer.queue.length
  /-- What a worker has accepted was handed over, is in the queue, or is in its hand. -/
  held : ∀ i, ∃ xs ys, InHand (w.consumer.phaseOf i) xs ys ∧
    reached .accepted i w.sightings =
      reached .handed i w.sightings ++ reached .handed i w.pending ++ xs ∧
    reached .received i w.sightings = reached .accepted i w.sightings ++ ys
  always : ∀ earlier, earlier <+: w.sightings → InOrder earlier
  handed : handedMessages w.sightings = w.consumer.delivered

variable {w t : Watch}

lemma start_ordered (name group replyTo messageId : String) (since : Instant) (token : Token) :
    (start name group replyTo messageId since token).Ordered where
  origins := rfl
  held i := ⟨[], [], .absent, rfl, rfl⟩
  always earlier h := by
    obtain rfl := List.prefix_nil.1 h
    exact fun i => ⟨List.nil_prefix, List.nil_prefix⟩
  handed := rfl

/-- What was seen earlier, or some of what is new after all that was seen. -/
lemma prefix_append_cases {α : Type} {earlier seen news : List α} (h : earlier <+: seen ++ news) :
    earlier <+: seen ∨ ∃ first, first <+: news ∧ earlier = seen ++ first := by
  obtain ⟨later, h⟩ := h
  obtain ⟨more, rfl, -⟩ | ⟨first, rfl, rfl⟩ := List.append_eq_append_iff.1 h
  · exact .inl ⟨more, rfl⟩
  · exact .inr ⟨first, ⟨later, rfl⟩, rfl⟩

lemma Ordered.always_append (h : w.Ordered) {news : List Sighting}
    (hnews : ∀ first, first <+: news → InOrder (w.sightings ++ first)) :
    ∀ earlier, earlier <+: w.sightings ++ news → InOrder earlier := by
  intro earlier hearlier
  obtain hseen | ⟨first, hfirst, rfl⟩ := prefix_append_cases hearlier
  · exact h.always earlier hseen
  · exact hnews first hfirst

lemma Ordered.now (h : w.Ordered) : InOrder w.sightings :=
  h.always _ (List.prefix_refl _)

lemma prefix_singleton_cases {α : Type} {first : List α} {news : α} (h : first <+: [news]) :
    first = [] ∨ first = [news] := by
  cases first with
  | nil => exact .inl rfl
  | cons a rest =>
    obtain ⟨rfl, hrest⟩ := List.cons_prefix_cons.1 h
    rw [List.prefix_nil.1 hrest]
    exact .inr rfl

lemma Ordered.still {news : List Sighting} (h : w.Ordered)
    (seen : t.sightings = w.sightings ++ news) (silent : Silent news)
    (origins : t.origins = w.origins) (queue : t.consumer.queue = w.consumer.queue)
    (delivered : t.consumer.delivered = w.consumer.delivered)
    (phases : ∀ i xs ys, InHand (w.consumer.phaseOf i) xs ys →
      InHand (t.consumer.phaseOf i) xs ys) : t.Ordered where
  origins := by rw [origins, queue, h.origins]
  held i := by
    obtain ⟨xs, ys, hhand, haccepted, hreceived⟩ := h.held i
    have hpending : t.pending = w.pending := by rw [pending, origins, queue]; rfl
    refine ⟨xs, ys, phases i xs ys hhand, ?_, ?_⟩
    · simpa [seen, hpending, silent.reached] using haccepted
    · simpa [seen, silent.reached] using hreceived
  always := by
    rw [seen]
    refine h.always_append fun first hfirst i => ?_
    have hsilent : Silent first := fun k j m hm => silent k j m (hfirst.subset hm)
    simpa [hsilent.reached] using h.now i
  handed := by
    rw [seen, handedMessages_append, silent.handedMessages, List.append_nil, h.handed, delivered]

lemma Ordered.receive {i : Nat} {m : Message} (h : w.Ordered)
    (seen : t.sightings = w.sightings ++ [.message .received i m])
    (origins : t.origins = w.origins) (queue : t.consumer.queue = w.consumer.queue)
    (delivered : t.consumer.delivered = w.consumer.delivered)
    (phase : w.consumer.phaseOf i = some .receiving)
    (phases : ∀ j, t.consumer.phaseOf j =
      if i = j then some (.accepting m) else w.consumer.phaseOf j) : t.Ordered where
  origins := by rw [origins, queue, h.origins]
  held j := by
    obtain ⟨xs, ys, hhand, haccepted, hreceived⟩ := h.held j
    have hpending : t.pending = w.pending := by rw [pending, origins, queue]; rfl
    rw [phases, seen, hpending]
    simp only [reached_append, reached_message]
    by_cases hij : i = j
    · subst hij
      rw [phase] at hhand
      cases hhand
      refine ⟨[], [m], by simpa using InHand.accepting m, ?_, ?_⟩
      · simpa using haccepted
      · simpa using hreceived
    · refine ⟨xs, ys, by simpa [hij] using hhand, ?_, ?_⟩
      · simpa [hij] using haccepted
      · simpa [hij] using hreceived
  always := by
    rw [seen]
    refine h.always_append fun first hfirst j => ?_
    obtain rfl | rfl := prefix_singleton_cases hfirst
    · simpa using h.now j
    · refine ⟨by simpa [reached_message] using (h.now j).1, ?_⟩
      simpa [reached_message] using (h.now j).2.trans (List.prefix_append _ _)
  handed := by
    rw [seen, handedMessages_append, h.handed, delivered]
    exact List.append_nil _

lemma Ordered.accept {i : Nat} {m : Message} (h : w.Ordered)
    (seen : t.sightings = w.sightings ++ [.message .accepted i m])
    (origins : t.origins = w.origins) (queue : t.consumer.queue = w.consumer.queue)
    (delivered : t.consumer.delivered = w.consumer.delivered)
    (phase : w.consumer.phaseOf i = some (.accepting m))
    (phases : ∀ j, t.consumer.phaseOf j =
      if i = j then some (.delivering m) else w.consumer.phaseOf j) : t.Ordered where
  origins := by rw [origins, queue, h.origins]
  held j := by
    obtain ⟨xs, ys, hhand, haccepted, hreceived⟩ := h.held j
    have hpending : t.pending = w.pending := by rw [pending, origins, queue]; rfl
    rw [phases, seen, hpending]
    simp only [reached_append, reached_message]
    by_cases hij : i = j
    · subst hij
      rw [phase] at hhand
      cases hhand
      refine ⟨[m], [], by simpa using InHand.delivering m, ?_, ?_⟩
      · simp [haccepted]
      · simpa using hreceived
    · refine ⟨xs, ys, by simpa [hij] using hhand, ?_, ?_⟩
      · simpa [hij] using haccepted
      · simpa [hij] using hreceived
  always := by
    rw [seen]
    refine h.always_append fun first hfirst j => ?_
    obtain rfl | rfl := prefix_singleton_cases hfirst
    · simpa using h.now j
    · refine ⟨?_, ?_⟩
      · simpa [reached_message] using (h.now j).1.trans (List.prefix_append _ _)
      · by_cases hij : i = j
        · subst hij
          -- the message that is accepted is the one that was received last
          obtain ⟨xs, ys, hhand, -, hreceived⟩ := h.held i
          rw [phase] at hhand
          cases hhand
          simp [reached_message, hreceived]
        · simpa [reached_message, hij] using (h.now j).2
  handed := by
    rw [seen, handedMessages_append, h.handed, delivered]
    exact List.append_nil _

lemma Ordered.enqueue {i : Nat} {m : Message} (h : w.Ordered) (seen : t.sightings = w.sightings)
    (origins : t.origins = w.origins ++ [i]) (queue : t.consumer.queue = w.consumer.queue ++ [m])
    (delivered : t.consumer.delivered = w.consumer.delivered)
    (phase : w.consumer.phaseOf i = some (.delivering m))
    (phases : ∀ j, t.consumer.phaseOf j =
      if i = j then some .receiving else w.consumer.phaseOf j) : t.Ordered where
  origins := by simp [origins, queue, h.origins]
  held j := by
    obtain ⟨xs, ys, hhand, haccepted, hreceived⟩ := h.held j
    have hpending : t.pending = w.pending ++ [.message .handed i m] := by
      rw [pending, origins, queue, handing, List.zipWith_append h.origins]
      rfl
    rw [phases, seen, hpending]
    simp only [reached_append, reached_message]
    by_cases hij : i = j
    · subst hij
      rw [phase] at hhand
      cases hhand
      refine ⟨[], [], by simpa using InHand.receiving, ?_, hreceived⟩
      simpa using haccepted
    · refine ⟨xs, ys, by simpa [hij] using hhand, ?_, hreceived⟩
      simpa [hij] using haccepted
  always := by
    rw [seen]
    exact h.always
  handed := by rw [seen, h.handed, delivered]

lemma Ordered.hand {n : Nat} (h : w.Ordered)
    (seen : t.sightings = w.sightings ++ w.pending.take n)
    (origins : t.origins = w.origins.drop n)
    (queue : t.consumer.queue = w.consumer.queue.drop n)
    (delivered : t.consumer.delivered = w.consumer.delivered ++ w.consumer.queue.take n)
    (phases : ∀ j, t.consumer.phaseOf j = w.consumer.phaseOf j) : t.Ordered where
  origins := by simp [origins, queue, h.origins]
  held i := by
    obtain ⟨xs, ys, hhand, haccepted, hreceived⟩ := h.held i
    have hpending : t.pending = w.pending.drop n := by
      rw [pending, origins, queue, pending, handing, handing, List.drop_zipWith]
    have hnew {milestone : Milestone} (hne : milestone ≠ .handed) :
        reached milestone i (w.pending.take n) = [] := by
      rw [pending, ← handing_take]
      exact reached_handing _ _ hne
    have hall : reached .handed i (w.pending.take n) ++ reached .handed i (w.pending.drop n) =
        reached .handed i w.pending := by
      rw [← reached_append, List.take_append_drop]
    rw [phases, seen, hpending]
    simp only [reached_append]
    refine ⟨xs, ys, hhand, ?_, ?_⟩
    · rw [hnew (by decide), List.append_nil, List.append_assoc (reached .handed i w.sightings),
        hall]
      exact haccepted
    · rw [hnew (by decide), hnew (by decide), List.append_nil, List.append_nil]
      exact hreceived
  always := by
    rw [seen]
    refine h.always_append fun first hfirst i => ?_
    obtain ⟨xs, ys, -, haccepted, hreceived⟩ := h.held i
    have hpending : first <+: w.pending := hfirst.trans (List.take_prefix _ _)
    have hnew {milestone : Milestone} (hne : milestone ≠ .handed) :
        reached milestone i (w.sightings ++ first) = reached milestone i w.sightings := by
      have hnone : reached milestone i w.pending = [] := reached_handing _ _ hne
      have hfirst : reached milestone i first = [] :=
        List.prefix_nil.1 (hnone ▸ hpending.filterMap _)
      rw [reached_append, hfirst, List.append_nil]
    have haccepted' := @hnew .accepted (by decide)
    have hreceived' := @hnew .received (by decide)
    rw [haccepted', hreceived', reached_append]
    refine ⟨?_, (h.now i).2⟩
    rw [haccepted, List.append_assoc, List.prefix_append_right_inj]
    exact (hpending.filterMap _).trans (List.prefix_append _ _)
  handed := by
    have hlength : (w.consumer.queue.take n).length ≤ w.origins.length := by
      rw [h.origins]
      exact List.length_take_le' ..
    rw [seen, handedMessages_append, pending, ← handing_take, handedMessages_handing hlength,
      h.handed, delivered]

theorem Ordered.move (h : w.Ordered) (move : w.Move t) : t.Ordered := by
  cases move with
  | still seen silent origins queue delivered phases =>
    exact h.still seen silent origins queue delivered phases
  | receive seen origins queue delivered phase phases =>
    exact h.receive seen origins queue delivered phase phases
  | accept seen origins queue delivered phase phases =>
    exact h.accept seen origins queue delivered phase phases
  | enqueue seen origins queue delivered phase phases =>
    exact h.enqueue seen origins queue delivered phase phases
  | hand seen origins queue delivered phases =>
    exact h.hand seen origins queue delivered phases

/-- What every event keeps holds after a run if it held before. -/
theorem run_induction {P : Watch → Prop} (hstep : ∀ w event, P w → P (w.step event))
    (events : List ConsumerEvent) (h : P w) : P (w.run events) := by
  induction events generalizing w with
  | nil => exact h
  | cons event events ih => exact ih (hstep w event h)

lemma run_consumption (events : List ConsumerEvent) (w : Watch) :
    (w.run events).consumption = w.consumption.run events := by
  induction events generalizing w with
  | nil => rfl
  | cons event events ih => exact ih (w.step event)

/-! ### Opening the receivers -/

/-- The receivers that were opened, the first one first; the worker of a number has the receiver at
its place. -/
def openedReceivers (sightings : List Sighting) : List LinkOptions :=
  sightings.filterMap fun
    | .opened options => some options
    | _ => none

lemma openedReceivers_append (sightings more : List Sighting) :
    openedReceivers (sightings ++ more) = openedReceivers sightings ++ openedReceivers more :=
  List.filterMap_append

end Watch

namespace Consumption

lemma Move.filter_frame {s t : Consumption} (h : s.Move t) :
    t.consumer.group = s.consumer.group ∧ t.consumer.since = s.consumer.since := by
  cases h with
  | idle => exact ⟨rfl, rfl⟩
  | worker move =>
    rw [note_consumer]
    cases move <;> exact ⟨rfl, rfl⟩
  | own move =>
    rw [note_consumer]
    cases move with
    | @ask x deeds x' phase move =>
      obtain ⟨-, h⟩ | ⟨e, -, h⟩ | ⟨-, h⟩ | ⟨ids, -, -, h⟩ := s.consumer.discovered_cases x' <;>
        rw [h] <;> exact ⟨rfl, rfl⟩
    | _ => exact ⟨rfl, rfl⟩
  | fire token => simp
  | drop =>
    rw [note_consumer]
    unfold Consumer.drop
    split <;> exact ⟨rfl, rfl⟩

/-- A worker begins when its receiver is opened, which is that of a partition. -/
lemma Move.openings {s t : Consumption} (h : s.Move t) :
    (s.consumer.openings t.consumer = [] ∧
      t.consumer.workers.length = s.consumer.workers.length) ∨
    ∃ id, s.consumer.openings t.consumer =
        [.opened (partitionLink s.consumer.name s.consumer.group id s.consumer.since)] ∧
      t.consumer.workers.length = s.consumer.workers.length + 1 := by
  have hsame (h : t.consumer.workers.length = s.consumer.workers.length) :=
    s.consumer.openings_of_length h
  cases h with
  | idle => exact .inl ⟨hsame rfl, rfl⟩
  | worker move =>
    rw [note_consumer] at hsame ⊢
    exact .inl ⟨hsame move.frame.2.2.2.2.2, move.frame.2.2.2.2.2⟩
  | own move =>
    rw [note_consumer] at hsame ⊢
    cases move with
    | @ask x deeds x' phase move =>
      have hworkers : (s.consumer.discovered x').workers = s.consumer.workers := by
        obtain ⟨-, h⟩ | ⟨e, -, h⟩ | ⟨-, h⟩ | ⟨ids, -, -, h⟩ := s.consumer.discovered_cases x' <;>
          rw [h]
      exact .inl ⟨hsame (congrArg List.length hworkers), congrArg List.length hworkers⟩
    | @join id rest link phase =>
      refine .inr ⟨id, ?_, by simp⟩
      simp [Consumer.openings, Consumer.request?, phase]
    | _ => exact .inl ⟨hsame rfl, rfl⟩
  | fire token =>
    rw [note_consumer] at hsame ⊢
    exact .inl ⟨hsame rfl, rfl⟩
  | drop =>
    rw [note_consumer] at hsame ⊢
    have hlength : s.consumer.drop.workers.length = s.consumer.workers.length := by
      unfold Consumer.drop
      split <;> simp
    exact .inl ⟨hsame hlength, hlength⟩

end Consumption

namespace Watch

variable {w t : Watch}

def Messages (sightings : List Sighting) : Prop :=
  ∀ sighting ∈ sightings, ∃ k i m, sighting = .message k i m

lemma handing_messages (origins : List Nat) (messages : List Message) :
    Messages (handing origins messages) := by
  intro sighting hmem
  obtain ⟨i, hi, rfl⟩ := List.mem_iff_getElem.1 hmem
  simp [handing]

lemma progress_messages (c : Consumer) (event : ConsumerEvent) : Messages (c.progress event) := by
  cases event with
  | answerWorker i outcome =>
    cases h : c.workers[i]? with
    | none => simp [Messages, Consumer.progress, h]
    | some worker =>
      simp only [Messages, Consumer.progress, h, Option.elim_some, Worker.sightings]
      split <;> simp
  | _ => simp [Messages, Consumer.progress]

/-- An event opens a receiver, or not; then messages come further; then the call returns, or not. -/
lemma step_sightings (w : Watch) (event : ConsumerEvent) :
    ∃ messages, Messages messages ∧ (w.step event).sightings = w.sightings ++
      (w.consumer.openings (w.step event).consumer ++ messages ++
        w.consumer.returns (w.step event).consumer) := by
  refine ⟨w.consumer.progress event ++ handing (w.origins ++ w.consumer.queuers event)
    ((w.step event).consumer.delivered.drop w.consumer.delivered.length), ?_, ?_⟩
  · intro sighting hmem
    exact (List.mem_append.1 hmem).elim (progress_messages _ _ _) (handing_messages _ _ _)
  · simp [step, List.append_assoc]

lemma Messages.openedReceivers {sightings : List Sighting} (h : Messages sightings) :
    openedReceivers sightings = [] := by
  refine List.filterMap_eq_nil_iff.2 fun sighting hmem => ?_
  obtain ⟨k, i, m, rfl⟩ := h sighting hmem
  rfl

lemma openedReceivers_returns (c c' : Consumer) : openedReceivers (c.returns c') = [] := by
  unfold Consumer.returns
  split <;> rfl

structure Filtered (name group : String) (since : Instant) (w : Watch) : Prop where
  sameName : w.consumer.name = name
  sameGroup : w.consumer.group = group
  sameSince : w.consumer.since = since
  opened : ∃ ids : List String,
    openedReceivers w.sightings = ids.map (partitionLink name group · since) ∧
    ids.length = w.consumer.workers.length

lemma Filtered.step {name group : String} {since : Instant} (h : w.Filtered name group since)
    (event : ConsumerEvent) : (w.step event).Filtered name group since := by
  have hmove := w.consumption.step_move event
  refine ⟨hmove.frame.1.trans h.sameName, hmove.filter_frame.1.trans h.sameGroup,
    hmove.filter_frame.2.trans h.sameSince, ?_⟩
  obtain ⟨ids, hids, hlength⟩ := h.opened
  obtain ⟨messages, hmessages, hseen⟩ := w.step_sightings event
  have hnew : openedReceivers (w.step event).sightings = openedReceivers w.sightings ++
      openedReceivers (w.consumer.openings (w.step event).consumer) := by
    rw [hseen]
    simp only [openedReceivers_append, hmessages.openedReceivers, openedReceivers_returns,
      List.append_nil]
  obtain ⟨hopened, hworkers⟩ | ⟨id, hopened, hworkers⟩ := hmove.openings
  · refine ⟨ids, ?_, hlength.trans hworkers.symm⟩
    rw [hnew, hids]
    exact (congrArg (_ ++ openedReceivers ·) hopened).trans (List.append_nil _)
  · refine ⟨ids ++ [id], ?_, ?_⟩
    · rw [h.sameName, h.sameGroup, h.sameSince] at hopened
      rw [hnew, hids, List.map_append]
      exact congrArg (_ ++ openedReceivers ·) hopened
    · rw [List.length_append, hlength]
      exact hworkers.symm

/-! ### The return -/

/-- The return is seen when it comes, and nothing afterwards. -/
structure Closing (w : Watch) : Prop where
  sound : w.consumption.Sound
  returned : .returned ∈ w.sightings ↔ w.consumer.outcome?.isSome
  last : ∀ before after, w.sightings = before ++ .returned :: after → after = []

lemma start_closing (name group replyTo messageId : String) (since : Instant) (token : Token) :
    (start name group replyTo messageId since token).Closing where
  sound := Consumption.run_sound name group replyTo messageId since token []
  returned := by simp [start, Consumption.start, Consumer.start, consumer, Consumer.outcome?]
  last before after h := by simp [start] at h

lemma step_of_returned {e : HubError} (phase : w.consumer.phase = .returned e)
    (joined : ∀ worker ∈ w.consumer.workers, worker.phase = .finished) (event : ConsumerEvent) :
    (w.step event).consumer = w.consumer ∧ (w.step event).sightings = w.sightings := by
  have hsame : (w.consumption.step event).consumer = w.consumer := by
    have hmove := w.consumption.step_move event
    generalize w.consumption.step event = next at hmove ⊢
    cases hmove with
    | idle => rfl
    | worker move =>
      obtain ⟨worker, hmem, hbusy⟩ := move.exists_unfinished
      exact absurd (joined worker hmem) hbusy
    | own move => exact absurd phase (move.not_over.1 e)
    | fire token => exact Consumption.note_consumer _ _ _
    | drop =>
      rw [Consumption.note_consumer]
      obtain ⟨-, -, hdrop⟩ | hdrop := w.consumer.drop_cases
      · exact hdrop
      · simp [Consumer.drop, phase] at hdrop
  have hprogress : w.consumer.progress event = [] := by
    cases event with
    | answerWorker i outcome =>
      cases h : w.consumer.workers[i]? with
      | none => simp [Consumer.progress, h]
      | some worker =>
        simp [Consumer.progress, h, Worker.sightings, joined worker (List.mem_of_getElem? h)]
    | _ => rfl
  obtain ⟨hseen, -⟩ := step_of_frame (congrArg Consumer.delivered hsame)
    (congrArg (List.length ∘ Consumer.workers) hsame) (congrArg Consumer.phase hsame)
  exact ⟨hsame, by rw [hseen, hprogress, List.append_nil]⟩

/-- What is seen last is all of it, after what came before. -/
lemma returned_last {seen before after : List Sighting} (hseen : .returned ∉ seen)
    (h : seen ++ [.returned] = before ++ .returned :: after) : after = [] := by
  obtain ⟨more, rfl, hmore⟩ | ⟨more, rfl, hmore⟩ := List.append_eq_append_iff.1 h
  · cases more with
    | nil => exact (List.cons.inj hmore).2.symm
    | cons a more => simp at hmore
  · cases more with
    | nil => exact (List.cons.inj hmore).2
    | cons a more =>
      obtain ⟨rfl, -⟩ := List.cons.inj hmore
      exact absurd (by simp) hseen

lemma Closing.step (h : w.Closing) (event : ConsumerEvent) : (w.step event).Closing := by
  have hsound := h.sound.move (w.consumption.step_move event)
  cases houtcome : w.consumer.outcome? with
  | some e =>
    have hreply : (Activity.consuming w.consumer).outcome? = some (.error (.error e)) := by
      simp [Activity.outcome?, houtcome]
    obtain ⟨e, -, phase, -, joined⟩ := h.sound.of_outcome? hreply
    obtain ⟨hconsumer, hseen⟩ := step_of_returned phase joined event
    exact ⟨hsound, by rw [hconsumer, hseen, h.returned], by rw [hseen]; exact h.last⟩
  | none =>
    have hbefore : .returned ∉ w.sightings := by simp [h.returned, houtcome]
    obtain ⟨messages, hmessages, hseen⟩ := w.step_sightings event
    have hmessages : .returned ∉ messages := fun hmem => by
      obtain ⟨k, i, m, h⟩ := hmessages _ hmem
      cases h
    have hopenings : .returned ∉ w.consumer.openings (w.step event).consumer := by
      unfold Consumer.openings
      split <;> [split; skip] <;> simp
    have hreturns : w.consumer.returns (w.step event).consumer =
        if (w.step event).consumer.outcome?.isSome then [.returned] else [] := by
      simp [Consumer.returns, houtcome]
    rw [hreturns, ← List.append_assoc] at hseen
    have hnew : .returned ∉
        w.sightings ++ (w.consumer.openings (w.step event).consumer ++ messages) := by
      simp [hbefore, hopenings, hmessages]
    refine ⟨hsound, ?_, fun before after hsplit => ?_⟩
    · rw [hseen, List.mem_append, or_iff_right hnew]
      split <;> simp_all
    · rw [hseen] at hsplit
      split at hsplit
      · exact returned_last hnew hsplit
      · rw [List.append_nil] at hsplit
        exact absurd (by simp [hsplit]) hnew

/-- In every run the messages of each receiver are handed to the callback in the order in which they
were received, each only once: at every moment those handed over are a beginning of those accepted,
which are a beginning of those received, and a message is accepted before it is handed over.  The
receivers give only messages since the call.  Nothing is handed over after the return. -/
theorem handed_in_order (name group replyTo messageId : String) (since : Instant) (token : Token)
    (events : List ConsumerEvent) :
    let w := (start name group replyTo messageId since token).run events
    w.consumption = (Consumption.start name group replyTo messageId since token).run events ∧
      handedMessages w.sightings = w.consumer.delivered ∧
      (∃ ids : List String,
        openedReceivers w.sightings = ids.map (partitionLink name group · since) ∧
        ids.length = w.consumer.workers.length) ∧
      (∀ before after, w.sightings = before ++ after → ∀ i,
        reached .handed i before <+: reached .accepted i before ∧
        reached .accepted i before <+: reached .received i before) ∧
      (∀ before i m after, w.sightings = before ++ .message .handed i m :: after →
        reached .handed i before ++ [m] <+: reached .accepted i before) ∧
      (.returned ∈ w.sightings ↔ w.consumer.outcome?.isSome) ∧
      ∀ before after, w.sightings = before ++ .returned :: after → after = [] := by
  have hordered := run_induction (fun w event (h : w.Ordered) => h.move (w.step_move event)) events
    (start_ordered name group replyTo messageId since token)
  have hfiltered := run_induction (fun w event h => h.step event) events
    (⟨rfl, rfl, rfl, [], rfl, rfl⟩ :
      (start name group replyTo messageId since token).Filtered name group since)
  have hclosing := run_induction (fun w event (h : w.Closing) => h.step event) events
    (start_closing name group replyTo messageId since token)
  refine ⟨run_consumption events _, hordered.handed, hfiltered.opened, ?_, ?_, hclosing.returned,
    hclosing.last⟩
  · exact fun before after h => hordered.always before ⟨after, h.symm⟩
  · intro before i m after h
    have hprefix := (hordered.always (before ++ [.message .handed i m])
      ⟨after, by simp [h]⟩ i).1
    simpa [reached_message] using hprefix

end Watch
end DeviceHub.EventHub
