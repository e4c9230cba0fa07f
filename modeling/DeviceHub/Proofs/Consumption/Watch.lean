import DeviceHub.Proofs.Consumption.Ending

/-!
A watch on `subscribe_partitions`.  It keeps in mind whose message stands at each place of the
queue, and puts down, in the order of time, when a receiver is opened, when a message is received,
accepted and handed to the callback, and when the call returns.  `step_move` tells what an event
comes to for the messages.
-/
namespace DeviceHub.EventHub

inductive Milestone where
  | received
  | accepted
  | handed
  deriving DecidableEq

/-- What is seen of a consumer; receivers and their messages go by the number of their worker. -/
inductive Sighting where
  | opened (options : LinkOptions)
  | message (milestone : Milestone) (worker : Nat) (m : Message)
  | returned

def Sighting.message? (milestone : Milestone) (worker : Nat) : Sighting → Option Message
  | .message k i m => if k = milestone ∧ i = worker then some m else none
  | _ => none

/-- The messages of a worker that have come so far, the first one first. -/
def reached (milestone : Milestone) (worker : Nat) (sightings : List Sighting) : List Message :=
  sightings.filterMap (Sighting.message? milestone worker)

def handedMessages (sightings : List Sighting) : List Message :=
  sightings.filterMap fun
    | .message .handed _ m => some m
    | _ => none

/-- What the answer of the broker to a worker shows. -/
def Worker.sightings (i : Nat) (w : Worker) (outcome : HubResult PeerAnswer) : List Sighting :=
  match w.phase, outcome with
  | .receiving, .ok (.received m) => [.message .received i m]
  | .accepting m, .ok .done => [.message .accepted i m]
  | _, _ => []

namespace Consumer

def progress (c : Consumer) : ConsumerEvent → List Sighting
  | .answerWorker i outcome => c.workers[i]?.elim [] fun w => w.sightings i outcome
  | _ => []

/-- The worker that gets its message into the queue. -/
def queuers (c : Consumer) : ConsumerEvent → List Nat
  | .deliver i => if (c.deliver? i).isSome then [i] else []
  | _ => []

/-- The receiver that is opened on the way from one consumer to the next. -/
def openings (c c' : Consumer) : List Sighting :=
  match c.request? with
  | some (.openReceiver options) =>
    if c.workers.length < c'.workers.length then [.opened options] else []
  | _ => []

def returns (c c' : Consumer) : List Sighting :=
  if c.outcome?.isNone && c'.outcome?.isSome then [.returned] else []

def phaseOf (c : Consumer) (i : Nat) : Option WorkerPhase :=
  c.workers[i]?.map Worker.phase

end Consumer

/-- A consumption that is watched. -/
structure Watch where
  consumption : Consumption
  /-- Whose message stands at each place of the queue. -/
  origins : List Nat := []
  sightings : List Sighting := []

namespace Watch

abbrev consumer (w : Watch) : Consumer := w.consumption.consumer

def handing (origins : List Nat) (messages : List Message) : List Sighting :=
  List.zipWith (Sighting.message .handed) origins messages

def start (name group replyTo messageId : String) (since : Instant) (token : Token) : Watch :=
  { consumption := .start name group replyTo messageId since token }

/-- One event, and what it shows.  The messages that are handed over leave the queue from its
front. -/
def step (w : Watch) (event : ConsumerEvent) : Watch :=
  let next := w.consumption.step event
  let origins := w.origins ++ w.consumer.queuers event
  let messages := next.consumer.delivered.drop w.consumer.delivered.length
  { consumption := next
    origins := origins.drop messages.length
    sightings := w.sightings ++ w.consumer.openings next.consumer ++ w.consumer.progress event ++
      handing origins messages ++ w.consumer.returns next.consumer }

def run (events : List ConsumerEvent) (w : Watch) : Watch :=
  events.foldl step w

end Watch

/-! ### What is reached -/

section Reached

variable {milestone : Milestone} {i : Nat} {sightings more : List Sighting}

@[simp] lemma reached_append :
    reached milestone i (sightings ++ more) =
      reached milestone i sightings ++ reached milestone i more :=
  List.filterMap_append

lemma reached_message (k : Milestone) (worker : Nat) (m : Message) :
    reached milestone i [.message k worker m] = if k = milestone ∧ worker = i then [m] else [] := by
  unfold reached
  by_cases h : k = milestone ∧ worker = i <;> simp [Sighting.message?, h]

lemma mem_reached {m : Message} :
    m ∈ reached milestone i sightings ↔ .message milestone i m ∈ sightings := by
  constructor
  · intro h
    obtain ⟨sighting, hmem, hsame⟩ := List.mem_filterMap.1 h
    cases sighting with
    | message k worker n =>
      simp only [Sighting.message?, Option.ite_none_right_eq_some, Option.some.injEq] at hsame
      obtain ⟨⟨rfl, rfl⟩, rfl⟩ := hsame
      exact hmem
    | opened options => cases hsame
    | returned => cases hsame
  · exact fun h => List.mem_filterMap.2 ⟨_, h, by simp [Sighting.message?]⟩

lemma mem_handedMessages {m : Message} (h : m ∈ handedMessages sightings) :
    ∃ i, .message .handed i m ∈ sightings := by
  obtain ⟨sighting, hmem, hsame⟩ := List.mem_filterMap.1 h
  split at hsame
  next i n =>
    cases hsame
    exact ⟨i, hmem⟩
  next => cases hsame

@[simp] lemma handedMessages_append :
    handedMessages (sightings ++ more) = handedMessages sightings ++ handedMessages more :=
  List.filterMap_append

/-- Handing messages over makes none come further otherwise. -/
lemma reached_handing (origins : List Nat) (messages : List Message)
    (h : milestone ≠ .handed) : reached milestone i (Watch.handing origins messages) = [] := by
  induction origins generalizing messages with
  | nil => rfl
  | cons origin origins ih =>
    cases messages with
    | nil => rfl
    | cons m messages =>
      simpa [Watch.handing, reached, Sighting.message?, List.filterMap_cons, h.symm]
        using ih messages

lemma handedMessages_handing {origins : List Nat} {messages : List Message}
    (h : messages.length ≤ origins.length) :
    handedMessages (Watch.handing origins messages) = messages := by
  induction messages generalizing origins with
  | nil => simp [Watch.handing, handedMessages]
  | cons m messages ih =>
    cases origins with
    | nil => simp at h
    | cons origin origins =>
      simpa [Watch.handing, handedMessages, List.filterMap_cons] using ih (Nat.le_of_succ_le_succ h)

def Silent (sightings : List Sighting) : Prop :=
  ∀ k worker m, .message k worker m ∉ sightings

lemma Silent.append (h : Silent sightings) (h' : Silent more) : Silent (sightings ++ more) := by
  intro k worker m hmem
  exact (List.mem_append.1 hmem).elim (h k worker m) (h' k worker m)

lemma Silent.reached (h : Silent sightings) : reached milestone i sightings = [] := by
  refine List.filterMap_eq_nil_iff.2 fun sighting hmem => ?_
  cases sighting with
  | message k worker m => exact absurd hmem (h k worker m)
  | opened options => rfl
  | returned => rfl

lemma Silent.handedMessages (h : Silent sightings) : handedMessages sightings = [] := by
  refine List.filterMap_eq_nil_iff.2 fun sighting hmem => ?_
  cases sighting with
  | message k worker m => exact absurd hmem (h k worker m)
  | opened options => rfl
  | returned => rfl

end Reached

/-! ### What an event shows -/

namespace Consumer

variable {c c' : Consumer} {fired : List Token} {i : Nat}

lemma openings_silent (c c' : Consumer) : Silent (c.openings c') := by
  unfold openings
  split
  · split <;> simp [Silent]
  · simp [Silent]

lemma returns_silent (c c' : Consumer) : Silent (c.returns c') := by
  unfold returns
  split <;> simp [Silent]

lemma openings_of_length (h : c'.workers.length = c.workers.length) : c.openings c' = [] := by
  unfold openings
  split
  · exact if_neg (by omega)
  · rfl

lemma returns_of_phase (h : c'.phase = c.phase) : c.returns c' = [] := by
  unfold returns outcome?
  rw [h]
  split <;> simp_all

lemma phaseOf_of_getElem? {c : Consumer} {i : Nat} {worker : Worker}
    (h : c.workers[i]? = some worker) : c.phaseOf i = some worker.phase := by
  rw [phaseOf, h]
  rfl

lemma phaseOf_setWorker {phase : WorkerPhase} (c : Consumer) (i j : Nat) :
    (c.setWorker i phase).phaseOf j =
      if i = j then (c.phaseOf j).map fun _ => phase else c.phaseOf j := by
  unfold phaseOf setWorker
  by_cases h : i = j
  · simp [h, Function.comp_def]
  · simp [h]

lemma setWorker_length (i : Nat) (phase : WorkerPhase) (c : Consumer) :
    (c.setWorker i phase).workers.length = c.workers.length :=
  List.length_modify ..

end Consumer

namespace Consumption

lemma step_consumer (s : Consumption) (event : ConsumerEvent) :
    (s.step event).consumer = ((s.next? event).map Prod.fst).getD s.consumer := by
  unfold step
  cases event <;> split <;> simp_all

end Consumption

namespace Watch

/-- The messages in the queue, as they would be handed over now. -/
def pending (w : Watch) : List Sighting :=
  handing w.origins w.consumer.queue

/-- What a worker in some phase holds: messages it has accepted and not queued, and messages it has
received and not accepted.  One that stops may leave any. -/
inductive InHand : Option WorkerPhase → List Message → List Message → Prop
  | absent : InHand none [] []
  | receiving : InHand (some .receiving) [] []
  | accepting (m : Message) : InHand (some (.accepting m)) [] [m]
  | delivering (m : Message) : InHand (some (.delivering m)) [m] []
  | closing (accepted received : List Message) : InHand (some .closing) accepted received
  | finished (accepted received : List Message) : InHand (some .finished) accepted received

/-- What an event comes to for the messages. -/
inductive Move (w t : Watch) : Prop
  | still {news} (seen : t.sightings = w.sightings ++ news) (silent : Silent news)
      (origins : t.origins = w.origins) (queue : t.consumer.queue = w.consumer.queue)
      (delivered : t.consumer.delivered = w.consumer.delivered)
      (phases : ∀ i xs ys, InHand (w.consumer.phaseOf i) xs ys →
        InHand (t.consumer.phaseOf i) xs ys)
  | receive {i m} (seen : t.sightings = w.sightings ++ [.message .received i m])
      (origins : t.origins = w.origins) (queue : t.consumer.queue = w.consumer.queue)
      (delivered : t.consumer.delivered = w.consumer.delivered)
      (phase : w.consumer.phaseOf i = some .receiving)
      (phases : ∀ j, t.consumer.phaseOf j =
        if i = j then some (.accepting m) else w.consumer.phaseOf j)
  | accept {i m} (seen : t.sightings = w.sightings ++ [.message .accepted i m])
      (origins : t.origins = w.origins) (queue : t.consumer.queue = w.consumer.queue)
      (delivered : t.consumer.delivered = w.consumer.delivered)
      (phase : w.consumer.phaseOf i = some (.accepting m))
      (phases : ∀ j, t.consumer.phaseOf j =
        if i = j then some (.delivering m) else w.consumer.phaseOf j)
  | enqueue {i m} (seen : t.sightings = w.sightings) (origins : t.origins = w.origins ++ [i])
      (queue : t.consumer.queue = w.consumer.queue ++ [m])
      (delivered : t.consumer.delivered = w.consumer.delivered)
      (phase : w.consumer.phaseOf i = some (.delivering m))
      (phases : ∀ j, t.consumer.phaseOf j =
        if i = j then some .receiving else w.consumer.phaseOf j)
  | hand {n} (seen : t.sightings = w.sightings ++ w.pending.take n)
      (origins : t.origins = w.origins.drop n)
      (queue : t.consumer.queue = w.consumer.queue.drop n)
      (delivered : t.consumer.delivered = w.consumer.delivered ++ w.consumer.queue.take n)
      (phases : ∀ j, t.consumer.phaseOf j = w.consumer.phaseOf j)

variable {w : Watch}

lemma handing_nil (origins : List Nat) : handing origins [] = [] := by
  cases origins <;> rfl

/-- Handing over the front of the queue is the front of handing it over. -/
lemma handing_take (origins : List Nat) (messages : List Message) (n : Nat) :
    handing origins (messages.take n) = (handing origins messages).take n := by
  induction messages generalizing origins n with
  | nil => simp [handing_nil]
  | cons m messages ih =>
    cases n with
    | zero => simp [handing_nil]
    | succ n =>
      cases origins with
      | nil => rfl
      | cons origin origins => exact congrArg _ (ih origins n)

/-- The first worker that begins is one more that holds nothing. -/
lemma inHand_of_join {c : Consumer} {link i : Nat} {phase : ConsumerPhase} {xs ys : List Message}
    (h : InHand (c.phaseOf i) xs ys) :
    InHand (({ c with workers := c.workers ++ [{ link }], phase } : Consumer).phaseOf i) xs ys := by
  unfold Consumer.phaseOf at h ⊢
  obtain hlt | heq | hgt := Nat.lt_trichotomy i c.workers.length
  · simpa [List.getElem?_append_left hlt] using h
  · subst heq
    simp only [List.getElem?_length, Option.map_none] at h
    cases h
    simpa using InHand.receiving
  · have hnone : (c.workers ++ [({ link } : Worker)])[i]? = none :=
      List.getElem?_eq_none (by simpa using Nat.succ_le_of_lt hgt)
    rw [List.getElem?_eq_none (Nat.le_of_lt hgt)] at h
    simpa [hnone] using h

/-- An event at which no message comes further. -/
lemma move_of_still {event : ConsumerEvent} (progress : w.consumer.progress event = [])
    (queuers : w.consumer.queuers event = [])
    (queue : (w.consumption.step event).consumer.queue = w.consumer.queue)
    (delivered : (w.consumption.step event).consumer.delivered = w.consumer.delivered)
    (phases : ∀ i xs ys, InHand (w.consumer.phaseOf i) xs ys →
      InHand ((w.consumption.step event).consumer.phaseOf i) xs ys) : w.Move (w.step event) := by
  have hseen : (w.step event).sightings = w.sightings ++
      (w.consumer.openings (w.consumption.step event).consumer ++
        w.consumer.returns (w.consumption.step event).consumer) := by
    simp [step, progress, delivered, handing_nil]
  refine .still hseen ((w.consumer.openings_silent _).append (w.consumer.returns_silent _)) ?_ queue
    delivered phases
  simp [step, queuers, delivered]

lemma move_of_own {event : ConsumerEvent} {deeds : List Deed}
    (progress : w.consumer.progress event = []) (queuers : w.consumer.queuers event = [])
    (own : w.consumer.OwnMove w.consumption.fired deeds (w.consumption.step event).consumer) :
    w.Move (w.step event) := by
  have hstill := move_of_still progress queuers
  have hhand {n : Nat} (within : n ≤ w.consumer.queue.length)
      (workers : (w.consumption.step event).consumer.workers = w.consumer.workers)
      (outcome : (w.consumption.step event).consumer.outcome? = none)
      (queue : (w.consumption.step event).consumer.queue = w.consumer.queue.drop n)
      (delivered : (w.consumption.step event).consumer.delivered =
        w.consumer.delivered ++ w.consumer.queue.take n) : w.Move (w.step event) := by
    have hopened := w.consumer.openings_of_length (congrArg List.length workers)
    have hreturned : w.consumer.returns (w.consumption.step event).consumer = [] := by
      simp [Consumer.returns, outcome]
    refine .hand ?_ ?_ queue delivered fun j => ?_
    · simp [step, progress, queuers, delivered, hopened, hreturned, handing_take, pending]
    · simp [step, queuers, delivered, Nat.min_eq_left within]
    · change (w.consumption.step event).consumer.workers[j]?.map Worker.phase = _
      rw [workers]
      rfl
  generalize (w.consumption.step event).consumer = c' at own hstill hhand
  cases own with
  | @ask x deeds x' phase move =>
    have hsame : (w.consumer.discovered x').queue = w.consumer.queue ∧
        (w.consumer.discovered x').delivered = w.consumer.delivered ∧
        (w.consumer.discovered x').workers = w.consumer.workers := by
      obtain ⟨-, h⟩ | ⟨e, -, h⟩ | ⟨-, h⟩ | ⟨ids, -, -, h⟩ := w.consumer.discovered_cases x' <;>
        rw [h] <;> exact ⟨rfl, rfl, rfl⟩
    refine hstill hsame.1 hsame.2.1 fun i xs ys h => ?_
    rwa [Consumer.phaseOf, hsame.2.2]
  | @join id rest link phase =>
    exact hstill rfl rfl fun i xs ys => inHand_of_join
  | refuse phase | giveUp phase cancelled | notice phase quiet cancelled | finish phase joined =>
    exact hstill rfl rfl fun i xs ys h => h
  | @take e errors phase reported =>
    exact hhand (Nat.le_refl _) rfl rfl (by simp) (by simp)
  | @hand m queue phase next =>
    have hlength : 1 ≤ w.consumer.queue.length := by simp [next]
    exact hhand hlength rfl (by simp [Consumer.outcome?, phase]) (by simp [next]) (by simp [next])

/-- An event that opens no receiver, hands nothing over and is not the return. -/
lemma step_of_frame {event : ConsumerEvent}
    (delivered : (w.consumption.step event).consumer.delivered = w.consumer.delivered)
    (length : (w.consumption.step event).consumer.workers.length = w.consumer.workers.length)
    (phase : (w.consumption.step event).consumer.phase = w.consumer.phase) :
    (w.step event).sightings = w.sightings ++ w.consumer.progress event ∧
      (w.step event).origins = w.origins ++ w.consumer.queuers event := by
  have hopened := w.consumer.openings_of_length length
  have hreturned := w.consumer.returns_of_phase phase
  simp [step, delivered, hopened, hreturned, handing_nil]

lemma move_of_idle {event : ConsumerEvent} (progress : w.consumer.progress event = [])
    (queuers : w.consumer.queuers event = [])
    (idle : (w.consumption.step event).consumer = w.consumer) : w.Move (w.step event) :=
  move_of_still progress queuers (by rw [idle]) (by rw [idle]) fun i xs ys h => by rwa [idle]

lemma inHand_of_stops {c : Consumer} {i j : Nat} {phase : WorkerPhase}
    (stops : phase = .closing ∨ phase = .finished) {xs ys : List Message}
    (h : InHand (c.phaseOf j) xs ys) : InHand ((c.setWorker i phase).phaseOf j) xs ys := by
  rw [Consumer.phaseOf_setWorker]
  split
  · cases hphase : c.phaseOf j with
    | none =>
      rw [hphase] at h
      exact h
    | some old =>
      obtain rfl | rfl := stops
      · exact .closing xs ys
      · exact .finished xs ys
  · exact h

lemma move_deliver (w : Watch) (i : Nat) : w.Move (w.step (.deliver i)) := by
  cases h : w.consumer.deliver? i with
  | none =>
    refine move_of_idle rfl (by simp [Consumer.queuers, h]) ?_
    rw [Consumption.step_consumer]
    simp [Consumption.next?, h]
  | some c' =>
    have hstep : (w.consumption.step (.deliver i)).consumer = c' := by
      rw [Consumption.step_consumer]
      simp [Consumption.next?, h]
    obtain ⟨worker, hworker, hdeliver⟩ := Option.bind_eq_some_iff.1 h
    have hphaseOf := Consumer.phaseOf_of_getElem? hworker
    cases hphase : worker.phase with
    | delivering m =>
      simp only [hphase, Option.ite_none_right_eq_some, Option.some.injEq] at hdeliver
      obtain ⟨-, hc'⟩ := hdeliver
      rw [← hc'] at hstep
      obtain ⟨hseen, horigins⟩ := @step_of_frame w (.deliver i) (by rw [hstep]; rfl)
        (by rw [hstep, Consumer.setWorker_length]) (by rw [hstep]; rfl)
      refine .enqueue (i := i) (m := m) ?_ ?_ ?_ ?_ (by rw [hphaseOf, hphase]) fun j => ?_
      · rw [hseen]
        exact List.append_nil _
      · rw [horigins]
        simp [Consumer.queuers, h]
      · exact (congrArg Consumer.queue hstep).trans rfl
      · exact (congrArg Consumer.delivered hstep).trans rfl
      · refine (congrArg (Consumer.phaseOf · j) hstep).trans ?_
        rw [Consumer.phaseOf_setWorker]
        split
        next hij =>
          subst hij
          exact congrArg (Option.map fun _ => WorkerPhase.receiving) hphaseOf
        next => rfl
    | receiving => simp [hphase] at hdeliver
    | accepting m => simp [hphase] at hdeliver
    | closing => simp [hphase] at hdeliver
    | finished => simp [hphase] at hdeliver

/-- A worker goes into another phase, and the queue stays as it is. -/
lemma move_of_setWorker {event : ConsumerEvent} {i : Nat} {old new : WorkerPhase}
    {c : Consumer} (queuers : w.consumer.queuers event = [])
    (phase : w.consumer.phaseOf i = some old)
    (hstep : (w.consumption.step event).consumer = c.setWorker i new)
    (hc : c.workers = w.consumer.workers ∧ c.queue = w.consumer.queue ∧
      c.delivered = w.consumer.delivered ∧ c.phase = w.consumer.phase)
    (progress : (w.consumer.progress event = [] ∧ (new = .closing ∨ new = .finished)) ∨
      (∃ m, w.consumer.progress event = [.message .received i m] ∧ old = .receiving ∧
        new = .accepting m) ∨
      ∃ m, w.consumer.progress event = [.message .accepted i m] ∧ old = .accepting m ∧
        new = .delivering m) :
    w.Move (w.step event) := by
  obtain ⟨hworkers, hqueue, hdelivered, hphase⟩ := hc
  obtain ⟨hseen, horigins⟩ := @step_of_frame w event
    (by rw [hstep]; exact hdelivered)
    (by rw [hstep, Consumer.setWorker_length, hworkers]) (by rw [hstep]; exact hphase)
  rw [queuers, List.append_nil] at horigins
  have hqueue' : (w.step event).consumer.queue = w.consumer.queue :=
    (congrArg Consumer.queue hstep).trans hqueue
  have hdelivered' : (w.step event).consumer.delivered = w.consumer.delivered :=
    (congrArg Consumer.delivered hstep).trans hdelivered
  have hphaseOf (j : Nat) : c.phaseOf j = w.consumer.phaseOf j := by
    rw [Consumer.phaseOf, hworkers]
    rfl
  have hphases (j : Nat) : (w.step event).consumer.phaseOf j =
      if i = j then some new else w.consumer.phaseOf j := by
    refine (congrArg (Consumer.phaseOf · j) hstep).trans ?_
    rw [Consumer.phaseOf_setWorker, hphaseOf]
    split
    next hij => rw [← hij, phase, Option.map_some]
    next => rfl
  obtain ⟨hnone, hstops⟩ | ⟨m, hreceived, rfl, rfl⟩ | ⟨m, haccepted, rfl, rfl⟩ := progress
  · refine move_of_still hnone queuers hqueue' hdelivered' fun j xs ys h => ?_
    rw [hstep]
    exact inHand_of_stops hstops ((hphaseOf j).symm ▸ h)
  · exact .receive (by rw [hseen, hreceived]) horigins hqueue' hdelivered' phase hphases
  · exact .accept (by rw [hseen, haccepted]) horigins hqueue' hdelivered' phase hphases

lemma move_answerWorker (w : Watch) (i : Nat) (outcome : HubResult PeerAnswer) :
    w.Move (w.step (.answerWorker i outcome)) := by
  have hstep : (w.consumption.step (.answerWorker i outcome)).consumer =
      (w.consumer.answerWorker? w.consumption.fired i outcome).getD w.consumer := by
    rw [Consumption.step_consumer]
    cases h : w.consumer.answerWorker? w.consumption.fired i outcome <;>
      simp [Consumption.next?, h]
  cases hworker : w.consumer.workers[i]? with
  | none =>
    refine move_of_idle (by simp [Consumer.progress, hworker]) rfl ?_
    rw [hstep]
    simp [Consumer.answerWorker?, hworker]
  | some worker =>
    obtain ⟨link, phase⟩ := worker
    have hphaseOf := Consumer.phaseOf_of_getElem? hworker
    have hprogress : w.consumer.progress (.answerWorker i outcome) =
        Worker.sightings i ⟨link, phase⟩ outcome := by
      simp [Consumer.progress, hworker]
    rw [Consumer.answerWorker?, hworker, Option.bind_some] at hstep
    have hidle (hnone : Worker.sightings i ⟨link, phase⟩ outcome = [])
        (h : (w.consumption.step (.answerWorker i outcome)).consumer = w.consumer) :
        w.Move (w.step (.answerWorker i outcome)) :=
      move_of_idle (hprogress.trans hnone) rfl h
    have hfail (e : HubError) (hnone : Worker.sightings i ⟨link, phase⟩ outcome = [])
        (h : (w.consumption.step (.answerWorker i outcome)).consumer =
          w.consumer.fail w.consumption.fired i e) :
        w.Move (w.step (.answerWorker i outcome)) := by
      refine move_of_setWorker rfl hphaseOf h ?_ (.inl ⟨hprogress.trans hnone, .inl rfl⟩)
      unfold Consumer.report
      split
      · exact ⟨rfl, rfl, rfl, rfl⟩
      · split <;> exact ⟨rfl, rfl, rfl, rfl⟩
    cases phase with
    | receiving =>
      cases outcome with
      | error e => exact hfail e rfl hstep
      | ok answer =>
        cases answer with
        | received m =>
          exact move_of_setWorker rfl hphaseOf hstep ⟨rfl, rfl, rfl, rfl⟩
            (.inr (.inl ⟨m, hprogress, rfl, rfl⟩))
        | done => exact hidle rfl hstep
        | opened link => exact hidle rfl hstep
    | accepting m =>
      cases outcome with
      | error e => exact hfail e rfl hstep
      | ok answer =>
        cases answer with
        | done =>
          exact move_of_setWorker rfl hphaseOf hstep ⟨rfl, rfl, rfl, rfl⟩
            (.inr (.inr ⟨m, hprogress, rfl, rfl⟩))
        | received m => exact hidle rfl hstep
        | opened link => exact hidle rfl hstep
    | delivering m => exact hidle rfl hstep
    | closing =>
      exact move_of_setWorker rfl hphaseOf hstep ⟨rfl, rfl, rfl, rfl⟩
        (.inl ⟨hprogress, .inr rfl⟩)
    | finished => exact hidle rfl hstep

lemma move_stopWorker (w : Watch) (i : Nat) : w.Move (w.step (.stopWorker i)) := by
  have hstep : (w.consumption.step (.stopWorker i)).consumer =
      (w.consumer.stopWorker? w.consumption.fired i).getD w.consumer := by
    rw [Consumption.step_consumer]
    cases h : w.consumer.stopWorker? w.consumption.fired i <;> simp [Consumption.next?, h]
  cases hstop : w.consumer.stopWorker? w.consumption.fired i with
  | none => exact move_of_idle rfl rfl (by rw [hstep, hstop]; rfl)
  | some c' =>
    obtain ⟨worker, hworker, hc'⟩ := Option.bind_eq_some_iff.1 hstop
    have hphaseOf := Consumer.phaseOf_of_getElem? hworker
    have hset : c' = w.consumer.setWorker i .closing := by
      cases hphase : worker.phase <;> simp_all
    rw [hstop, Option.getD_some, hset] at hstep
    exact move_of_setWorker rfl hphaseOf hstep ⟨rfl, rfl, rfl, rfl⟩ (.inl ⟨rfl, .inl rfl⟩)

lemma move_drop (w : Watch) : w.Move (w.step .drop) := by
  have hstep : (w.consumption.step .drop).consumer = w.consumer.drop := by
    rw [Consumption.step_consumer]
    rfl
  have hsame : w.consumer.drop.queue = w.consumer.queue ∧
      w.consumer.drop.delivered = w.consumer.delivered := by
    unfold Consumer.drop
    split <;> exact ⟨rfl, rfl⟩
  refine move_of_still rfl rfl (by rw [hstep, hsame.1]) (by rw [hstep, hsame.2])
    fun i xs ys h => ?_
  rw [hstep]
  unfold Consumer.drop
  split
  · exact h
  · unfold Consumer.phaseOf at h ⊢
    rw [List.getElem?_map]
    cases hworker : w.consumer.workers[i]? with
    | none => simpa [hworker] using h
    | some worker => exact .finished xs ys

theorem step_move (w : Watch) (event : ConsumerEvent) : w.Move (w.step event) := by
  have hown {c' : Option Consumer} {deeds : List Deed}
      (progress : w.consumer.progress event = []) (queuers : w.consumer.queuers event = [])
      (hnext : w.consumption.next? event = c'.map (·, deeds))
      (own : ∀ c, c' = some c → w.consumer.OwnMove w.consumption.fired deeds c) :
      w.Move (w.step event) := by
    have hstep := w.consumption.step_consumer event
    rw [hnext] at hstep
    cases h : c' with
    | none => exact move_of_idle progress queuers (by simpa [h] using hstep)
    | some c =>
      rw [h] at hstep
      refine @move_of_own w event deeds progress queuers ?_
      rw [hstep]
      exact own c h
  cases event with
  | answer outcome => exact hown rfl rfl rfl fun c h => Consumer.answer?_move h
  | turn => exact hown rfl rfl rfl fun c h => Consumer.turn?_move h
  | cancel => exact hown rfl rfl rfl fun c h => Consumer.cancel?_move h
  | answerWorker i outcome => exact w.move_answerWorker i outcome
  | deliver i => exact w.move_deliver i
  | stopWorker i => exact w.move_stopWorker i
  | fire token =>
    refine move_of_idle rfl rfl ?_
    rw [Consumption.step_consumer]
    rfl
  | drop => exact w.move_drop

end Watch
end DeviceHub.EventHub
