import DeviceHub.Proofs.Broker
import DeviceHub.Proofs.Consumption.Order
import Mathlib.Data.List.Induction

/-!
`subscribe_partitions` and the broker that serves it.  Its receivers ask for the messages since the
call, so every message that is handed over has passed `accepts` of its `LinkFilter`, which compares
whole milliseconds.
-/
namespace DeviceHub

namespace LinkFilter

variable {since t : Instant}

lemma accepts_iff {enqueued : Option Instant} :
    (enqueuedSince since).accepts enqueued = true ↔
      ∃ t, enqueued = some t ∧ since.millis ≤ t.millis := by
  cases enqueued <;> simp [accepts]

end LinkFilter

namespace Instant

variable {since t : Instant}

lemma millis_eq_ediv (t : Instant) : t.millis = t.nanos / 1000000 :=
  Int.fdiv_eq_ediv_of_nonneg _ (by decide)

/-- What comes earlier without coming in an earlier millisecond comes in the same one. -/
lemma millis_eq_of_lt (hmillis : since.millis ≤ t.millis) (hlt : t.nanos < since.nanos) :
    t.millis = since.millis := by
  rw [millis_eq_ediv, millis_eq_ediv] at *
  omega

/-- At the beginning of a millisecond no rounding is to be feared. -/
lemma nanos_le_of_whole (hwhole : since.nanos % 1000000 = 0) (hmillis : since.millis ≤ t.millis) :
    since.nanos ≤ t.nanos := by
  rw [millis_eq_ediv, millis_eq_ediv] at hmillis
  omega

end Instant

namespace EventHub

namespace Consumer

variable {fired : List Token} {c c' : Consumer} {deeds : List Deed}

lemma WorkerMove.links (h : c.WorkerMove fired deeds c') :
    c'.workers.map Worker.link = c.workers.map Worker.link := by
  cases h with
  | receive split | accept split | fail split busy | enqueue split room | stop split stopped
  | discard split stopped | close split => simp [split]

/-- Workers come one by one, each with the receiver that was opened for it. -/
lemma OwnMove.links (h : c.OwnMove fired deeds c') :
    c'.workers.map Worker.link = c.workers.map Worker.link ∨
      ∃ id rest link, c.phase = .opening (id :: rest) ∧ deeds = [.opened link] ∧
        c'.workers.map Worker.link = c.workers.map Worker.link ++ [link] := by
  cases h with
  | @ask x deeds x' phase move =>
    obtain ⟨-, h⟩ | ⟨e, -, h⟩ | ⟨-, h⟩ | ⟨ids, -, -, h⟩ := c.discovered_cases x' <;>
      rw [h] <;> exact .inl rfl
  | @join id rest link phase => exact .inr ⟨id, rest, link, phase, rfl, by simp⟩
  | _ => exact .inl rfl

end Consumer

namespace Consumption

lemma step_workers (s : Consumption) (event : ConsumerEvent) :
    (s.step event).consumer.workers.map Worker.link = s.consumer.workers.map Worker.link ∨
      ∃ id rest link, s.consumer.phase = .opening (id :: rest) ∧
        event = .answer (.ok (.opened link)) ∧
        (s.step event).consumer.workers.map Worker.link =
          s.consumer.workers.map Worker.link ++ [link] := by
  rw [step_consumer]
  cases event with
  | answer outcome =>
    cases h : s.consumer.answer? outcome with
    | none => exact .inl (by simp [next?, h])
    | some c =>
      have hmove : s.consumer.OwnMove s.fired (s.consumer.answerDeeds outcome) c :=
        Consumer.answer?_move h
      obtain hlinks | ⟨id, rest, link, hphase, hdeeds, hlinks⟩ := hmove.links
      · exact .inl (by simpa [next?, h] using hlinks)
      · refine .inr ⟨id, rest, link, hphase, ?_, by simpa [next?, h] using hlinks⟩
        simp only [Consumer.answerDeeds, Consumer.request?, hphase, Option.elim_some] at hdeeds
        cases outcome with
        | error e => cases hdeeds
        | ok answer =>
          cases answer with
          | opened other =>
            cases hdeeds
            rfl
          | done => cases hdeeds
          | received m => cases hdeeds
  | answerWorker i outcome =>
    cases h : s.consumer.answerWorker? s.fired i outcome with
    | none => exact .inl (by simp [next?, h])
    | some c => exact .inl (by simpa [next?, h] using (Consumer.answerWorker?_move h).links)
  | turn =>
    cases h : s.consumer.turn? s.fired with
    | none => exact .inl (by simp [next?, h])
    | some c =>
      obtain hlinks | ⟨_, _, link, -, hdeeds, -⟩ := (Consumer.turn?_move h).links
      · exact .inl (by simpa [next?, h] using hlinks)
      · cases hdeeds
  | deliver i =>
    cases h : s.consumer.deliver? i with
    | none => exact .inl (by simp [next?, h])
    | some c =>
      have hmove : s.consumer.WorkerMove s.fired _ c := Consumer.deliver?_move h
      exact .inl (by simpa [next?, h] using hmove.links)
  | cancel =>
    cases h : s.consumer.cancel? s.fired with
    | none => exact .inl (by simp [next?, h])
    | some c =>
      obtain hlinks | ⟨_, _, link, hphase, hdeeds, -⟩ := (Consumer.cancel?_move h).links
      · exact .inl (by simpa [next?, h] using hlinks)
      · simp [Consumer.cancelDeeds, hphase] at hdeeds
  | stopWorker i =>
    cases h : s.consumer.stopWorker? s.fired i with
    | none => exact .inl (by simp [next?, h])
    | some c => exact .inl (by simpa [next?, h] using (Consumer.stopWorker?_move h).links)
  | fire token => exact .inl rfl
  | drop =>
    refine .inl ?_
    simp only [next?, Option.map_some, Option.getD_some]
    unfold Consumer.drop
    split
    · rfl
    · simp [Function.comp_def]

end Consumption

namespace Watch

variable {w : Watch}

/-- Messages are received only as the broker answers a worker that waits for one. -/
lemma received_step {i : Nat} {m : Message} (event : ConsumerEvent)
    (h : .message .received i m ∈ (w.step event).sightings) :
    .message .received i m ∈ w.sightings ∨
      event = .answerWorker i (.ok (.received m)) ∧
        ∃ link, w.consumer.workers[i]? = some ⟨link, .receiving⟩ := by
  simp only [step, List.mem_append] at h
  obtain (((hseen | hopened) | hprogress) | hhanded) | hreturned := h
  · exact .inl hseen
  · exact absurd hopened (Consumer.openings_silent _ _ _ _ _)
  · refine .inr ?_
    cases event with
    | answerWorker j outcome =>
      unfold Consumer.progress at hprogress
      cases hworker : w.consumer.workers[j]? with
      | none => simp [hworker] at hprogress
      | some worker =>
        obtain ⟨link, phase⟩ := worker
        simp only [hworker, Option.elim_some, Worker.sightings] at hprogress
        split at hprogress
        · simp only [List.mem_singleton, Sighting.message.injEq, true_and] at hprogress
          obtain ⟨rfl, rfl⟩ := hprogress
          exact ⟨rfl, link, by simpa using hworker⟩
        · simp at hprogress
        · simp at hprogress
    | _ => simp [Consumer.progress] at hprogress
  · obtain ⟨j, hj, hsighting⟩ := List.mem_iff_getElem.1 hhanded
    simp [handing] at hsighting
  · exact absurd hreturned (Consumer.returns_silent _ _ _ _ _)

lemma Ordered.received_of_delivered {m : Message} (h : w.Ordered)
    (hm : m ∈ w.consumer.delivered) : ∃ i, .message .received i m ∈ w.sightings := by
  rw [← h.handed] at hm
  obtain ⟨i, hhanded⟩ := mem_handedMessages hm
  obtain ⟨hhandedFirst, hacceptedFirst⟩ := h.now i
  have hreached := (hhandedFirst.trans hacceptedFirst).subset (mem_reached.2 hhanded)
  exact ⟨i, mem_reached.1 hreached⟩

end Watch
end EventHub

namespace Rehearsal

open EventHub

structure ServedConsumer where
  broker : Broker
  watch : Watch

inductive ServiceEvent where
  /-- The broker does what the consumer itself waits for, if it can. -/
  | serve
  | serveWorker (i : Nat)
  /-- What the broker has no part in. -/
  | goOn (event : ConsumerEvent)
  /-- An item comes in for an address; some receivers are still held. -/
  | feed (isHeld : Nat → Bool) (address : String) (item : HubResult Message)
  /-- The broker does what somebody else asks for. -/
  | ask (request : PeerRequest)
  /-- The broker is told to behave like another one from now on. -/
  | configure (settings : Broker)

namespace ServedConsumer

/-- The broker does what is waited for, if it can. -/
def serve (request? : Option PeerRequest) (answer : HubResult PeerAnswer → ConsumerEvent)
    (s : ServedConsumer) : ServedConsumer :=
  match request? with
  | none => s
  | some request =>
    match s.broker.perform request with
    | (broker, .now outcome) => { broker, watch := s.watch.step (answer outcome) }
    | (broker, _) => { s with broker }

def step (s : ServedConsumer) : ServiceEvent → ServedConsumer
  | .serve => s.serve s.watch.consumer.request? .answer
  | .serveWorker i =>
    s.serve (s.watch.consumer.workers[i]?.bind Worker.request?) (.answerWorker i)
  | .goOn (.answer _) | .goOn (.answerWorker _ _) => s
  | .goOn event => { s with watch := s.watch.step event }
  | .feed isHeld address item => { s with broker := (s.broker.feed isHeld address item).1 }
  | .ask request => { s with broker := (s.broker.perform request).1 }
  | .configure settings =>
    { s with broker := { settings with
      links := s.broker.links, replies := s.broker.replies, feeds := s.broker.feeds } }

def run (broker : Broker) (watch : Watch) (events : List ServiceEvent) : ServedConsumer :=
  events.foldl step { broker, watch }

@[simp] lemma run_append (broker : Broker) (watch : Watch) (events : List ServiceEvent)
    (event : ServiceEvent) :
    run broker watch (events ++ [event]) = (run broker watch events).step event :=
  List.foldl_append

/-- What holds of a consumer of messages since some moment, at every moment. -/
structure Since (since : Instant) (s : ServedConsumer) : Prop where
  sameSince : s.watch.consumer.since = since
  ordered : s.watch.Ordered
  filtered : ∀ link ∈ s.watch.consumer.workers.map Worker.link,
    ∃ l : BrokerLink, s.broker.links[link]? = some l ∧
      l.options.filter = some (.enqueuedSince since)
  passed : ∀ i m, .message .received i m ∈ s.watch.sightings →
    (LinkFilter.enqueuedSince since).accepts m.enqueued = true

variable {s : ServedConsumer} {since : Instant}

/-- The receivers keep their filters whatever else the broker does. -/
lemma Since.broker (h : s.Since since) {broker : Broker} (keeps : s.broker.Keeps broker) :
    ({ s with broker } : ServedConsumer).Since since where
  sameSince := h.sameSince
  ordered := h.ordered
  filtered link hlink := by
    obtain ⟨l, hl, hfilter⟩ := h.filtered link hlink
    obtain ⟨l', hl', hoptions⟩ := keeps link l hl
    exact ⟨l', hl', by rw [hoptions, hfilter]⟩
  passed := h.passed

lemma Since.watch (h : s.Since since) (event : ConsumerEvent)
    (opened : ∀ id rest link, s.watch.consumer.phase = .opening (id :: rest) →
      event = .answer (.ok (.opened link)) →
      ∃ l : BrokerLink, s.broker.links[link]? = some l ∧
        l.options.filter = some (.enqueuedSince since))
    (received : ∀ i link m, s.watch.consumer.workers[i]? = some ⟨link, .receiving⟩ →
      event = .answerWorker i (.ok (.received m)) →
      (LinkFilter.enqueuedSince since).accepts m.enqueued = true) :
    ({ s with watch := s.watch.step event } : ServedConsumer).Since since where
  sameSince := (s.watch.consumption.step_move event).filter_frame.2.trans h.sameSince
  ordered := h.ordered.move (s.watch.step_move event)
  filtered link hlink := by
    obtain hsame | ⟨id, rest, new, hphase, hevent, hnew⟩ := s.watch.consumption.step_workers event
    · exact h.filtered link (hsame ▸ hlink)
    · obtain hold | hlink := List.mem_append.1 (hnew ▸ hlink)
      · exact h.filtered link hold
      · rw [List.mem_singleton.1 hlink]
        exact opened id rest new hphase hevent
  passed i m hm := by
    obtain hseen | ⟨hevent, link, hworker⟩ := Watch.received_step event hm
    · exact h.passed i m hseen
    · exact received i link m hworker hevent

lemma Since.serve {request? : Option PeerRequest} {answer : HubResult PeerAnswer → ConsumerEvent}
    (h : s.Since since)
    (answered : ∀ request broker outcome, request? = some request →
      s.broker.perform request = (broker, .now outcome) →
      ({ broker, watch := s.watch.step (answer outcome) } : ServedConsumer).Since since) :
    (s.serve request? answer).Since since := by
  unfold ServedConsumer.serve
  split
  · exact h
  next request =>
    split
    next broker outcome hperform => exact answered request broker outcome rfl hperform
    next broker reaction _ hperform =>
      have hkeeps := s.broker.keeps_perform request
      rw [hperform] at hkeeps
      exact h.broker hkeeps

lemma Since.serveOwn (h : s.Since since) :
    (s.serve s.watch.consumer.request? .answer).Since since := by
  refine h.serve fun request broker outcome hrequest hperform => ?_
  have hkeeps := s.broker.keeps_perform request
  rw [hperform] at hkeeps
  refine (h.broker hkeeps).watch (.answer outcome) ?_ fun i link m _ hevent => nomatch hevent
  rintro id rest link hphase hevent
  obtain rfl := ConsumerEvent.answer.inj hevent
  have hasked : s.watch.consumer.request? = some (.openReceiver
      (partitionLink s.watch.consumer.name s.watch.consumer.group id s.watch.consumer.since)) := by
    simp [Consumer.request?, show s.watch.consumer.phase = .opening (id :: rest) from hphase]
  obtain rfl := Option.some.inj (hrequest.symm.trans hasked)
  obtain ⟨l, hl, hoptions⟩ := Broker.options_of_opened hperform
  exact ⟨l, hl, by rw [hoptions, partitionLink, h.sameSince]⟩

lemma Since.serveWorker (h : s.Since since) (i : Nat) :
    (s.serve (s.watch.consumer.workers[i]?.bind Worker.request?) (.answerWorker i)).Since
      since := by
  refine h.serve fun request broker outcome hrequest hperform => ?_
  have hkeeps := s.broker.keeps_perform request
  rw [hperform] at hkeeps
  refine (h.broker hkeeps).watch (.answerWorker i outcome)
    (fun id rest link _ hevent => nomatch hevent) ?_
  rintro j link m hworker hevent
  obtain ⟨rfl, rfl⟩ := ConsumerEvent.answerWorker.inj hevent
  have hwaits : s.watch.consumer.workers[i]? = some ⟨link, .receiving⟩ := hworker
  obtain rfl : PeerRequest.receive link = request := by
    simpa [hwaits, Worker.request?] using hrequest
  obtain ⟨l, hl, hpasses⟩ := Broker.passes_of_received hperform
  obtain ⟨l', hl', hfilter⟩ := h.filtered link
    (List.mem_map.2 ⟨_, List.mem_of_getElem? hwaits, rfl⟩)
  obtain rfl := Option.some.inj (hl.symm.trans hl')
  simpa [Broker.BrokerLink.passes, hfilter] using hpasses

lemma Since.step (h : s.Since since) (event : ServiceEvent) : (s.step event).Since since := by
  cases event with
  | serve => exact h.serveOwn
  | serveWorker i => exact h.serveWorker i
  | goOn event =>
    cases event with
    | answer outcome => exact h
    | answerWorker i outcome => exact h
    | _ =>
      exact h.watch _ (fun id rest link _ hevent => nomatch hevent)
        fun i link m _ hevent => nomatch hevent
  | feed isHeld address item => exact h.broker (s.broker.keeps_feed isHeld address item)
  | ask request => exact h.broker (s.broker.keeps_perform request)
  | configure settings => exact h.broker (.of_links rfl)

/-- Whatever a broker is fed and whoever else uses it, what a consumer hands to its callback was
taken in since the millisecond of the call: a message that was taken in earlier than the call came
in the same millisecond, and there is none if the call begins with a millisecond. -/
theorem delivered_since (broker : Broker) (name group replyTo messageId : String)
    (since : Instant) (token : Token) (events : List ServiceEvent) :
    ∀ m ∈ (run broker (.start name group replyTo messageId since token)
        events).watch.consumer.delivered,
      ∃ t, m.enqueued = some t ∧ since.millis ≤ t.millis ∧
        (t.nanos < since.nanos → t.millis = since.millis) ∧
        (since.nanos % 1000000 = 0 → since.nanos ≤ t.nanos) := by
  have hsince : (run broker (.start name group replyTo messageId since token) events).Since
      since := by
    induction events using List.reverseRecOn with
    | nil => exact ⟨rfl, Watch.start_ordered name group replyTo messageId since token,
        fun link hlink => by simp [Watch.start, Consumption.start, Consumer.start, run] at hlink,
        fun i m hm => by simp [Watch.start, run] at hm⟩
    | append_singleton events event ih =>
      rw [run_append]
      exact ih.step event
  intro m hm
  obtain ⟨i, hreceived⟩ := hsince.ordered.received_of_delivered hm
  obtain ⟨t, ht, hmillis⟩ := LinkFilter.accepts_iff.1 (hsince.passed i m hreceived)
  exact ⟨t, ht, hmillis, Instant.millis_eq_of_lt hmillis,
    fun hwhole => Instant.nanos_le_of_whole hwhole hmillis⟩

def oneMessage (m : Message) : List ServiceEvent :=
  List.replicate 8 .serve ++
    [.feed (fun _ => true) (partitionAddress "telemetry" "$Default" "0") (.ok m),
      .serveWorker 0, .serveWorker 0, .goOn (.deliver 0), .goOn .turn]

def midMillisecond : Instant := ⟨1700000000123999999⟩

def barelyEarlier : Message := { enqueued := some ⟨1700000000123999998⟩ }

/-- A consumer that is called at that moment and fed that message. -/
def servedBarelyEarlier : ServedConsumer :=
  run { partitions := ["0"] }
    (.start "telemetry" "$Default" "replies" "request" midMillisecond "caller")
    (oneMessage barelyEarlier)

lemma servedBarelyEarlier_delivered :
    servedBarelyEarlier.watch.consumer.delivered = [barelyEarlier] :=
  rfl

theorem delivered_since_of_same_millisecond :
    barelyEarlier ∈ servedBarelyEarlier.watch.consumer.delivered ∧
      ∃ t, barelyEarlier.enqueued = some t ∧ t.nanos < midMillisecond.nanos ∧
        t.millis = midMillisecond.millis := by
  have hm : barelyEarlier ∈ servedBarelyEarlier.watch.consumer.delivered := by
    simp [servedBarelyEarlier_delivered]
  obtain ⟨t, ht, -, hsame, -⟩ := delivered_since _ _ _ _ _ _ _ _ barelyEarlier hm
  cases ht
  exact ⟨hm, _, rfl, by decide, hsame (by decide)⟩

/-- A consumer may be handed a message that was taken in before the call. -/
theorem earlier_message_delivered :
    ¬ ∀ (broker : Broker) (name group replyTo messageId : String) (since : Instant) (token : Token)
      (events : List ServiceEvent),
      ∀ m ∈ (run broker (.start name group replyTo messageId since token)
          events).watch.consumer.delivered,
        ∃ t, m.enqueued = some t ∧ since.nanos ≤ t.nanos := by
  intro h
  have hm : barelyEarlier ∈ servedBarelyEarlier.watch.consumer.delivered := by
    simp [servedBarelyEarlier_delivered]
  obtain ⟨t, ht, hle⟩ := h _ _ _ _ _ _ _ _ barelyEarlier hm
  cases ht
  exact absurd hle (by decide)

end ServedConsumer
end Rehearsal
end DeviceHub
