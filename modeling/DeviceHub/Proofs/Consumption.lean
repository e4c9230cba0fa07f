import DeviceHub.EventHub.Client
import Mathlib.Data.List.Basic

/-!
Runs of `subscribe_partitions`.  The consumer, its `PartitionWorker`s, the broker and the caller's
token move in any order; a run puts down what is done, the deeds until the consumer comes to its end
apart from those of the workers it then waits for.
-/
namespace DeviceHub.EventHub

inductive ConsumerEvent where
  | answer (outcome : HubResult PeerAnswer)
  | answerWorker (i : Nat) (outcome : HubResult PeerAnswer)
  /-- The orchestrating loop goes on by itself. -/
  | turn
  | deliver (i : Nat)
  | cancel
  | stopWorker (i : Nat)
  | fire (token : Token)
  | drop

/-- What is done in a run. -/
inductive Deed where
  | opened (link : Nat)
  | closed (link : Nat)
  /-- What `get_partition_ids` has come to. -/
  | discovered (outcome : HubResult (List String))
  | refused (e : HubError)
  | accepted (link : Nat) (m : Message)
  /-- A worker has sent its message into the channel. -/
  | queued (link : Nat) (m : Message)
  /-- A worker has stopped with a message it had accepted. -/
  | discarded (link : Nat) (m : Message)
  /-- A worker could not receive or accept. -/
  | failed (e : HubError)
  | fired (token : Token)

structure Consumption where
  consumer : Consumer
  fired : List Token := []
  /-- Done until the consumer came to its end. -/
  deeds : List Deed := []
  /-- Done since, while `shutdown` waits for the workers. -/
  aftermath : List Deed := []

def PeerRequest.linkDeeds : PeerRequest → HubResult PeerAnswer → List Deed
  | .openReceiver _, .ok (.opened link) => [.opened link]
  | .openSender _, .ok (.opened link) => [.opened link]
  | .closeLink link, _ => [.closed link]
  | _, _ => []

def Exchange.discoveries (x : Exchange) : List Deed :=
  (x.outcome?.map fun outcome => Deed.discovered (outcome.bind readPartitions)).toList

/-- What the answer of the broker to a worker does. -/
def Worker.answerDeeds (w : Worker) (outcome : HubResult PeerAnswer) : List Deed :=
  match w.request?, outcome with
  | some (.accept link m), .ok .done => [.accepted link m]
  | some (.receive _), .error e => [.failed e]
  | some (.accept _ _), .error e => [.failed e]
  | some r, outcome => r.linkDeeds outcome
  | none, _ => []

def Worker.deliverDeeds (w : Worker) : List Deed :=
  match w.phase with
  | .delivering m => [.queued w.link m]
  | _ => []

def Worker.stopDeeds (w : Worker) : List Deed :=
  match w.phase with
  | .delivering m => [.discarded w.link m]
  | _ => []

namespace Consumer

def isRunning (c : Consumer) : Bool :=
  match c.phase with
  | .discovering _ | .opening _ | .consuming => true
  | .stopping _ | .returned _ | .dropped => false

def answerDeeds (outcome : HubResult PeerAnswer) (c : Consumer) : List Deed :=
  (c.request?.elim [] fun r => r.linkDeeds outcome) ++
    match c.phase, outcome with
    | .discovering x, outcome => (x.answer? outcome).elim [] Exchange.discoveries
    | .opening _, .error e => [.refused e]
    | _, _ => []

def cancelDeeds (fired : List Token) (c : Consumer) : List Deed :=
  match c.phase with
  | .discovering x => (x.cancel? fired).elim [] Exchange.discoveries
  | _ => []

end Consumer

namespace Consumption

def start (name group replyTo messageId : String) (since : Instant) (token : Token) : Consumption :=
  { consumer := .start name group replyTo messageId since token }

/-- Everything that was done. -/
def record (s : Consumption) : List Deed :=
  s.deeds ++ s.aftermath

def note (c : Consumer) (deeds : List Deed) (s : Consumption) : Consumption :=
  if s.consumer.isRunning then { s with consumer := c, deeds := s.deeds ++ deeds }
  else { s with consumer := c, aftermath := s.aftermath ++ deeds }

/-- The consumer after an event and what was done; `none` when the event cannot happen. -/
def next? (s : Consumption) : ConsumerEvent → Option (Consumer × List Deed)
  | .answer outcome => (s.consumer.answer? outcome).map (·, s.consumer.answerDeeds outcome)
  | .answerWorker i outcome =>
    (s.consumer.answerWorker? s.fired i outcome).map
      (·, s.consumer.workers[i]?.elim [] fun w => w.answerDeeds outcome)
  | .turn => (s.consumer.turn? s.fired).map (·, [])
  | .deliver i =>
    (s.consumer.deliver? i).map (·, s.consumer.workers[i]?.elim [] Worker.deliverDeeds)
  | .cancel => (s.consumer.cancel? s.fired).map (·, s.consumer.cancelDeeds s.fired)
  | .stopWorker i =>
    (s.consumer.stopWorker? s.fired i).map
      (·, s.consumer.workers[i]?.elim [] Worker.stopDeeds)
  | .fire token => some (s.consumer, [.fired token])
  | .drop => some (s.consumer.drop, [])

def step (s : Consumption) (event : ConsumerEvent) : Consumption :=
  match event, s.next? event with
  | .fire token, some (c, deeds) => { s.note c deeds with fired := token :: s.fired }
  | _, some (c, deeds) => s.note c deeds
  | _, none => s

def run (events : List ConsumerEvent) (s : Consumption) : Consumption :=
  events.foldl step s

end Consumption

namespace Exchange

inductive Move (fired : List Token) (x : Exchange) : List Deed → Exchange → Prop
  | answer {r outcome x'} (asked : x.request? = some r) (answered : x.answer? outcome = some x') :
      Move fired x (r.linkDeeds outcome) x'
  | cancel {x'} (cancelled : x.cancel? fired = some x') : Move fired x [] x'

lemma request?_of_answer? {x x' : Exchange} {outcome : HubResult PeerAnswer}
    (h : x.answer? outcome = some x') : ∃ r, x.request? = some r := by
  obtain ⟨phase, hphase, -⟩ := Option.map_eq_some_iff.1 h
  unfold next? at hphase
  unfold request?
  cases hx : x.phase <;> simp_all

end Exchange

namespace Consumer

inductive WorkerMove (fired : List Token) (c : Consumer) : List Deed → Consumer → Prop
  | receive {before after link m} (split : c.workers = before ++ ⟨link, .receiving⟩ :: after) :
      WorkerMove fired c []
        { c with workers := before ++ ⟨link, .accepting m⟩ :: after }
  | accept {before after link m} (split : c.workers = before ++ ⟨link, .accepting m⟩ :: after) :
      WorkerMove fired c [.accepted link m]
        { c with workers := before ++ ⟨link, .delivering m⟩ :: after }
  | fail {before after e} {w : Worker} (split : c.workers = before ++ w :: after)
      (busy : w.phase = .receiving ∨ ∃ m, w.phase = .accepting m) :
      WorkerMove fired c [.failed e]
        { c with
          errors := if c.isStopped fired then c.errors else (c.report e).errors
          workers := before ++ ⟨w.link, .closing⟩ :: after }
  | enqueue {before after link m} (split : c.workers = before ++ ⟨link, .delivering m⟩ :: after)
      (room : c.queue.length < c.capacity) :
      WorkerMove fired c [.queued link m]
        { c with queue := c.queue ++ [m], workers := before ++ ⟨link, .receiving⟩ :: after }
  | stop {before after link} (split : c.workers = before ++ ⟨link, .receiving⟩ :: after)
      (stopped : c.isStopped fired = true) :
      WorkerMove fired c [] { c with workers := before ++ ⟨link, .closing⟩ :: after }
  | discard {before after link m} (split : c.workers = before ++ ⟨link, .delivering m⟩ :: after)
      (stopped : c.isStopped fired = true) :
      WorkerMove fired c [.discarded link m]
        { c with workers := before ++ ⟨link, .closing⟩ :: after }
  | close {before after link} (split : c.workers = before ++ ⟨link, .closing⟩ :: after) :
      WorkerMove fired c [.closed link]
        { c with workers := before ++ ⟨link, .finished⟩ :: after }

inductive OwnMove (fired : List Token) (c : Consumer) : List Deed → Consumer → Prop
  | ask {x deeds x'} (phase : c.phase = .discovering x) (move : x.Move fired deeds x') :
      OwnMove fired c (deeds ++ x'.discoveries) (c.discovered x')
  | join {id rest link} (phase : c.phase = .opening (id :: rest)) :
      OwnMove fired c [.opened link]
        { c with
          workers := c.workers ++ [{ link }]
          phase := if rest.isEmpty then .consuming else .opening rest }
  | refuse {rest e} (phase : c.phase = .opening rest) :
      OwnMove fired c [.refused e] { c with phase := .stopping e }
  | giveUp {rest} (phase : c.phase = .opening rest) (cancelled : c.token ∈ fired) :
      OwnMove fired c [] { c with phase := .stopping .cancelled }
  | take {e errors} (phase : c.phase = .consuming) (reported : c.errors = e :: errors) :
      OwnMove fired c []
        { c with
          errors, queue := [], delivered := c.delivered ++ c.queue, phase := .stopping e }
  | notice (phase : c.phase = .consuming) (quiet : c.errors = []) (cancelled : c.token ∈ fired) :
      OwnMove fired c [] { c with phase := .stopping .cancelled }
  | hand {m queue} (phase : c.phase = .consuming) (next : c.queue = m :: queue) :
      OwnMove fired c [] { c with queue, delivered := c.delivered ++ [m] }
  | finish {e} (phase : c.phase = .stopping e) (joined : ∀ w ∈ c.workers, w.phase = .finished) :
      OwnMove fired c [] { c with phase := .returned e }

/-- The worker of a number between those before and after it. -/
lemma exists_split {workers : List Worker} {i : Nat} {w : Worker} (h : workers[i]? = some w) :
    ∃ before after, workers = before ++ w :: after ∧
      ∀ phase, workers.modify i (fun w => { w with phase }) =
        before ++ { w with phase } :: after := by
  induction workers generalizing i with
  | nil => simp at h
  | cons v rest ih =>
    cases i with
    | zero =>
      obtain rfl : v = w := by simpa using h
      exact ⟨[], rest, rfl, fun phase => rfl⟩
    | succ i =>
      obtain ⟨before, after, hsplit, hmodify⟩ := ih (by simpa using h)
      refine ⟨v :: before, after, by rw [hsplit]; rfl, fun phase => ?_⟩
      rw [List.modify_succ_cons, hmodify]
      rfl

variable {fired : List Token} {c c' : Consumer} {i : Nat}

/-- A worker that fails changes no more than itself and the errors. -/
lemma fail_eq {before after : List Worker} {w : Worker} {e : HubError}
    (hmodify : ∀ phase, c.workers.modify i (fun w => { w with phase }) =
      before ++ { w with phase } :: after) :
    c.fail fired i e = { c with
      errors := if c.isStopped fired then c.errors else (c.report e).errors
      workers := before ++ ⟨w.link, .closing⟩ :: after } := by
  unfold fail setWorker report
  split
  · rw [hmodify]
  · split <;> rw [hmodify]

lemma answerWorker?_move {outcome : HubResult PeerAnswer}
    (h : c.answerWorker? fired i outcome = some c') :
    WorkerMove fired c (c.workers[i]?.elim [] fun w => w.answerDeeds outcome) c' := by
  obtain ⟨w, hw, h⟩ := Option.bind_eq_some_iff.1 h
  obtain ⟨before, after, hsplit, hmodify⟩ := exists_split hw
  obtain ⟨link, phase⟩ := w
  rw [hw, Option.elim_some]
  cases phase with
  | receiving =>
    cases outcome with
    | error e =>
      cases h
      rw [fail_eq hmodify]
      exact .fail hsplit (.inl rfl)
    | ok answer =>
      cases answer with
      | received m =>
        cases h
        rw [setWorker, hmodify]
        exact .receive hsplit
      | done => cases h
      | opened link => cases h
  | accepting m =>
    cases outcome with
    | error e =>
      cases h
      rw [fail_eq hmodify]
      exact .fail hsplit (.inr ⟨m, rfl⟩)
    | ok answer =>
      cases answer with
      | done =>
        cases h
        rw [setWorker, hmodify]
        exact .accept hsplit
      | received m => cases h
      | opened link => cases h
  | delivering m => simp at h
  | closing =>
    cases h
    rw [setWorker, hmodify]
    exact .close hsplit
  | finished => simp at h

lemma deliver?_move (h : c.deliver? i = some c') :
    WorkerMove fired c (c.workers[i]?.elim [] Worker.deliverDeeds) c' := by
  obtain ⟨w, hw, h⟩ := Option.bind_eq_some_iff.1 h
  obtain ⟨before, after, hsplit, hmodify⟩ := exists_split hw
  obtain ⟨link, phase⟩ := w
  rw [hw, Option.elim_some]
  cases phase with
  | delivering m =>
    simp only [Option.ite_none_right_eq_some, Option.some.injEq] at h
    obtain ⟨hroom, rfl⟩ := h
    rw [setWorker, hmodify]
    exact .enqueue hsplit hroom
  | receiving => cases h
  | accepting m => cases h
  | closing => cases h
  | finished => cases h

lemma stopWorker?_move (h : c.stopWorker? fired i = some c') :
    WorkerMove fired c (c.workers[i]?.elim [] Worker.stopDeeds) c' := by
  obtain ⟨w, hw, h⟩ := Option.bind_eq_some_iff.1 h
  obtain ⟨before, after, hsplit, hmodify⟩ := exists_split hw
  obtain ⟨link, phase⟩ := w
  rw [hw, Option.elim_some]
  cases phase with
  | receiving =>
    simp only [Option.ite_none_right_eq_some, Option.some.injEq] at h
    obtain ⟨hstopped, rfl⟩ := h
    rw [setWorker, hmodify]
    exact .stop hsplit hstopped
  | delivering m =>
    simp only [Option.ite_none_right_eq_some, Option.some.injEq] at h
    obtain ⟨hstopped, rfl⟩ := h
    rw [setWorker, hmodify]
    exact .discard hsplit hstopped
  | accepting m => cases h
  | closing => cases h
  | finished => cases h

lemma answer?_move {outcome : HubResult PeerAnswer} (h : c.answer? outcome = some c') :
    OwnMove fired c (c.answerDeeds outcome) c' := by
  unfold answer? at h
  cases hphase : c.phase with
  | discovering x =>
    simp only [hphase] at h
    obtain ⟨x', hx, rfl⟩ := Option.map_eq_some_iff.1 h
    obtain ⟨r, hr⟩ := Exchange.request?_of_answer? hx
    have hdeeds : c.answerDeeds outcome = r.linkDeeds outcome ++ x'.discoveries := by
      simp [answerDeeds, request?, hphase, hr, hx]
    rw [hdeeds]
    exact .ask hphase (.answer hr hx)
  | opening ids =>
    cases ids with
    | nil => simp [hphase] at h
    | cons id rest =>
      simp only [hphase] at h
      cases outcome with
      | error e =>
        cases h
        have hdeeds : c.answerDeeds (.error e) = [.refused e] := by
          simp [answerDeeds, request?, hphase, PeerRequest.linkDeeds]
        rw [hdeeds]
        exact .refuse hphase
      | ok answer =>
        cases answer with
        | opened link =>
          cases h
          have hdeeds : c.answerDeeds (.ok (.opened link)) = [.opened link] := by
            simp [answerDeeds, request?, hphase, PeerRequest.linkDeeds]
          rw [hdeeds]
          exact .join hphase
        | done => cases h
        | received m => cases h
  | consuming => simp [hphase] at h
  | stopping e => simp [hphase] at h
  | returned e => simp [hphase] at h
  | dropped => simp [hphase] at h

lemma cancel?_move (h : c.cancel? fired = some c') :
    OwnMove fired c (c.cancelDeeds fired) c' := by
  unfold cancel? at h
  cases hphase : c.phase with
  | discovering x =>
    simp only [hphase] at h
    obtain ⟨x', hx, rfl⟩ := Option.map_eq_some_iff.1 h
    have hdeeds : c.cancelDeeds fired = [] ++ x'.discoveries := by simp [cancelDeeds, hphase, hx]
    rw [hdeeds]
    exact .ask hphase (.cancel hx)
  | opening ids =>
    simp only [hphase, Option.ite_none_right_eq_some, Option.some.injEq] at h
    obtain ⟨hcancelled, rfl⟩ := h
    have hdeeds : c.cancelDeeds fired = [] := by simp [cancelDeeds, hphase]
    rw [hdeeds]
    exact .giveUp hphase (by simpa using hcancelled)
  | consuming => simp [hphase] at h
  | stopping e => simp [hphase] at h
  | returned e => simp [hphase] at h
  | dropped => simp [hphase] at h

lemma turn?_move (h : c.turn? fired = some c') : OwnMove fired c [] c' := by
  unfold turn? at h
  cases hphase : c.phase with
  | consuming =>
    simp only [hphase] at h
    cases herrors : c.errors with
    | cons e errors =>
      simp only [herrors, Option.some.injEq] at h
      subst h
      exact .take hphase herrors
    | nil =>
      simp only [herrors] at h
      split at h
      next hcancelled =>
        cases h
        have move : OwnMove fired c [] _ := .notice hphase herrors (by simpa using hcancelled)
        simpa only [herrors] using move
      next =>
        cases hqueue : c.queue with
        | nil => simp [hqueue] at h
        | cons m queue =>
          simp only [hqueue, Option.some.injEq] at h
          subst h
          have move : OwnMove fired c [] _ := .hand hphase hqueue
          simpa only [hphase, herrors] using move
  | stopping e =>
    simp only [hphase, Option.ite_none_right_eq_some, Option.some.injEq] at h
    obtain ⟨hjoined, rfl⟩ := h
    refine .finish hphase fun w hw => ?_
    have := List.all_eq_true.1 hjoined w hw
    cases hw : w.phase <;> simp_all
  | discovering x => simp [hphase] at h
  | opening ids => simp [hphase] at h
  | returned e => simp [hphase] at h
  | dropped => simp [hphase] at h

lemma WorkerMove.frame {deeds : List Deed} (h : c.WorkerMove fired deeds c') :
    c'.name = c.name ∧ c'.token = c.token ∧ c'.phase = c.phase ∧ c'.capacity = c.capacity ∧
      c'.delivered = c.delivered ∧ c'.workers.length = c.workers.length := by
  cases h with
  | receive split | accept split | fail split busy | enqueue split room | stop split stopped
  | discard split stopped | close split => simp [split]

lemma mem_of_split {workers before after : List Worker} {w : Worker}
    (split : workers = before ++ w :: after) : w ∈ workers := by
  rw [split]
  exact List.mem_append_right _ List.mem_cons_self

lemma WorkerMove.exists_unfinished {deeds : List Deed} (h : c.WorkerMove fired deeds c') :
    ∃ w ∈ c.workers, w.phase ≠ .finished := by
  cases h with
  | fail split busy =>
    refine ⟨_, mem_of_split split, ?_⟩
    obtain hw | ⟨m, hw⟩ := busy <;> simp [hw]
  | receive split => exact ⟨_, mem_of_split split, by simp⟩
  | accept split => exact ⟨_, mem_of_split split, by simp⟩
  | enqueue split room => exact ⟨_, mem_of_split split, by simp⟩
  | stop split stopped => exact ⟨_, mem_of_split split, by simp⟩
  | discard split stopped => exact ⟨_, mem_of_split split, by simp⟩
  | close split => exact ⟨_, mem_of_split split, by simp⟩

lemma OwnMove.not_over {deeds : List Deed} (h : c.OwnMove fired deeds c') :
    (∀ e, c.phase ≠ .returned e) ∧ c.phase ≠ .dropped := by
  cases h <;> simp_all

lemma drop_cases (c : Consumer) :
    (∃ e, c.phase = .returned e ∧ c.drop = c) ∨ c.drop.phase = .dropped := by
  unfold drop
  cases hphase : c.phase <;> simp

end Consumer

namespace Consumption

@[simp] lemma note_consumer (c : Consumer) (deeds : List Deed) (s : Consumption) :
    (s.note c deeds).consumer = c := by
  unfold note
  split <;> rfl

@[simp] lemma note_fired (c : Consumer) (deeds : List Deed) (s : Consumption) :
    (s.note c deeds).fired = s.fired := by
  unfold note
  split <;> rfl

lemma note_of_running {s : Consumption} (h : s.consumer.isRunning = true) (c : Consumer)
    (deeds : List Deed) : s.note c deeds = { s with consumer := c, deeds := s.deeds ++ deeds } := by
  simp [note, h]

lemma note_of_not_running {s : Consumption} (h : s.consumer.isRunning = false) (c : Consumer)
    (deeds : List Deed) :
    s.note c deeds = { s with consumer := c, aftermath := s.aftermath ++ deeds } := by
  simp [note, h]

/-- Everything that was done stays, whether the consumer is at its end or not. -/
lemma record_note (c : Consumer) (deeds : List Deed) (s : Consumption) :
    (s.note c deeds).record.Perm (s.record ++ deeds) := by
  unfold note record
  split
  · have hcomm : (deeds ++ s.aftermath).Perm (s.aftermath ++ deeds) := List.perm_append_comm
    simpa using hcomm.append_left s.deeds
  · simp

/-- What one event comes to. -/
inductive Move (s : Consumption) : Consumption → Prop
  | idle : Move s s
  | worker {deeds c} (move : s.consumer.WorkerMove s.fired deeds c) : Move s (s.note c deeds)
  | own {deeds c} (move : s.consumer.OwnMove s.fired deeds c) : Move s (s.note c deeds)
  | fire (token : Token) :
      Move s { s.note s.consumer [.fired token] with fired := token :: s.fired }
  | drop : Move s (s.note s.consumer.drop [])

theorem step_move (s : Consumption) (event : ConsumerEvent) : Move s (s.step event) := by
  unfold step
  cases event with
  | fire token => exact .fire token
  | drop => exact .drop
  | answer outcome =>
    cases h : s.consumer.answer? outcome with
    | none => simpa [next?, h] using .idle
    | some c => simpa [next?, h] using .own (Consumer.answer?_move h)
  | answerWorker i outcome =>
    cases h : s.consumer.answerWorker? s.fired i outcome with
    | none => simpa [next?, h] using .idle
    | some c => simpa [next?, h] using .worker (Consumer.answerWorker?_move h)
  | turn =>
    cases h : s.consumer.turn? s.fired with
    | none => simpa [next?, h] using .idle
    | some c => simpa [next?, h] using .own (Consumer.turn?_move h)
  | deliver i =>
    cases h : s.consumer.deliver? i with
    | none => simpa [next?, h] using .idle
    | some c => simpa [next?, h] using .worker (Consumer.deliver?_move h)
  | cancel =>
    cases h : s.consumer.cancel? s.fired with
    | none => simpa [next?, h] using .idle
    | some c => simpa [next?, h] using .own (Consumer.cancel?_move h)
  | stopWorker i =>
    cases h : s.consumer.stopWorker? s.fired i with
    | none => simpa [next?, h] using .idle
    | some c => simpa [next?, h] using .worker (Consumer.stopWorker?_move h)

lemma Move.frame {s t : Consumption} (h : s.Move t) :
    t.consumer.name = s.consumer.name ∧ t.consumer.token = s.consumer.token := by
  cases h with
  | idle => exact ⟨rfl, rfl⟩
  | worker move =>
    rw [note_consumer]
    exact ⟨move.frame.1, move.frame.2.1⟩
  | own move =>
    rw [note_consumer]
    cases move with
    | ask phase move =>
      unfold Consumer.discovered
      split
      · exact ⟨rfl, rfl⟩
      · split <;> exact ⟨rfl, rfl⟩
    | _ => exact ⟨rfl, rfl⟩
  | fire token => simp
  | drop =>
    rw [note_consumer]
    unfold Consumer.drop
    split <;> exact ⟨rfl, rfl⟩

/-- What every move keeps holds after a run if it held before. -/
theorem run_induction {P : Consumption → Prop} (hmove : ∀ s t, P s → Move s t → P t)
    (events : List ConsumerEvent) {s : Consumption} (hs : P s) : P (s.run events) := by
  induction events generalizing s with
  | nil => exact hs
  | cons event events ih => exact ih (hmove s _ hs (step_move s event))

lemma run_frame (name group replyTo messageId : String) (since : Instant) (token : Token)
    (events : List ConsumerEvent) :
    ((start name group replyTo messageId since token).run events).consumer.name = name ∧
      ((start name group replyTo messageId since token).run events).consumer.token = token := by
  refine run_induction (P := fun s => s.consumer.name = name ∧ s.consumer.token = token)
    (fun s t hs h => ?_) events ⟨rfl, rfl⟩
  exact ⟨h.frame.1.trans hs.1, h.frame.2.trans hs.2⟩

end Consumption
end DeviceHub.EventHub
