import DeviceHub.Proofs.Consumption.Ending

/-!
What becomes of a message that `pump` has accepted.  Its worker sends it into the channel, or
discards it when the scope is cancelled first.  What is queued when the partition error is noticed
is handed over; what workers hold at that moment is not, whether they discard it or still queue it.
-/
namespace DeviceHub.EventHub

def Deed.accepted? : Deed → Option Message
  | .accepted _ m => some m
  | _ => none

def Deed.discarded? : Deed → Option Message
  | .discarded _ m => some m
  | _ => none

def Deed.released? : Deed → Option Message
  | .queued _ m => some m
  | .discarded _ m => some m
  | _ => none

def acceptedMessages (deeds : List Deed) : List Message :=
  deeds.filterMap Deed.accepted?

def discardedMessages (deeds : List Deed) : List Message :=
  deeds.filterMap Deed.discarded?

/-- The accepted message that a worker has not queued yet. -/
def Worker.inHand? (w : Worker) : Option Message :=
  match w.phase with
  | .delivering m => some m
  | _ => none

/-- Accepted messages are in the hand of their worker until it queues or discards them. -/
def messages : Ledger Message where
  taken := Deed.accepted?
  given := Deed.released?
  heldOwn _ := []
  heldByWorker := Worker.inHand?

lemma released_perm (deeds : List Deed) :
    (deeds.filterMap Deed.released?).Perm (queuedMessages deeds ++ discardedMessages deeds) := by
  induction deeds with
  | nil => exact .nil
  | cons d deeds ih =>
    cases d with
    | queued link m => exact ih.cons m
    | discarded link m => exact (ih.cons m).trans List.perm_middle.symm
    | _ => exact ih

namespace Consumer

variable {fired : List Token} {c c' : Consumer} {deeds : List Deed}

lemma WorkerMove.accounts_messages (h : c.WorkerMove fired deeds c') :
    messages.Accounts deeds (messages.held c) (messages.held c') := by
  cases h with
  | fail split busy =>
    refine Ledger.accounts_of_split rfl split rfl fun p => ?_
    obtain hw | ⟨m, hw⟩ := busy <;>
      simp [messages, Worker.inHand?, Deed.accepted?, Deed.released?, List.filterMap_cons, hw]
  | receive split | accept split | enqueue split room | stop split stopped | discard split stopped
  | close split =>
    refine Ledger.accounts_of_split rfl split rfl fun p => ?_
    simp [messages, Worker.inHand?, Deed.accepted?, Deed.released?, List.filterMap_cons]

lemma OwnMove.accounts_messages (h : c.OwnMove fired deeds c') :
    messages.Accounts deeds (messages.held c) (messages.held c') := by
  cases h with
  | @ask x exchanged x' phase move =>
    have hlinks := move.onlyLinks
    have hworkers : (c.discovered x').workers = c.workers := by
      unfold discovered
      split
      · rfl
      · split <;> rfl
    intro p
    have hx : x'.discoveries.filterMap Deed.accepted? = [] ∧
        x'.discoveries.filterMap Deed.released? = [] := by
      unfold Exchange.discoveries
      cases x'.outcome? <;> simp [Deed.accepted?, Deed.released?, List.filterMap_cons]
    simp [Ledger.held, messages, hworkers, hx, hlinks.filterMap, Deed.accepted?, Deed.released?]
  | join phase =>
    intro p
    simp [Ledger.held, messages, Worker.inHand?, Deed.accepted?, Deed.released?,
      List.filterMap_cons]
  | refuse phase | giveUp phase cancelled | take phase reported | notice phase quiet cancelled
  | hand phase next | finish phase joined =>
    intro p
    simp [Ledger.held, messages, Deed.accepted?, Deed.released?, List.filterMap_cons]

end Consumer

theorem messages_lawful : messages.Lawful where
  fire _ := ⟨rfl, rfl⟩
  worker move := move.accounts_messages
  own move := move.accounts_messages

namespace Consumption

/-- The accepted messages that the callback never gets when a consumer ends because a partition has
failed: what workers queue too late, and what they discard. -/
def lostMessages (cause : Cause) (s : Consumption) : List Message :=
  queuedMessages (if cause matches .failure then s.aftermath else s.record) ++
    discardedMessages s.record

/-- When a consumer returns because a partition has failed, the callback has got every accepted
message once but for the lost ones, so it has got all of them if and only if none was lost. -/
theorem accepted_perm_delivered (name group replyTo messageId : String) (since : Instant)
    (token : Token) (events : List ConsumerEvent) {s : Consumption} {cause : Cause} {e : HubError}
    (hs : (start name group replyTo messageId since token).run events = s)
    (h : (Activity.consuming s.consumer).outcome? = some (.error (.error e)))
    (hends : EndsFor name token s.consumer.workers.length s.deeds cause e)
    (hcause : cause = .failure ∨ cause = .refusal) :
    (acceptedMessages s.record).Perm (s.consumer.delivered ++ s.lostMessages cause) ∧
      ((acceptedMessages s.record).Perm s.consumer.delivered ↔ s.lostMessages cause = []) := by
  have hsound := run_sound name group replyTo messageId since token events
  have hbalanced := messages_lawful.run_balanced events
    (.inr fun _ => rfl : messages.Balanced (start name group replyTo messageId since token))
  have hframe := run_frame name group replyTo messageId since token events
  rw [hs] at hsound hbalanced hframe
  obtain ⟨_, ⟨⟩, phase, hended, hjoined⟩ := hsound.of_outcome? h
  have hreleased : (acceptedMessages s.record).Perm
      (queuedMessages s.record ++ discardedMessages s.record) := by
    refine (hbalanced.perm_of_returned phase rfl fun w hw => ?_).trans (released_perm _)
    simp only [messages, Worker.inHand?, hjoined w hw]
  have hperm : (acceptedMessages s.record).Perm (s.consumer.delivered ++ s.lostMessages cause) := by
    obtain ⟨cause', hends', hhanded⟩ := hended
    rw [hframe.1, hframe.2] at hends'
    obtain ⟨rfl, -⟩ := hends.unique hends'
    obtain rfl | rfl := hcause
    · have hdelivered : s.consumer.delivered = queuedMessages s.deeds := hhanded
      rw [hdelivered, lostMessages, ← List.append_assoc]
      simpa [record] using hreleased
    · have hdelivered : s.consumer.delivered = [] := hhanded
      rw [hdelivered, List.nil_append]
      exact hreleased
  refine ⟨hperm, fun hall => ?_, fun hnone => ?_⟩
  · have := hperm.length_eq
    rw [hall.length_eq, List.length_append] at this
    exact List.eq_nil_of_length_eq_zero (by omega)
  · simpa [hnone] using hperm

def acceptAndQueue (i : Nat) (m : Message) : List ConsumerEvent :=
  [.answerWorker i (.ok (.received m)), .answerWorker i (.ok .done), .deliver i]

/-- The first worker fills the queue and has one more message in its hand when the second one
fails. -/
def failsWhileFull : List ConsumerEvent :=
  twoPartitions ++ [.answer (.ok (.opened 2)), .answer (.ok (.opened 3))] ++
    acceptAndQueue 0 { value := .string "1" } ++ acceptAndQueue 0 { value := .string "2" } ++
    acceptAndQueue 0 { value := .string "3" } ++
    [.answerWorker 1 (.error .closed), .turn, .stopWorker 0, .answerWorker 0 (.ok .done),
      .answerWorker 1 (.ok .done), .turn]

def failedWhileFull : Consumption :=
  (start "n" "g" "r" "q" ⟨0⟩ "t").run failsWhileFull

lemma failedWhileFull_returned :
    (Activity.consuming failedWhileFull.consumer).outcome? = some (.error (.error .closed)) := by
  have hphase : failedWhileFull.consumer.phase = .returned .closed := rfl
  simp only [Activity.outcome?, Consumer.outcome?, hphase, Option.map_some]

lemma failedWhileFull_ends :
    EndsFor "n" "t" failedWhileFull.consumer.workers.length failedWhileFull.deeds .failure
      .closed := by
  have hasked : discoveries failedWhileFull.deeds = [.ok ["a", "b"]] := rfl
  have hopened : failedWhileFull.consumer.workers.length = 2 := rfl
  have hreports : reports "t" failedWhileFull.deeds = [.closed] := rfl
  exact .failure hasked hopened (by rw [hopened]; decide) rfl (by rw [hreports]; rfl)

theorem accepted_perm_delivered_of_full :
    (acceptedMessages failedWhileFull.record).Perm
        (failedWhileFull.consumer.delivered ++ failedWhileFull.lostMessages .failure) ∧
      ((acceptedMessages failedWhileFull.record).Perm failedWhileFull.consumer.delivered ↔
        failedWhileFull.lostMessages .failure = []) :=
  accepted_perm_delivered "n" "g" "r" "q" ⟨0⟩ "t" failsWhileFull rfl failedWhileFull_returned
    failedWhileFull_ends (.inl rfl)

theorem accepted_not_delivered :
    ¬ ∀ (events : List ConsumerEvent) (s : Consumption) (e : HubError),
      (start "n" "g" "r" "q" ⟨0⟩ "t").run events = s →
      (Activity.consuming s.consumer).outcome? = some (.error (.error e)) →
      EndsFor "n" "t" s.consumer.workers.length s.deeds .failure e →
      (acceptedMessages s.record).Perm s.consumer.delivered := by
  intro h
  have hperm := h failsWhileFull failedWhileFull .closed rfl failedWhileFull_returned
    failedWhileFull_ends
  -- three were accepted, two handed over
  have hlength : 3 = 2 := hperm.length_eq
  cases hlength

end Consumption
end DeviceHub.EventHub
