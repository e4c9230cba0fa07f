import DeviceHub.Proofs.Consumption

/-!
What a consumption takes in and gives out again, and what it holds in between.  If every move of a
worker and of the consumer accounts for what it takes and gives, a whole run does.
-/
namespace DeviceHub.EventHub

/-- Things that deeds take in and give out, and who holds them meanwhile. -/
structure Ledger (α : Type) where
  taken : Deed → Option α
  given : Deed → Option α
  /-- What a consumer holds itself. -/
  heldOwn : ConsumerPhase → List α
  heldByWorker : Worker → Option α

namespace Ledger

variable {α : Type} (l : Ledger α)

def held (c : Consumer) : List α :=
  l.heldOwn c.phase ++ c.workers.filterMap l.heldByWorker

/-- Deeds after which other things are held, each taken or given on the way. -/
def Accounts (deeds : List Deed) (before after : List α) : Prop :=
  ∀ p, (deeds.filterMap l.taken).countP p + before.countP p =
    (deeds.filterMap l.given).countP p + after.countP p

variable {l} {fired : List Token} {c c' : Consumer} {deeds : List Deed}

lemma Accounts.append {first second : List Deed} {xs ys zs : List α} (h : l.Accounts first xs ys)
    (h' : l.Accounts second ys zs) : l.Accounts (first ++ second) xs zs := by
  intro p
  have := h p
  have := h' p
  simp only [List.filterMap_append, List.countP_append]
  omega

lemma Accounts.of_perm {deeds' : List Deed} {xs ys : List α} (h : l.Accounts deeds xs ys)
    (hd : deeds.Perm deeds') : l.Accounts deeds' xs ys := by
  intro p
  rw [← (hd.filterMap _).countP_eq, ← (hd.filterMap _).countP_eq]
  exact h p

lemma Accounts.frame {xs ys : List α} (h : l.Accounts deeds xs ys) (right : List α) :
    l.Accounts deeds (xs ++ right) (ys ++ right) := by
  intro p
  have := h p
  simp only [List.countP_append]
  omega

lemma Accounts.perm {xs : List α} (h : l.Accounts deeds [] xs) :
    (deeds.filterMap l.taken).Perm (deeds.filterMap l.given ++ xs) := by
  classical
  refine List.perm_iff_count.2 fun x => ?_
  simpa [List.count] using h (· == x)

/-- Leaves only the change of one worker to account for. -/
lemma accounts_of_split {before after : List Worker} {w w' : Worker} (phase : c'.phase = c.phase)
    (split : c.workers = before ++ w :: after) (split' : c'.workers = before ++ w' :: after)
    (h : l.Accounts deeds (l.heldByWorker w).toList (l.heldByWorker w').toList) :
    l.Accounts deeds (l.held c) (l.held c') := by
  intro p
  have := h p
  unfold held
  rw [phase, split, split']
  simp only [List.filterMap_append, List.filterMap_cons, List.countP_append]
  cases hw : l.heldByWorker w <;> cases hw' : l.heldByWorker w' <;>
    simp_all [List.countP_cons] <;> omega

variable (l) in
structure Lawful : Prop where
  fire (token : Token) : l.taken (.fired token) = none ∧ l.given (.fired token) = none
  worker {fired : List Token} {c c' : Consumer} {deeds : List Deed} :
    c.WorkerMove fired deeds c' → l.Accounts deeds (l.held c) (l.held c')
  own {fired : List Token} {c c' : Consumer} {deeds : List Deed} :
    c.OwnMove fired deeds c' → l.Accounts deeds (l.held c) (l.held c')

variable (l) in
/-- What was taken was given or is held; what a consumer holds that is dropped is lost. -/
def Balanced (s : Consumption) : Prop :=
  s.consumer.phase = .dropped ∨ l.Accounts s.record [] (l.held s.consumer)

lemma Accounts.note {s : Consumption} (hs : l.Accounts s.record [] (l.held s.consumer))
    (h : l.Accounts deeds (l.held s.consumer) (l.held c)) :
    l.Accounts (s.note c deeds).record [] (l.held c) :=
  (hs.append h).of_perm (s.record_note c deeds).symm

lemma Balanced.move {s t : Consumption} (law : l.Lawful) (hs : l.Balanced s) (h : s.Move t) :
    l.Balanced t := by
  cases h with
  | idle => exact hs
  | worker move =>
    rw [Balanced, Consumption.note_consumer, move.frame.2.2.1]
    exact hs.imp_right fun hs => hs.note (law.worker move)
  | own move =>
    obtain hdropped | hs := hs
    · exact absurd hdropped move.not_over.2
    · right
      rw [Consumption.note_consumer]
      exact hs.note (law.own move)
  | fire token =>
    have hfire : l.Accounts [.fired token] (l.held s.consumer) (l.held s.consumer) := by
      intro p
      simp [law.fire token]
    change s.consumer.phase = _ ∨ _ at hs
    change (s.note s.consumer [.fired token]).consumer.phase = _ ∨
      l.Accounts (s.note s.consumer [.fired token]).record []
        (l.held (s.note s.consumer [.fired token]).consumer)
    rw [Consumption.note_consumer]
    exact hs.imp_right fun hs => hs.note hfire
  | drop =>
    rw [Balanced, Consumption.note_consumer]
    obtain ⟨e, -, hdrop⟩ | hdropped := s.consumer.drop_cases
    · rw [hdrop]
      have hnone : l.Accounts [] (l.held s.consumer) (l.held s.consumer) := fun p => rfl
      exact hs.imp_right fun hs => hs.note hnone
    · exact .inl hdropped

theorem Lawful.run_balanced (law : l.Lawful) (events : List ConsumerEvent) {s : Consumption}
    (hs : l.Balanced s) : l.Balanced (s.run events) :=
  Consumption.run_induction (fun _ _ hs h => hs.move law h) events hs

/-- When a consumer has returned and nothing is held any more, all that was taken was given. -/
lemma Balanced.perm_of_returned {s : Consumption} {e : HubError} (hs : l.Balanced s)
    (phase : s.consumer.phase = .returned e) (own : l.heldOwn (.returned e) = [])
    (workers : ∀ w ∈ s.consumer.workers, l.heldByWorker w = none) :
    (s.record.filterMap l.taken).Perm (s.record.filterMap l.given) := by
  have hheld : l.held s.consumer = [] := by
    rw [held, phase, own, List.nil_append, List.filterMap_eq_nil_iff]
    exact workers
  obtain hdropped | haccounts := hs
  · cases phase.symm.trans hdropped
  · simpa [hheld] using haccounts.perm

end Ledger
end DeviceHub.EventHub
