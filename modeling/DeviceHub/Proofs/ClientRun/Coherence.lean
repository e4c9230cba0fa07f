import DeviceHub.Proofs.ClientRun
import Mathlib.Data.List.Nodup

/-!
What holds of a `Client` at any moment.  The `Lifecycle` lock and those who wait for it are the
calls of `connect` and `close` under way, each once; whoever is at a transition has the lock; and
the links are closed exactly when the client is.
-/
namespace DeviceHub

namespace Lock

variable {l : Lock} {i j : Nat}

/-- Who has the lock and who waits for it, in the order of asking. -/
def queue (l : Lock) : List Nat :=
  l.holder.toList ++ l.waiting

lemma queue_ask (i : Nat) (served : l.holder = none → l.waiting = []) :
    (l.ask i).queue = l.queue ++ [i] := by
  cases hholder : l.holder with
  | none => simp [ask, queue, hholder, served hholder]
  | some j => simp [ask, queue, hholder]

lemma queue_leave (l : Lock) (i : Nat) : (l.leave i).queue = l.queue.erase i := by
  cases hholder : l.holder with
  | none => simp [leave, queue, hholder]
  | some j =>
    by_cases hij : j = i
    · cases hwaiting : l.waiting <;> simp [leave, queue, hij, hwaiting, hholder]
    · simp [leave, queue, hholder, hij]

lemma served_leave (i : Nat) (served : l.holder = none → l.waiting = []) :
    (l.leave i).holder = none → (l.leave i).waiting = [] := by
  unfold leave
  split
  · exact fun h => by simp_all
  · exact fun h => by simp [served h]

lemma holder_ask_ne_none (l : Lock) (i : Nat) : (l.ask i).holder ≠ none := by
  cases hholder : l.holder <;> simp [ask, hholder]

lemma holder_ask (h : l.holder = some j) (i : Nat) : (l.ask i).holder = some j := by
  simp [ask, h]

lemma holder_leave (h : l.holder ≠ some i) : (l.leave i).holder = l.holder := by
  simp [leave, h]

end Lock

namespace Client

variable {s t u : Client} {i j : Nat} {c : Call} {phase : Phase}

lemma getElem?_setPhase_self (call : s.calls[i]? = some c) (phase : Phase) :
    (s.setPhase i phase).calls[i]? = some { c with phase } := by
  simp [setPhase, call]

lemma getElem?_setPhase_ne (h : j ≠ i) (phase : Phase) (s : Client) :
    (s.setPhase i phase).calls[j]? = s.calls[j]? := by
  simp [setPhase, h.symm]

/-- A call wants the lock, or has it. -/
def Wants (s : Client) (i : Nat) : Prop :=
  ∃ c, s.calls[i]? = some c ∧ c.phase.isUnderLock = true

lemma eq_of_setPhase {c' : Call} (call : s.calls[i]? = some c)
    (call' : (s.setPhase i phase).calls[j]? = some c') :
    (j = i ∧ c' = { c with phase }) ∨ (j ≠ i ∧ s.calls[j]? = some c') := by
  by_cases hji : j = i
  · subst hji
    exact .inl ⟨rfl, Option.some.inj (call'.symm.trans (getElem?_setPhase_self call phase))⟩
  · exact .inr ⟨hji, (getElem?_setPhase_ne hji phase s).symm.trans call'⟩

lemma wants_setPhase (call : s.calls[i]? = some c) :
    (s.setPhase i phase).Wants j ↔
      if j = i then phase.isUnderLock = true else s.Wants j := by
  split
  next hji => simp [Wants, hji, getElem?_setPhase_self call phase]
  next hji => simp only [Wants, getElem?_setPhase_ne hji phase s]

lemma getElem?_append_cases {calls : List Call} {c' : Call}
    (call : (calls ++ [c])[j]? = some c') :
    calls[j]? = some c' ∨ j = calls.length ∧ c' = c := by
  grind

lemma wants_append (lock : Lock) :
    { s with calls := s.calls ++ [c], lock }.Wants j ↔
      s.Wants j ∨ j = s.calls.length ∧ c.phase.isUnderLock = true := by
  constructor
  · rintro ⟨c', call, under⟩
    obtain hcall | ⟨rfl, rfl⟩ := getElem?_append_cases call
    · exact .inl ⟨c', hcall, under⟩
    · exact .inr ⟨rfl, under⟩
  · rintro (⟨c', call, under⟩ | ⟨rfl, under⟩)
    · exact ⟨c', by grind, under⟩
    · exact ⟨c, by simp, under⟩

structure Coherent (s : Client) : Prop where
  served : s.lock.holder = none → s.lock.waiting = []
  nodup : s.lock.queue.Nodup
  queue (i : Nat) : i ∈ s.lock.queue ↔ s.Wants i
  connecting {i : Nat} {c : Call} : s.calls[i]? = some c → c.phase = .connecting →
    s.lock.holder = some i ∧ c.request = .connect ∧ s.state = .unready
  closing {i : Nat} {c : Call} : s.calls[i]? = some c → c.phase = .closing →
    s.lock.holder = some i ∧ c.request = .close ∧ s.state = .closed
  operating {i : Nat} {c : Call} {operation : Operation} : s.calls[i]? = some c →
    c.phase = .operating operation → operation.isData = true
  closed (link : SharedLink) : s.closed? link = if s.state = .closed then some .closed else none

namespace Coherent

lemma keeps (h : s.Coherent) (k : s.Keeps u) : u.Coherent where
  served := by simpa only [k.lock] using h.served
  nodup := by simpa only [k.lock] using h.nodup
  queue i := by simpa only [k.lock, Wants, k.calls] using h.queue i
  connecting call := by
    rw [k.calls] at call
    simpa only [k.lock, k.state] using h.connecting call
  closing call := by
    rw [k.calls] at call
    simpa only [k.lock, k.state] using h.closing call
  operating call := by
    rw [k.calls] at call
    exact h.operating call
  closed link := by simpa only [k.closed, k.state] using h.closed link

lemma setPhase (h : s.Coherent) (call : s.calls[i]? = some c)
    (under : phase.isUnderLock = c.phase.isUnderLock)
    (connecting : phase = .connecting →
      s.lock.holder = some i ∧ c.request = .connect ∧ s.state = .unready)
    (closing : phase = .closing →
      s.lock.holder = some i ∧ c.request = .close ∧ s.state = .closed)
    (operating : ∀ operation, phase = .operating operation → operation.isData = true) :
    (s.setPhase i phase).Coherent where
  served := h.served
  nodup := h.nodup
  queue j := by
    refine (h.queue j).trans ((wants_setPhase call).trans ?_).symm
    split
    next hji => simp [under, Wants, hji, call]
    next => rfl
  connecting call' hphase := by
    obtain ⟨rfl, rfl⟩ | ⟨-, hcall⟩ := eq_of_setPhase call call'
    · exact connecting hphase
    · exact h.connecting hcall hphase
  closing call' hphase := by
    obtain ⟨rfl, rfl⟩ | ⟨-, hcall⟩ := eq_of_setPhase call call'
    · exact closing hphase
    · exact h.closing hcall hphase
  operating call' hphase := by
    obtain ⟨rfl, rfl⟩ | ⟨-, hcall⟩ := eq_of_setPhase call call'
    · exact operating _ hphase
    · exact h.operating hcall hphase
  closed := h.closed

lemma setPhase_of_free (h : s.Coherent) (call : s.calls[i]? = some c)
    (free : c.phase.isUnderLock = false)
    (next : phase.isUnderway = true ∨ phase.isOver = true) : (s.setPhase i phase).Coherent := by
  have hfree : phase.isUnderLock = false :=
    next.elim Phase.isUnderLock_of_isUnderway Phase.isUnderLock_of_isOver
  refine h.setPhase call (hfree.trans free.symm) (fun hphase => ?_) (fun hphase => ?_)
    fun operation hphase => ?_
  · simp [hphase, Phase.isUnderLock] at hfree
  · simp [hphase, Phase.isUnderLock] at hfree
  · simpa [hphase, Phase.isUnderway, Phase.isOver] using next

/-- Nobody but the holder of the lock is at a transition. -/
lemma eq_of_holder {c' : Call} (h : s.Coherent) (holds : s.lock.holder = some i)
    (call : s.calls[j]? = some c') (acts : c'.phase = .connecting ∨ c'.phase = .closing) :
    j = i := by
  obtain hphase | hphase := acts
  · exact Option.some.inj ((h.connecting call hphase).1.symm.trans holds)
  · exact Option.some.inj ((h.closing call hphase).1.symm.trans holds)

/-- Who lets go of the lock, or of the wish for it, is out of the queue. -/
lemma letGo (h : s.Coherent) (call : s.calls[i]? = some c) (quits : phase.isOver = true) :
    ((s.unlock i).setPhase i phase).Coherent := by
  have hfree := Phase.isUnderLock_of_isOver quits
  have hcall : (s.unlock i).calls[i]? = some c := call
  have hholder {j : Nat} (hji : j ≠ i) (holds : s.lock.holder = some j) :
      (s.lock.leave i).holder = some j :=
    (Lock.holder_leave fun h' => hji (Option.some.inj (holds.symm.trans h'))).trans holds
  refine ⟨Lock.served_leave i h.served, ?_, fun j => ?_, fun call' hphase => ?_,
    fun call' hphase => ?_, fun call' hphase => ?_, h.closed⟩
  · exact (Lock.queue_leave s.lock i).symm ▸ h.nodup.erase i
  · change j ∈ (s.lock.leave i).queue ↔ _
    rw [Lock.queue_leave, h.nodup.mem_erase_iff, wants_setPhase hcall, h.queue]
    by_cases hji : j = i <;> simp [hji, hfree, Wants, unlock]
  · obtain ⟨rfl, rfl⟩ | ⟨hji, hcall'⟩ := eq_of_setPhase hcall call'
    · simp_all [Phase.isOver]
    · obtain ⟨hholds, hrest⟩ := h.connecting hcall' hphase
      exact ⟨hholder hji hholds, hrest⟩
  · obtain ⟨rfl, rfl⟩ | ⟨hji, hcall'⟩ := eq_of_setPhase hcall call'
    · simp_all [Phase.isOver]
    · obtain ⟨hholds, hrest⟩ := h.closing hcall' hphase
      exact ⟨hholder hji hholds, hrest⟩
  · obtain ⟨rfl, rfl⟩ | ⟨hji, hcall'⟩ := eq_of_setPhase hcall call'
    · simp_all [Phase.isOver]
    · exact h.operating hcall' hphase

/-- Once nobody is at a transition the state may be another, the links being closed or not with
it. -/
lemma ofState (h : s.Coherent) (lock : u.lock = s.lock) (calls : u.calls = s.calls)
    (quiet : ∀ {j : Nat} {c' : Call}, s.calls[j]? = some c' →
      c'.phase ≠ .connecting ∧ c'.phase ≠ .closing)
    (closed : ∀ link, u.closed? link = if u.state = .closed then some .closed else none) :
    u.Coherent where
  served := by simpa only [lock] using h.served
  nodup := by simpa only [lock] using h.nodup
  queue j := by simpa only [lock, Wants, calls] using h.queue j
  connecting call hphase := absurd hphase (quiet (calls ▸ call)).1
  closing call hphase := absurd hphase (quiet (calls ▸ call)).2
  operating call hphase := h.operating (calls ▸ call) hphase
  closed := closed

/-- While its holder has not looked at the state nobody is at a transition. -/
lemma quiet (h : s.Coherent) (holds : s.lock.holder = some i) (call : s.calls[i]? = some c)
    (waits : c.phase = .awaitingLock) {c' : Call} (call' : s.calls[j]? = some c') :
    c'.phase ≠ .connecting ∧ c'.phase ≠ .closing := by
  have hne (acts : c'.phase = .connecting ∨ c'.phase = .closing) : False := by
    obtain rfl := h.eq_of_holder holds call' acts
    cases Option.some.inj (call'.symm.trans call)
    simp [waits] at acts
  exact ⟨fun hphase => hne (.inl hphase), fun hphase => hne (.inr hphase)⟩

lemma append (h : s.Coherent) {lock : Lock}
    (begins : c.phase = .awaitingReady ∧ lock = s.lock ∨
      c.phase = .awaitingLock ∧ lock = s.lock.ask s.calls.length) :
    { s with calls := s.calls ++ [c], lock }.Coherent := by
  have hfresh : s.calls.length ∉ s.lock.queue := by simp [h.queue, Wants]
  have hholder {j : Nat} (holds : s.lock.holder = some j) : lock.holder = some j := by
    obtain ⟨-, rfl⟩ | ⟨-, rfl⟩ := begins
    · exact holds
    · exact Lock.holder_ask holds _
  have hbegins : c.phase ≠ .connecting ∧ c.phase ≠ .closing ∧
      ∀ operation, c.phase ≠ .operating operation := by
    obtain ⟨hphase, -⟩ | ⟨hphase, -⟩ := begins <;> simp [hphase]
  refine ⟨?_, ?_, fun j => ?_, fun call hphase => ?_, fun call hphase => ?_,
    fun call hphase => ?_, h.closed⟩
  · obtain ⟨-, rfl⟩ | ⟨-, rfl⟩ := begins
    · exact h.served
    · exact fun hnone => absurd hnone (Lock.holder_ask_ne_none _ _)
  · obtain ⟨-, rfl⟩ | ⟨-, rfl⟩ := begins
    · exact h.nodup
    · simpa [Lock.queue_ask _ h.served, List.nodup_append, h.nodup]
        using fun j hj => ne_of_mem_of_not_mem hj hfresh
  · rw [wants_append, ← h.queue]
    obtain ⟨hphase, rfl⟩ | ⟨hphase, rfl⟩ := begins
    · simp [hphase, Phase.isUnderLock]
    · simp [Lock.queue_ask _ h.served, hphase, Phase.isUnderLock]
  · obtain hcall | ⟨-, rfl⟩ := getElem?_append_cases call
    · exact ⟨hholder (h.connecting hcall hphase).1, (h.connecting hcall hphase).2⟩
    · exact absurd hphase hbegins.1
  · obtain hcall | ⟨-, rfl⟩ := getElem?_append_cases call
    · exact ⟨hholder (h.closing hcall hphase).1, (h.closing hcall hphase).2⟩
    · exact absurd hphase hbegins.2.1
  · obtain hcall | ⟨-, rfl⟩ := getElem?_append_cases call
    · exact h.operating hcall hphase
    · exact absurd hphase (hbegins.2.2 _)

/-- The client becomes ready as its connect leaves. -/
lemma connected (h : s.Coherent) (call : s.calls[i]? = some c) (connects : c.phase = .connecting) :
    (({ s with state := .ready }.unlock i).finish i (.ok .done)).Coherent := by
  obtain ⟨holds, -, unready⟩ := h.connecting call connects
  have hleft : ((s.unlock i).finish i (.ok .done)).Coherent := h.letGo call rfl
  refine hleft.ofState rfl rfl (fun {j c'} call' => ?_) fun link => ?_
  · -- whoever else is at a transition would have the lock as well
    have hne (acts : c'.phase = .connecting ∨ c'.phase = .closing) : False := by
      obtain ⟨rfl, rfl⟩ | ⟨hji, hcall⟩ := eq_of_setPhase (s := s.unlock i) call call'
      · simp at acts
      · exact hji (h.eq_of_holder holds hcall acts)
    exact ⟨fun hphase => hne (.inl hphase), fun hphase => hne (.inr hphase)⟩
  · have hlink := h.closed link
    simp only [unready, reduceCtorEq, if_false] at hlink
    exact hlink

lemma closeAll (h : s.Coherent) (opened : s.state ≠ .closed)
    (quiet : ∀ {j : Nat} {c' : Call}, s.calls[j]? = some c' →
      c'.phase ≠ .connecting ∧ c'.phase ≠ .closing) :
    ({ s with state := .closed }.closeLinks).Coherent := by
  refine h.ofState rfl rfl quiet fun link => ?_
  have hlink := h.closed link
  simp only [opened, if_false] at hlink
  cases link <;> simp_all [closed?, closeLinks, Multiplexer.close]

theorem move {event : ClientEvent} (h : s.Coherent) (m : s.Move event t) : t.Coherent := by
  cases m with
  | idle => exact h
  | wait data => exact h.append (.inl ⟨rfl, rfl⟩)
  | ask transition => exact h.append (.inr ⟨rfl, rfl⟩)
  | connect call phase holds request unready =>
    exact h.setPhase call (by rw [phase]; rfl) (fun _ => ⟨holds, request, unready⟩) nofun nofun
  | close call phase holds request opened =>
    have hquiet {j : Nat} {c' : Call} (call' : s.calls[j]? = some c') :=
      h.quiet holds call phase call'
    exact (h.closeAll opened hquiet).setPhase call (by rw [phase]; rfl) nofun
      (fun _ => ⟨holds, request, rfl⟩) nofun
  | connected call phase => exact h.connected call phase
  | letGo own call under quits => exact h.letGo call quits
  | refuse call phase closed => exact h.setPhase_of_free call (by rw [phase]; rfl) (.inr rfl)
  | begin call waits ready begun =>
    refine h.setPhase_of_free call (by rw [waits]; rfl) ?_
    exact begun.imp_right fun ⟨_, hphase⟩ => by rw [hphase]; rfl
  | settle own call sets needs keeps settled late =>
    refine (h.keeps keeps).setPhase_of_free (keeps.calls ▸ call) (by rw [sets]; rfl) ?_
    obtain ⟨_, rfl⟩ | ⟨_, rfl⟩ := settled
    · exact .inl rfl
    · exact .inr rfl
  | reply call phase => exact h.setPhase_of_free call (by rw [phase]; rfl) (.inr rfl)
  | cancel call free fired cancellable keeps =>
    exact (h.keeps keeps).setPhase_of_free (keeps.calls ▸ call) free (.inr rfl)
  | drop call free going keeps =>
    exact (h.keeps keeps).setPhase_of_free (keeps.calls ▸ call) free (.inr rfl)
  | fire token => exact ⟨h.served, h.nodup, h.queue, h.connecting, h.closing, h.operating, h.closed⟩
  | receive nobody keeps => exact h.keeps keeps

end Coherent

theorem coherent_run (events : List ClientEvent) : (run events).Coherent := by
  induction events using List.reverseRecOn with
  | nil =>
    exact ⟨fun _ => rfl, by decide, fun i => by simp [run, Wants, Lock.queue], by nofun, by nofun,
      by nofun, fun link => by cases link <;> rfl⟩
  | append_singleton events event ih =>
    rw [run_append]
    exact ih.move (step_move _ event)

theorem run_move (events : List ClientEvent) (event : ClientEvent) :
    (run events).Move event (run (events ++ [event])) := by
  rw [run_append]
  exact step_move _ event

end Client
end DeviceHub
