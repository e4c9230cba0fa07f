import DeviceHub.Proofs.Connections

/-!
How many connections are stored in `connected`.  What happens to it is recorded; a record says when
a stored connection stops being the one in use, and a run keeps to the order that records have.  A
second connection is stored without a close of the first only if its connect had begun before.
-/
namespace DeviceHub.Mqtt.Transport

/-- What `connected` allows next, after a record: a connect begins while it is empty, what is stored
was begun, and a close takes what is stored. -/
inductive Allows (record : List Use) : Option Nat → Use → Option Nat → Prop
  | opened (i n : Nat) : Allows record none (.opened i n) none
  | stored {current i n} (began : .opened i n ∈ record) :
      Allows record current (.stored i n) (some n)
  | taken (i n : Nat) : Allows record (some n) (.taken i n) none
  | told (current : Option Nat) (i n : Nat) : Allows record current (.told i n) current

/-- Records in an order that `connected` allows, and what it holds after them. -/
inductive Ordered : List Use → Option Nat → Prop
  | nil : Ordered [] none
  | concat {record current use next} (h : Ordered record current)
      (allows : Allows record current use next) : Ordered (record ++ [use]) next

/-- Something is stored later that had begun before. -/
def Replaced (before after : List Use) : Prop :=
  ∃ j m, .opened j m ∈ before ∧ .stored j m ∈ after

def Ousted (n : Nat) (before after : List Use) : Prop :=
  (∃ k, .taken k n ∈ after) ∨ Replaced before after

lemma Ousted.append {n : Nat} {before after : List Use} (h : Ousted n before after)
    (more : List Use) : Ousted n before (after ++ more) := by
  obtain ⟨k, taken⟩ | ⟨j, m, began, stored⟩ := h
  · exact .inl ⟨k, List.mem_append_left _ taken⟩
  · exact .inr ⟨j, m, began, List.mem_append_left _ stored⟩

/-- A place in a longer list is its end, or a place in the list. -/
lemma concat_eq_split {α : Type} {l before after : List α} {a b : α}
    (h : l ++ [a] = before ++ b :: after) :
    (a = b ∧ l = before ∧ after = []) ∨
      ∃ rest, after = rest ++ [a] ∧ l = before ++ b :: rest := by
  induction after using List.reverseRecOn with
  | nil =>
    obtain ⟨rfl, hlast⟩ := List.append_inj' h rfl
    exact .inl ⟨(List.cons.inj hlast).1, rfl, rfl⟩
  | append_singleton rest x =>
    rw [← List.cons_append, ← List.append_assoc] at h
    obtain ⟨rfl, hlast⟩ := List.append_inj' h rfl
    exact .inr ⟨rest, by rw [(List.cons.inj hlast).1], rfl⟩

section Ordered

variable {record before after : List Use} {current : Option Nat} {i n : Nat}

lemma Ordered.of_prefix (h : Ordered record current) (hpre : before <+: record) :
    ∃ current, Ordered before current := by
  induction h with
  | nil => exact ⟨none, List.prefix_nil.1 hpre ▸ .nil⟩
  | concat h allows ih =>
    obtain rfl | hpre := List.prefix_concat_iff.1 hpre
    · exact ⟨_, h.concat allows⟩
    · exact ih hpre

/-- A stored connection stays while nothing happens but that loops are told to stop; then a close
takes it, or a connect that had begun before stores another. -/
lemma Ordered.after_stored (h : Ordered record current)
    (split : record = before ++ .stored i n :: after) :
    (current = some n ∧ ∀ use ∈ after, ∃ k m, use = .told k m) ∨ Ousted n before after := by
  induction h generalizing after with
  | nil => simp at split
  | concat h allows ih =>
    obtain ⟨rfl, rfl, rfl⟩ | ⟨rest, rfl, hrest⟩ := concat_eq_split split
    · cases allows with
      | stored => exact .inl ⟨rfl, by simp⟩
    · obtain ⟨rfl, htold⟩ | housted := ih hrest
      · cases allows with
        | @stored _ j m began =>
          -- its connect began while no connection was in use, so not since
          refine .inr (.inr ⟨j, m, ?_, by simp⟩)
          rw [hrest, List.mem_append, List.mem_cons] at began
          obtain hbefore | heq | hafter := began
          · exact hbefore
          · cases heq
          · obtain ⟨k, m', heq⟩ := htold _ hafter
            cases heq
        | taken k => exact .inr (.inl ⟨k, by simp⟩)
        | told _ k m =>
          refine .inl ⟨rfl, fun use huse => ?_⟩
          obtain huse | huse := List.mem_append.1 huse
          · exact htold use huse
          · exact ⟨k, m, List.mem_singleton.1 huse⟩
      · exact .inr (housted.append _)

lemma Ordered.began (h : Ordered record current)
    (split : record = before ++ .stored i n :: after) : .opened i n ∈ before := by
  induction h generalizing after with
  | nil => simp at split
  | concat h allows ih =>
    obtain ⟨rfl, rfl, -⟩ | ⟨rest, -, hrest⟩ := concat_eq_split split
    · cases allows with
      | stored began => exact began
    · exact ih hrest

/-- Between two connections that are stored a close takes the first, or a connect stores its own
that had begun before the first was stored. -/
lemma Ordered.between (h : Ordered record current) {between : List Use} {j m : Nat}
    (split : record = before ++ .stored i n :: (between ++ .stored j m :: after)) :
    (∃ k, .taken k n ∈ between) ∨ Replaced before (between ++ [.stored j m]) := by
  have hpre : before ++ .stored i n :: (between ++ [.stored j m]) <+: record := by
    rw [split]
    exact ⟨after, by simp⟩
  obtain ⟨_, hordered⟩ := h.of_prefix hpre
  obtain ⟨-, htold⟩ | ⟨k, htaken⟩ | hreplaced := hordered.after_stored rfl
  · obtain ⟨k, m', heq⟩ := htold (.stored j m) (by simp)
    cases heq
  · exact .inl ⟨k, by simpa using htaken⟩
  · exact .inr hreplaced

end Ordered

variable {δ : Type} {s : Transport δ} {event : TransportEvent δ} {events : List (TransportEvent δ)}
  {record : List Use} {i n : Nat} {c : Call δ}

def usesFrom (s : Transport δ) : List (TransportEvent δ) → List Use
  | [] => []
  | event :: events => (s.use? event).toList ++ (s.step event).usesFrom events

/-- What happened to `connected` of a new transport. -/
def uses (events : List (TransportEvent δ)) : List Use :=
  usesFrom {} events

lemma uses_append (events : List (TransportEvent δ)) (event : TransportEvent δ) :
    uses (events ++ [event]) = uses events ++ ((run events).use? event).toList := by
  have hfrom (s : Transport δ) : s.usesFrom (events ++ [event]) =
      s.usesFrom events ++ ((events.foldl step s).use? event).toList := by
    induction events generalizing s with
    | nil => simp [usesFrom]
    | cons first events ih => simp [usesFrom, ih]
  exact hfrom {}

/-- How far a call is that connects, by the record: it returns well once its connection is stored,
and not otherwise. -/
inductive Connects (record : List Use) (i : Nat) : Phase → Prop
  | starting : Connects record i .starting
  | confirming (n : Nat) : Connects record i (.confirming n)
  | ending (n : Nat) (e : HubError) : Connects record i (.ending n (.error e))
  | failed (e : HubError) : Connects record i (.returned (.error e))
  | returned {n : Nat} (stored : .stored i n ∈ record) : Connects record i (.returned (.ok .done))
  | dropped : Connects record i .dropped

lemma Connects.append {phase : Phase} (h : Connects record i phase) (more : List Use) :
    Connects (record ++ more) i phase := by
  cases h with
  | starting => exact .starting
  | confirming n => exact .confirming n
  | ending n e => exact .ending n e
  | failed e => exact .failed e
  | returned stored => exact .returned (List.mem_append_left _ stored)
  | dropped => exact .dropped

lemma Connects.course {options : Checked BrokerOptions} (h : Connects record i c.phase)
    (asks : c.request = .connect options) {phase : Phase} {current : Option Nat} {use : Option Use}
    (course : s.Course i c event phase current use) :
    Connects (record ++ use.toList) i phase := by
  cases course with
  | refuse => exact .failed _
  | panics => exact .dropped
  | opens => exact .confirming _
  | stores => exact .returned (List.mem_append_right _ List.mem_cons_self)
  | loses => exact .ending _ _
  | idles _ close => cases asks.symm.trans close
  | takes _ close => cases asks.symm.trans close
  | tells hands =>
    rw [hands] at h
    cases h
  | misses hands =>
    rw [hands] at h
    cases h
  | waits waits =>
    rw [waits] at h
    cases h
  | waited waits =>
    rw [waits] at h
    cases h
  | ends ends =>
    rw [ends] at h
    cases h
    exact .failed _
  | leaves => exact .dropped
  | other unsettled before starts =>
    generalize c.phase = old at h unsettled before starts
    cases h with
    | starting =>
      have hbound := starts rfl
      rw [asks] at hbound
      cases hbound
    | confirming | ending => cases before
    | failed | returned | dropped => simp [Phase.rank] at unsettled

/-- What a close comes to that has taken a connection: it wants to tell the loop, or was dropped
meanwhile, or has told it, or the loop is at its end. -/
def Parted (s : Transport δ) (record : List Use) (i n : Nat) : Prop :=
  (s.phase? i = some (.handing n .disconnect) ∨ s.phase? i = some .dropped) ∨
    .told i n ∈ record ∨ s.loop? n = some .finished

/-- How a record goes with a state. -/
structure Kept (s : Transport δ) (record : List Use) : Prop where
  ordered : Ordered record s.current
  began : ∀ i n, s.phase? i = some (.confirming n) → .opened i n ∈ record
  connects : ∀ i c options, s.calls[i]? = some c → c.request = .connect options →
    Connects record i c.phase
  past : ∀ i n, .opened i n ∈ record → ∃ c, s.calls[i]? = some c ∧ 0 < c.phase.rank
  once : ∀ i n m, .opened i n ∈ record → .opened i m ∈ record → n = m
  parted : ∀ i n, .taken i n ∈ record → s.Parted record i n

lemma Kept.ordered_step (h : s.Kept record) (event : TransportEvent δ) :
    Ordered (record ++ (s.use? event).toList) (s.step event).current := by
  have hsame : Ordered (record ++ (none : Option Use).toList) s.current := by
    simpa using h.ordered
  obtain ⟨⟨hcurrent, -⟩, huse⟩ | ⟨i, c, phase, hc, -, course⟩ := step_course s event
  · rw [hcurrent, huse]
    exact hsame
  · generalize s.use? event = use, (s.step event).current = current at course
    cases course with
    | opens _ _ free => exact (free ▸ h.ordered).concat (.opened i _)
    | stores confirms =>
      exact h.ordered.concat (.stored (h.began i _ (phase?_eq_some.2 ⟨c, hc, confirms⟩)))
    | takes _ _ used => exact (used ▸ h.ordered).concat (.taken i _)
    | tells => exact h.ordered.concat (.told _ i _)
    | _ => exact hsame

lemma Kept.began_step (h : s.Kept record)
    (hphase : (s.step event).phase? i = some (.confirming n)) :
    .opened i n ∈ record ++ (s.use? event).toList := by
  obtain ⟨c', hc', hphase⟩ := phase?_eq_some.1 hphase
  obtain hstarting | ⟨c, hc, -, hsame | course⟩ := step_call hc'
  · cases hphase.symm.trans hstarting
  · have hbefore : s.phase? i = some (.confirming n) :=
      phase?_eq_some.2 ⟨c, hc, hsame.symm.trans hphase⟩
    exact List.mem_append_left _ (h.began i n hbefore)
  · rw [hphase] at course
    generalize s.use? event = use, (s.step event).current = current at course
    cases course with
    | opens => exact List.mem_append_right _ List.mem_cons_self
    | other _ _ _ after => cases after

lemma Kept.connects_step (h : s.Kept record) {c' : Call δ} {options : Checked BrokerOptions}
    (hc' : (s.step event).calls[i]? = some c') (asks : c'.request = .connect options) :
    Connects (record ++ (s.use? event).toList) i c'.phase := by
  obtain hstarting | ⟨c, hc, hrequest, hsame | course⟩ := step_call hc'
  · rw [hstarting]
    exact .starting
  · rw [hsame]
    exact (h.connects i c options hc (hrequest.symm.trans asks)).append _
  · have hasks := hrequest.symm.trans asks
    exact (h.connects i c options hc hasks).course hasks course

lemma Kept.past_step (h : s.Kept record)
    (hopened : .opened i n ∈ record ++ (s.use? event).toList) :
    ∃ c, (s.step event).calls[i]? = some c ∧ 0 < c.phase.rank := by
  obtain hold | hnew := List.mem_append.1 hopened
  · obtain ⟨c, hc, hrank⟩ := h.past i n hold
    obtain ⟨c', hc', -, hrank'⟩ := (step_move s event).keeps hc
    exact ⟨c', hc', Nat.lt_of_lt_of_le hrank hrank'⟩
  · obtain ⟨-, huse⟩ | ⟨j, c, phase, hc, calls, course⟩ := step_course s event
    · simp [huse] at hnew
    · generalize s.use? event = use, (s.step event).current = current at hnew course
      cases course with
      | opens =>
        cases List.mem_singleton.1 hnew
        refine ⟨{ c with phase := .confirming s.connections.length }, ?_, Nat.zero_lt_one⟩
        rw [calls, List.getElem?_modify, hc]
        simp
      | _ => simp at hnew

lemma Kept.once_step (h : s.Kept record) {m : Nat}
    (hn : .opened i n ∈ record ++ (s.use? event).toList)
    (hm : .opened i m ∈ record ++ (s.use? event).toList) : n = m := by
  -- what begins a connection now has begun none before
  have hnew {n : Nat} (huse : s.use? event = some (.opened i n)) (m : Nat) :
      .opened i m ∉ record := by
    intro hm
    obtain ⟨c, hc, hrank⟩ := h.past i m hm
    obtain ⟨-, hnone⟩ | ⟨j, d, phase, hd, -, course⟩ := step_course s event
    · cases huse.symm.trans hnone
    · rw [huse] at course
      generalize (s.step event).current = current at course
      cases course with
      | opens starts =>
        obtain rfl := Option.some.inj (hc.symm.trans hd)
        simp [starts, Phase.rank] at hrank
  simp only [List.mem_append, Option.mem_toList] at hn hm
  obtain hn | hn := hn
  · obtain hm | hm := hm
    · exact h.once i n m hn hm
    · exact absurd hn (hnew hm n)
  · obtain hm | hm := hm
    · exact absurd hm (hnew hn m)
    · cases hn.symm.trans hm
      rfl

lemma Kept.parted_step (h : s.Kept record) (htaken : .taken i n ∈ record ++ (s.use? event).toList) :
    (s.step event).Parted (record ++ (s.use? event).toList) i n := by
  obtain hold | hnew := List.mem_append.1 htaken
  · obtain (hhands | hdropped) | htold | hfinished := h.parted i n hold
    · obtain ⟨c, hc, hphase⟩ := phase?_eq_some.1 hhands
      obtain ⟨c', hc', -, hsame | course⟩ := step_keeps event hc
      · exact .inl (.inl (phase?_eq_some.2 ⟨c', hc', hsame.trans hphase⟩))
      · generalize huse : s.use? event = use, (s.step event).current = current,
          hnext : c'.phase = next at course
        cases course with
        | tells hands =>
          cases hphase.symm.trans hands
          exact .inr (.inl (List.mem_append_right _ List.mem_cons_self))
        | misses hands finished =>
          cases hphase.symm.trans hands
          exact .inr (.inr (step_finished _ finished))
        | leaves => exact .inl (.inr (phase?_eq_some.2 ⟨c', hc', hnext⟩))
        | other _ before =>
          rw [hphase] at before
          cases before
        | refuse starts | panics starts | opens starts | idles starts | takes starts =>
          cases hphase.symm.trans starts
        | stores confirms | loses confirms => cases hphase.symm.trans confirms
        | waits waits | waited waits => cases hphase.symm.trans waits
        | ends ends => cases hphase.symm.trans ends
    · obtain ⟨c, hc, hphase⟩ := phase?_eq_some.1 hdropped
      obtain ⟨c', hc', -, hsame | course⟩ := step_keeps event hc
      · exact .inl (.inr (phase?_eq_some.2 ⟨c', hc', hsame.trans hphase⟩))
      · have hrank := course.unsettled
        simp [hphase, Phase.rank] at hrank
    · exact .inr (.inl (List.mem_append_left _ htold))
    · exact .inr (.inr (step_finished event hfinished))
  · obtain ⟨-, huse⟩ | ⟨j, c, phase, hc, calls, course⟩ := step_course s event
    · simp [huse] at hnew
    · have hphase := phase?_of_modify calls i
      generalize s.use? event = use, (s.step event).current = current at hnew course
      cases course with
      | takes =>
        cases List.mem_singleton.1 hnew
        refine .inl (.inl ?_)
        rw [hphase, phase?, hc]
        simp
      | _ => simp at hnew

lemma Kept.step (h : s.Kept record) (event : TransportEvent δ) :
    (s.step event).Kept (record ++ (s.use? event).toList) where
  ordered := h.ordered_step event
  began _ _ := h.began_step
  connects _ _ _ := h.connects_step
  past _ _ := h.past_step
  once _ _ _ := h.once_step
  parted _ _ := h.parted_step

lemma kept_run (events : List (TransportEvent δ)) : (run events).Kept (uses events) := by
  induction events using List.reverseRecOn with
  | nil =>
    have hnone (use : Use) : use ∉ uses ([] : List (TransportEvent δ)) := List.not_mem_nil
    exact ⟨.nil, by simp [run, phase?], by simp [run], fun _ _ h => absurd h (hnone _),
      fun _ _ _ h => absurd h (hnone _), fun _ _ h => absurd h (hnone _)⟩
  | append_singleton events event ih =>
    rw [run_append, uses_append]
    exact ih.step event

/-- A connection was replaced by one whose connect had begun before it was stored. -/
def Overtaken (events : List (TransportEvent δ)) (n : Nat) : Prop :=
  ∃ before i after, uses events = before ++ .stored i n :: after ∧ Replaced before after

/-- A close took a connection, and wants to tell its loop still or was dropped before. -/
def Stranded (events : List (TransportEvent δ)) (n : Nat) : Prop :=
  ∃ k, .taken k n ∈ uses events ∧
    ((run events).phase? k = some (.handing n .disconnect) ∨
      (run events).phase? k = some .dropped)

/-- Every connection that was stored is in `connected`, or its loop is told or at its end, or one of
two things happened to it. -/
lemma current_or_given_up (hstored : .stored i n ∈ uses events)
    (untold : ∀ k, .told k n ∉ uses events) (running : (run events).loop? n ≠ some .finished) :
    (run events).current = some n ∨ Overtaken events n ∨ Stranded events n := by
  have hkept := kept_run events
  obtain ⟨before, after, hsplit⟩ := List.append_of_mem hstored
  obtain ⟨hcurrent, -⟩ | ⟨k, htaken⟩ | hreplaced := hkept.ordered.after_stored hsplit
  · exact .inl hcurrent
  · have hmem : .taken k n ∈ uses events := by
      rw [hsplit]
      exact List.mem_append_right _ (List.mem_cons_of_mem _ htaken)
    obtain hleft | htold | hfinished := hkept.parted k n hmem
    · exact .inr (.inr ⟨k, hmem, hleft⟩)
    · exact absurd htold (untold k)
    · exact absurd hfinished running
  · exact .inr (.inl ⟨before, i, after, hsplit, hreplaced⟩)

/-- A connect returns well when its one connection is stored.  Between two connections that are
stored a close takes the first, or one is stored whose connect had begun before the first was.  Of
two loops whose connections were stored, are not at their end and were not told to stop, one was
overtaken in this way or a close took its connection and has not told it. -/
theorem second_connection_overtakes (events : List (TransportEvent δ)) :
    (∀ i c options answer, (run events).calls[i]? = some c → c.request = .connect options →
      c.phase = .returned (.ok answer) →
      ∃ n, .stored i n ∈ uses events ∧ ∀ m, .opened i m ∈ uses events → m = n) ∧
    (∀ before i n between j m after,
      uses events = before ++ .stored i n :: (between ++ .stored j m :: after) →
      (∃ k, .taken k n ∈ between) ∨
        ∃ j' m', .opened j' m' ∈ before ∧ .stored j' m' ∈ between ++ [.stored j m]) ∧
    ∀ i n j m, .stored i n ∈ uses events → .stored j m ∈ uses events → n ≠ m →
      (∀ k, .told k n ∉ uses events ∧ .told k m ∉ uses events) →
      (run events).loop? n ≠ some .finished → (run events).loop? m ≠ some .finished →
      (Overtaken events n ∨ Stranded events n) ∨ Overtaken events m ∨ Stranded events m := by
  have hkept := kept_run events
  refine ⟨fun i c options answer hc asks hphase => ?_, fun before i n between j m after split => ?_,
    fun i n j m hn hm hne untold hn' hm' => ?_⟩
  · have hconnects := hkept.connects i c options hc asks
    rw [hphase] at hconnects
    cases hconnects with
    | @returned n stored =>
      obtain ⟨before, after, split⟩ := List.append_of_mem stored
      have hopened : .opened i n ∈ uses events := by
        rw [split]
        exact List.mem_append_left _ (hkept.ordered.began split)
      exact ⟨n, stored, fun m hm => hkept.once i m n hm hopened⟩
  · exact hkept.ordered.between split
  · obtain hcurrent | hgiven := current_or_given_up hn (fun k => (untold k).1) hn'
    · obtain hcurrent' | hgiven := current_or_given_up hm (fun k => (untold k).2) hm'
      · exact absurd (Option.some.inj (hcurrent.symm.trans hcurrent')) hne
      · exact .inr hgiven
    · exact .inl hgiven

def someOptions : Checked BrokerOptions :=
  .ok ⟨"d", "h", 8883, "u", "p", 60, .systemRoots⟩

/-- Two connects begin before either connection is confirmed. -/
def overlapping : List (TransportEvent Unit) :=
  [.start (.connect someOptions), .start (.connect someOptions), .resume 0 "", .resume 1 "",
    .report 0 (.acknowledged .success), .report 1 (.acknowledged .success), .resume 0 "",
    .resume 1 ""]

theorem second_connection_overtakes_of_overlapping :
    (∃ n, .stored 1 n ∈ uses overlapping ∧ ∀ m, .opened 1 m ∈ uses overlapping → m = n) ∧
    (∃ j m, .opened j m ∈ [Use.opened 0 0, .opened 1 1] ∧ .stored j m ∈ [Use.stored 1 1]) ∧
    ((Overtaken overlapping 0 ∨ Stranded overlapping 0) ∨
      Overtaken overlapping 1 ∨ Stranded overlapping 1) := by
  have huses : uses overlapping = [.opened 0 0, .opened 1 1, .stored 0 0, .stored 1 1] := rfl
  obtain ⟨hreturned, hbetween, hloops⟩ := second_connection_overtakes overlapping
  refine ⟨hreturned 1 ⟨.connect someOptions, .returned (.ok .done), none⟩ someOptions .done rfl rfl
    rfl, ?_, hloops 0 0 1 1 ?_ ?_ (by decide) (fun k => ⟨?_, ?_⟩) ?_ ?_⟩
  · obtain ⟨k, hmem⟩ | hreplaced := hbetween [.opened 0 0, .opened 1 1] 0 0 [] 1 1 [] rfl
    · cases hmem
    · exact hreplaced
  · simp [huses]
  · simp [huses]
  · simp [huses]
  · simp [huses]
  · exact fun h => nomatch (h : some Loop.running = some .finished)
  · exact fun h => nomatch (h : some Loop.running = some .finished)

/-- Both connects return well though nobody closes, and both loops run on, not told to stop. -/
theorem connected_twice :
    uses overlapping = [.opened 0 0, .opened 1 1, .stored 0 0, .stored 1 1] ∧
    (run overlapping).phase? 0 = some (.returned (.ok .done)) ∧
    (run overlapping).phase? 1 = some (.returned (.ok .done)) ∧
    (run overlapping).connections =
      [{ deviceId := "d", standing := .connected }, { deviceId := "d", standing := .connected }] :=
  ⟨rfl, rfl, rfl, rfl⟩

/-- A close goes away when it has taken the connection, and another connect begins after that. -/
def closeDropped : List (TransportEvent Unit) :=
  [.start (.connect someOptions), .resume 0 "", .report 0 (.acknowledged .success), .resume 0 "",
    .start .close, .resume 1 "", .drop 1, .start (.connect someOptions), .resume 2 "",
    .report 1 (.acknowledged .success), .resume 2 ""]

/-- Without connects that overlap, the loop of a dropped close runs on beside the next. -/
example : Stranded closeDropped 0 ∧ (run closeDropped).connections =
    [{ deviceId := "d", standing := .connected }, { deviceId := "d", standing := .connected }] :=
  ⟨⟨1, by decide, .inr rfl⟩, rfl⟩

end DeviceHub.Mqtt.Transport
