import DeviceHub.Proofs.TwinRequests

/-!
The entries that `twin_request` makes under its request ids, the calls they lead to and the
responses that calls have got.  An invariant holds between them over every run: an entry leads to a
call that waits, and a call that waits has its entry.
-/
namespace DeviceHub.Mqtt.Transport

variable {δ : Type} {s t : Transport δ} {event : TransportEvent δ}
  {events : List (TransportEvent δ)} {i j : Nat} {c c' : Call δ} {id : String}

/-- What a move makes of a call that there was. -/
inductive Fate (s t : Transport δ) (event : TransportEvent δ) (i : Nat) (c : Call δ) :
    Call δ → Prop
  | same : Fate s t event i c c
  | turned {phase} (turn : s.Turn i c event phase t.pending) : Fate s t event i c { c with phase }
  | answered {r} (brings : s.Brings event r) (entry : s.pending.find? r.requestId = some i) :
    Fate s t event i c { c with response := some (.ok r) }
  | failed {id reason} (entry : (id, i) ∈ s.pending) :
    Fate s t event i c { c with response := some (.error (.transport reason)) }

/-- All that have an entry fail, and only they. -/
lemma getElem?_failPending (s : Transport δ) (reason : String) (i : Nat) :
    (s.failPending reason).calls[i]? = s.calls[i]?.map fun c =>
      if i ∈ s.pending.map Prod.snd then
        { c with response := some (.error (.transport reason)) } else c := by
  have hfold (entries : KeyMap Nat) (calls : List (Call δ)) :
      (entries.foldl (fun calls entry => calls.modify entry.2 fun c =>
        { c with response := some (.error (.transport reason)) }) calls)[i]? =
      calls[i]?.map fun c => if i ∈ entries.map Prod.snd then
        { c with response := some (.error (.transport reason)) } else c := by
    induction entries generalizing calls with
    | nil => simp
    | cons entry entries ih =>
      rw [List.foldl_cons, ih, List.getElem?_modify]
      cases calls[i]? with
      | none => rfl
      | some c =>
        by_cases hi : entry.2 = i <;> grind
  exact hfold s.pending s.calls

lemma Move.fate (m : s.Move event t) (hc : t.calls[i]? = some c') :
    (∃ request, event = .start request ∧ i = s.calls.length ∧ c' = { request }) ∨
      ∃ c, s.calls[i]? = some c ∧ Fate s t event i c c' := by
  cases m with
  | still calls => exact .inr ⟨c', calls ▸ hc, .same⟩
  | start request =>
    obtain hlt | hge := Nat.lt_or_ge i s.calls.length
    · rw [List.getElem?_append_left hlt] at hc
      exact .inr ⟨c', hc, .same⟩
    · rw [List.getElem?_append_right hge] at hc
      rw [List.getElem?_singleton, Option.ite_none_right_eq_some] at hc
      exact .inl ⟨request, rfl, by omega, (Option.some.inj hc.2).symm⟩
  | @turn _ _ j c phase call turn calls loops =>
    rw [calls, List.getElem?_modify] at hc
    obtain ⟨d, hd, hc⟩ := Option.map_eq_some_iff.1 hc
    right
    refine ⟨d, hd, ?_⟩
    by_cases hj : j = i
    · subst hj
      rw [call] at hd
      cases hd
      rw [← hc, if_pos rfl]
      exact .turned turn
    · rw [← hc, if_neg hj]
      exact .same
  | @complete _ _ j r brings entry calls pending loops =>
    rw [calls, List.getElem?_modify] at hc
    obtain ⟨d, hd, hc⟩ := Option.map_eq_some_iff.1 hc
    right
    refine ⟨d, hd, ?_⟩
    by_cases hj : j = i
    · subst hj
      rw [← hc, if_pos rfl]
      exact .answered brings entry
    · rw [← hc, if_neg hj]
      exact .same
  | @fail n _ reason left calls pending loop others =>
    rw [calls, getElem?_failPending] at hc
    obtain ⟨d, hd, hc⟩ := Option.map_eq_some_iff.1 hc
    right
    refine ⟨d, hd, ?_⟩
    rw [← hc]
    split
    next hmem =>
      obtain ⟨⟨id, j⟩, hentry, rfl⟩ := List.mem_map.1 hmem
      exact .failed hentry
    · exact .same
  | finish drained calls => exact .inr ⟨c', calls ▸ hc, .same⟩

lemma Move.fate_of_call (m : s.Move event t) (hc : s.calls[i]? = some c)
    (hc' : t.calls[i]? = some c') : Fate s t event i c c' := by
  obtain ⟨request, -, rfl, -⟩ | ⟨d, hd, fate⟩ := m.fate hc'
  · rw [List.getElem?_eq_none (Nat.le_refl _)] at hc
    cases hc
  · obtain rfl := Option.some.inj (hd.symm.trans hc)
    exact fate

lemma Turn.further {phase : Phase} {pending : KeyMap Nat} (turn : s.Turn i c event phase pending) :
    c.phase.rank < phase.rank := by
  cases turn with
  | plain _ _ further => exact further
  | approach _ _ _ further => exact further
  | leave entered => exact (Phase.rank_of_id? entered).2
  | _ => simp_all [Phase.rank]

/-- What a turn makes of the entries.  It leaves them, and its call under the id it was under; or it
makes one for its call; or its call is done waiting, and its entry erased. -/
inductive Turn.Edits (s : Transport δ) (i : Nat) (c : Call δ) :
    TransportEvent δ → Phase → KeyMap Nat → Prop
  | keeps {event phase} (same : phase.id? = c.phase.id?) : Edits s i c event phase s.pending
  | inserts {n id phase} (enters : c.phase = .entering n) (after : phase.id? = some id) :
      Edits s i c (.resume i id) phase (s.pending.insert id i)
  | erases {event id phase} (before : c.phase.id? = some id) (after : phase.id? = none) :
      Edits s i c event phase (s.pending.erase id)

lemma Turn.edits {phase : Phase} {pending : KeyMap Nat} (turn : s.Turn i c event phase pending) :
    Turn.Edits s i c event phase pending := by
  cases turn with
  | plain before after =>
    obtain hplain | ⟨hstarting, -⟩ := before
    · exact .keeps (after.trans (Phase.id?_of_isPlain hplain).symm)
    · exact .keeps (by rw [after, hstarting]; rfl)
  | approach before _ after => exact .keeps (after.trans before.symm)
  | enter enters => exact .inserts enters rfl
  | take asks => exact .keeps (by rw [asks]; rfl)
  | refuse asks => exact .erases (by rw [asks]; rfl) rfl
  | answer waits => exact .erases (by rw [waits]; rfl) rfl
  | lose waits => exact .erases (by rw [waits]; rfl) rfl
  | leave entered => exact .erases entered rfl

lemma Move.length_le (m : s.Move event t) : s.calls.length ≤ t.calls.length := by
  cases m with
  | still calls | finish _ calls => exact Nat.le_of_eq (by rw [calls])
  | start request => simp
  | turn _ _ calls | complete _ _ calls =>
    exact Nat.le_of_eq (by rw [calls, List.length_modify])
  | @fail n t reason left calls =>
    refine Nat.le_of_not_lt fun hlt => ?_
    have hnone := getElem?_failPending s reason t.calls.length
    rw [← calls, List.getElem?_eq_none (Nat.le_refl _), List.getElem?_eq_getElem hlt] at hnone
    cases hnone

/-- A call stays, for the same request, and does not go back. -/
lemma Move.keeps (m : s.Move event t) (hc : s.calls[i]? = some c) :
    ∃ c', t.calls[i]? = some c' ∧ c'.request = c.request ∧ c.phase.rank ≤ c'.phase.rank := by
  have hlt : i < t.calls.length :=
    Nat.lt_of_lt_of_le (List.getElem?_eq_some_iff.1 hc).1 m.length_le
  obtain ⟨c', hc'⟩ : ∃ c', t.calls[i]? = some c' := ⟨_, List.getElem?_eq_getElem hlt⟩
  refine ⟨c', hc', ?_⟩
  cases m.fate_of_call hc hc' with
  | turned turn => exact ⟨rfl, Nat.le_of_lt turn.further⟩
  | _ => exact ⟨rfl, Nat.le_refl _⟩

lemma run_keeps {before : List (TransportEvent δ)} (hpre : before <+: events)
    (hc : (run before).calls[i]? = some c) :
    ∃ c', (run events).calls[i]? = some c' ∧ c'.request = c.request ∧
      c.phase.rank ≤ c'.phase.rank := by
  obtain ⟨after, rfl⟩ := hpre
  induction after using List.reverseRecOn with
  | nil => exact ⟨c, by simpa using hc, rfl, Nat.le_refl _⟩
  | append_singleton after event ih =>
    obtain ⟨d, hd, hrequest, hrank⟩ := ih
    rw [← List.append_assoc, run_append]
    obtain ⟨c', hc', hrequest', hrank'⟩ := (step_move _ event).keeps hd
    exact ⟨c', hc', hrequest'.trans hrequest, Nat.le_trans hrank hrank'⟩

/-! ### What has been -/

def phase? (s : Transport δ) (i : Nat) : Option Phase :=
  s.calls[i]?.map Call.phase

/-- The response a call has got. -/
def response? (s : Transport δ) (i : Nat) : Option (HubResult TwinResponse) :=
  s.calls[i]?.bind Call.response

/-- A call was entered under an id. -/
def Entered (events : List (TransportEvent δ)) (i : Nat) (id : String) : Prop :=
  ∃ before n, before ++ [.resume i id] <+: events ∧ (run before).phase? i = some (.entering n)

/-- A call has waited for a response, its request having been handed over. -/
def Waited (events : List (TransportEvent δ)) (i : Nat) : Prop :=
  ∃ before id, before <+: events ∧ (run before).phase? i = some (.awaiting id)

lemma phase?_eq_some {phase : Phase} :
    s.phase? i = some phase ↔ ∃ c, s.calls[i]? = some c ∧ c.phase = phase :=
  Option.map_eq_some_iff

lemma phase?_iff_of_call (hc : s.calls[i]? = some c) {phase : Phase} :
    s.phase? i = some phase ↔ c.phase = phase := by
  simp [phase?, hc]

lemma entered_append_iff : Entered (events ++ [event]) i id ↔
    Entered events i id ∨
      event = .resume i id ∧ ∃ n, (run events).phase? i = some (.entering n) := by
  constructor
  · rintro ⟨before, n, hpre, hphase⟩
    obtain heq | hpre := List.prefix_concat_iff.1 hpre
    · obtain ⟨rfl, hlast⟩ := List.append_inj' heq rfl
      cases hlast
      exact .inr ⟨rfl, n, hphase⟩
    · exact .inl ⟨before, n, hpre, hphase⟩
  · rintro (⟨before, n, hpre, hphase⟩ | ⟨rfl, n, hphase⟩)
    · exact ⟨before, n, hpre.trans (List.prefix_append _ _), hphase⟩
    · exact ⟨events, n, List.prefix_refl _, hphase⟩

lemma waited_append_iff : Waited (events ++ [event]) i ↔
    Waited events i ∨ ∃ id, (run (events ++ [event])).phase? i = some (.awaiting id) := by
  constructor
  · rintro ⟨before, id, hpre, hphase⟩
    obtain rfl | hpre := List.prefix_concat_iff.1 hpre
    · exact .inr ⟨id, hphase⟩
    · exact .inl ⟨before, id, hpre, hphase⟩
  · rintro (⟨before, id, hpre, hphase⟩ | ⟨id, hphase⟩)
    · exact ⟨before, id, hpre.trans (List.prefix_append _ _), hphase⟩
    · exact ⟨_, id, List.prefix_refl _, hphase⟩

lemma step_entering {n : Nat} (h : s.phase? i = some (.entering n)) (id : String) :
    (s.step (.resume i id)).phase? i = some (.asking n id) := by
  obtain ⟨c, hc, hphase⟩ := phase?_eq_some.1 h
  simp [step, resume?, hc, hphase, phase?, setPhase]

lemma Entered.rank (h : Entered events i id) :
    ∃ c, (run events).calls[i]? = some c ∧ 3 ≤ c.phase.rank := by
  obtain ⟨before, n, hpre, hphase⟩ := h
  have hasking := step_entering hphase id
  rw [← run_append] at hasking
  obtain ⟨c, hc, hphase⟩ := phase?_eq_some.1 hasking
  obtain ⟨c', hc', -, hrank⟩ := run_keeps hpre hc
  exact ⟨c', hc', by simpa [hphase, Phase.rank] using hrank⟩

lemma Waited.rank (h : Waited events i) :
    ∃ c, (run events).calls[i]? = some c ∧ 4 ≤ c.phase.rank := by
  obtain ⟨before, id, hpre, hphase⟩ := h
  obtain ⟨c, hc, hphase⟩ := phase?_eq_some.1 hphase
  obtain ⟨c', hc', -, hrank⟩ := run_keeps hpre hc
  exact ⟨c', hc', by simpa [hphase, Phase.rank] using hrank⟩

lemma not_waited_of_returned {outcome : HubResult Answer} (h : ¬Waited events i)
    (hc : (run (events ++ [event])).calls[i]? = some c) (hphase : c.phase = .returned outcome) :
    ¬Waited (events ++ [event]) i := by
  intro hw
  obtain hw | ⟨id, hwaits⟩ := waited_append_iff.1 hw
  · exact h hw
  · rw [phase?_iff_of_call hc, hphase] at hwaits
    cases hwaits

/-- What was entered is not to be entered again. -/
lemma Entered.not_entering {n : Nat} (h : Entered events i id) :
    (run events).phase? i ≠ some (.entering n) := by
  intro hphase
  obtain ⟨c, hc, hrank⟩ := h.rank
  rw [(phase?_iff_of_call hc).1 hphase] at hrank
  exact absurd hrank (by simp [Phase.rank])

lemma Entered.unique {id' : String} (h : Entered events i id) (h' : Entered events i id') :
    id = id' := by
  obtain ⟨before, n, hpre, hphase⟩ := h
  obtain ⟨before', n', hpre', hphase'⟩ := h'
  -- the later one of the two would find its call entered
  obtain hle | hle := List.prefix_or_prefix_of_prefix hpre hpre'
  · obtain heq | hle := List.prefix_concat_iff.1 hle
    · cases (List.append_inj' heq rfl).2
      rfl
    · exact absurd hphase' (Entered.not_entering ⟨before, n, hle, hphase⟩)
  · obtain heq | hle := List.prefix_concat_iff.1 hle
    · cases (List.append_inj' heq rfl).2
      rfl
    · exact absurd hphase (Entered.not_entering ⟨before', n', hle, hphase'⟩)

/-! ### Entries, calls and responses -/

/-- What holds of a call, and of what it has returned if it was about the twin. -/
structure Accounted (events : List (TransportEvent δ)) (i : Nat) (c : Call δ) : Prop where
  unheard : c.phase.rank < 3 → c.response = none
  entered : ∀ id, c.phase.id? = some id → Entered events i id
  answered : ∀ r, c.response = some (.ok r) → Entered events i r.requestId
  unsettled : c.request.isTwin = true → c.phase.isPlain = false
  returned : c.request.isTwin = true → ∀ outcome, c.phase = .returned outcome →
    (∃ response, c.response = some response ∧ outcome = response.bind c.request.answer) ∨
      (∀ answer, outcome ≠ .ok answer) ∧ (c.response = none ∨
        ¬Waited events i ∧ outcome = .error (.transport Connection.gone))

lemma accounted_start (request : Request δ) (events : List (TransportEvent δ)) :
    Accounted events i { request } where
  unheard _ := rfl
  entered id hid := by cases hid
  answered r hr := by cases hr
  unsettled _ := rfl
  returned _ outcome hreturned := by cases hreturned

lemma Accounted.hears (ha : Accounted events i c) (hid : c.phase.id? = some id)
    (response : HubResult TwinResponse) (answered : ∀ r, response = .ok r → r.requestId = id) :
    Accounted events i { c with response := some response } where
  unheard hlt := absurd (Phase.rank_of_id? hid).1 (Nat.not_le_of_lt hlt)
  entered := ha.entered
  answered r hr := by
    cases hr
    rw [answered r rfl]
    exact ha.entered id hid
  unsettled := ha.unsettled
  returned _ outcome hreturned := by
    have hphase : c.phase = .returned outcome := hreturned
    rw [hphase] at hid
    cases hid

lemma Accounted.later (ha : Accounted events i c)
    (hc : (run (events ++ [event])).calls[i]? = some c) : Accounted (events ++ [event]) i c where
  unheard := ha.unheard
  entered id hid := entered_append_iff.2 (.inl (ha.entered id hid))
  answered r hr := entered_append_iff.2 (.inl (ha.answered r hr))
  unsettled := ha.unsettled
  returned twin outcome hreturned := by
    refine (ha.returned twin outcome hreturned).imp_right (And.imp_right (Or.imp_right ?_))
    exact And.imp_left fun hwaited => not_waited_of_returned hwaited hc hreturned

lemma Accounted.turn (ha : Accounted events i c) (hc : (run events).calls[i]? = some c)
    {phase : Phase} {pending : KeyMap Nat} (moved : (run events).Turn i c event phase pending)
    (hc' : (run (events ++ [event])).calls[i]? = some { c with phase }) :
    Accounted (events ++ [event]) i { c with phase } where
  unheard hlt := ha.unheard (Nat.lt_trans (Turn.further moved) hlt)
  entered id hid := by
    have hid : phase.id? = some id := hid
    rw [entered_append_iff]
    cases moved.edits with
    | keeps same => exact .inl (ha.entered id (same.symm.trans hid))
    | inserts enters after =>
      cases after.symm.trans hid
      exact .inr ⟨rfl, _, phase?_eq_some.2 ⟨c, hc, enters⟩⟩
    | erases _ after => cases after.symm.trans hid
  answered r hr := entered_append_iff.2 (.inl (ha.answered r hr))
  unsettled twin := by
    cases moved with
    | plain before =>
      obtain hplain | ⟨-, hother⟩ := before
      · exact absurd hplain (by simp [ha.unsettled twin])
      · exact absurd twin (by simp [hother])
    | approach _ unsettled => exact unsettled
    | _ => rfl
  returned twin outcome hreturned := by
    have hphase : phase = .returned outcome := hreturned
    subst hphase
    cases moved with
    | plain before =>
      obtain hplain | ⟨-, hother⟩ := before
      · exact absurd hplain (by simp [ha.unsettled twin])
      · exact absurd twin (by simp [hother])
    | approach before _ _ further fails =>
      have hearly := Phase.rank_of_early before (ha.unsettled twin) further
      exact .inr ⟨fun answer heq => fails answer (by rw [heq]), .inl (ha.unheard hearly)⟩
    | refuse asks finished =>
      refine .inr ⟨by simp, .inr ⟨not_waited_of_returned (fun hw => ?_) hc' rfl, rfl⟩⟩
      obtain ⟨d, hd, hrank⟩ := hw.rank
      rw [hc] at hd
      cases hd
      rw [asks] at hrank
      exact absurd hrank (by simp [Phase.rank])
    | answer waits answered => exact .inl ⟨_, answered, rfl⟩
    | lose waits unanswered => exact .inr ⟨by simp, .inl unanswered⟩

lemma Turn.sorted {phase : Phase} {pending : KeyMap Nat} (h : s.pending.Sorted)
    (turn : s.Turn i c event phase pending) : pending.Sorted := by
  cases turn.edits with
  | keeps => exact h
  | inserts => exact h.insert _ _
  | erases => exact h.erase _

lemma Move.sorted (h : s.pending.Sorted) (m : s.Move event t) : t.pending.Sorted := by
  cases m with
  | still _ pending | finish _ _ pending => rwa [pending]
  | start request => exact h
  | turn _ turn => exact turn.sorted h
  | complete _ _ _ pending =>
    rw [pending]
    exact h.erase _
  | fail _ _ pending =>
    rw [pending]
    exact KeyMap.sorted_nil

/-- A call of an entry waits under its id, and has no response. -/
def Leads (s : Transport δ) (id : String) (i : Nat) : Prop :=
  ∃ c, s.calls[i]? = some c ∧ c.phase.id? = some id ∧ c.response = none

lemma Leads.call (h : s.Leads id i) (hc : s.calls[i]? = some c) :
    c.phase.id? = some id ∧ c.response = none := by
  obtain ⟨d, hd, hleads⟩ := h
  obtain rfl := Option.some.inj (hd.symm.trans hc)
  exact hleads

/-- An entry that outlasts a turn is of another call, or of the one that has just been entered or
has just handed its request over. -/
lemma Turn.leads {phase : Phase} {pending : KeyMap Nat} (h : s.pending.Sorted)
    (leads : ∀ id j, s.pending.find? id = some j → s.Leads id j)
    (unheard : c.phase.rank < 3 → c.response = none) (hc : s.calls[i]? = some c)
    (turn : s.Turn i c event phase pending) (entry : pending.find? id = some j) :
    j ≠ i ∧ s.Leads id j ∨ j = i ∧ phase.id? = some id ∧ c.response = none := by
  have hold (entry : s.pending.find? id = some j) (hne : c.phase.id? ≠ some id) :
      j ≠ i ∧ s.Leads id j := by
    refine ⟨fun heq => ?_, leads id j entry⟩
    subst heq
    exact hne ((leads id j entry).call hc).1
  cases turn.edits with
  | keeps same =>
    by_cases hji : j = i
    · subst hji
      obtain ⟨hid, hnone⟩ := (leads id j entry).call hc
      exact .inr ⟨rfl, same.trans hid, hnone⟩
    · exact .inl ⟨hji, leads id j entry⟩
  | @inserts n id' _ enters after =>
    by_cases hid : id = id'
    · subst hid
      rw [KeyMap.find?_insert_self] at entry
      exact .inr ⟨(Option.some.inj entry).symm, after, unheard (by simp [enters, Phase.rank])⟩
    · rw [KeyMap.find?_insert_of_ne hid] at entry
      exact .inl (hold entry (by simp [enters, Phase.id?]))
  | erases before =>
    rw [h.find?_erase, Option.ite_none_left_eq_some] at entry
    exact .inl (hold entry.2 fun heq => entry.1 (Option.some.inj (heq.symm.trans before)))

lemma Move.leads (h : s.pending.Sorted)
    (leads : ∀ id i, s.pending.find? id = some i → s.Leads id i)
    (unheard : ∀ (i : Nat) (c : Call δ), s.calls[i]? = some c → c.phase.rank < 3 →
      c.response = none)
    (m : s.Move event t) (entry : t.pending.find? id = some i) : t.Leads id i := by
  cases m with
  | still calls pending | finish _ calls pending =>
    rw [pending] at entry
    rw [Leads, calls]
    exact leads id i entry
  | start request =>
    obtain ⟨c, hc, hid, hnone⟩ := leads id i entry
    refine ⟨c, ?_, hid, hnone⟩
    rw [List.getElem?_append_left (List.getElem?_eq_some_iff.1 hc).1, hc]
  | @turn _ _ j c phase call turn calls loops =>
    obtain ⟨hne, d, hd, hid, hnone⟩ | ⟨rfl, hid, hnone⟩ :=
      turn.leads h leads (unheard j c call) call entry
    · exact ⟨d, by simp [calls, hd, Ne.symm hne], hid, hnone⟩
    · exact ⟨{ c with phase }, by simp [calls, call], hid, hnone⟩
  | @complete _ _ j r brings first calls pending =>
    rw [pending, h.find?_erase, Option.ite_none_left_eq_some] at entry
    obtain ⟨d, hd, hid, hnone⟩ := leads id i entry.2
    have hne : j ≠ i := by
      rintro rfl
      have hid' := ((leads r.requestId j first).call hd).1
      exact entry.1 (Option.some.inj (hid.symm.trans hid'))
    exact ⟨d, by simp [calls, hd, hne], hid, hnone⟩
  | fail _ _ pending =>
    rw [pending] at entry
    cases entry

/-- A call at an id had it before its turn, or has just been entered under it. -/
lemma Turn.of_id? {phase : Phase} {pending : KeyMap Nat} (turn : s.Turn i c event phase pending)
    (hid : phase.id? = some id) : c.phase.id? = some id ∨ pending.find? id = some i := by
  cases turn.edits with
  | keeps same => exact .inl (same.symm.trans hid)
  | inserts _ after =>
    cases after.symm.trans hid
    exact .inr (KeyMap.find?_insert_self _ _ _)
  | erases _ after => cases after.symm.trans hid

/-- A call is entered under an id, or an event enters it. -/
def Claims (c : Call δ) (j : Nat) (event : TransportEvent δ) (id : String) : Prop :=
  c.phase.id? = some id ∨ event = .resume j id ∧ ∃ n, c.phase = .entering n

/-- A turn leaves the entry of a call that waits under an id no other call claims. -/
lemma Turn.keeps_entry {phase : Phase} {pending : KeyMap Nat} (h : s.pending.Sorted)
    (turn : s.Turn j c event phase pending) (entry : s.pending.find? id = some i)
    (alone : Claims c j event id → j = i) (waits : j = i → phase.id? = some id) :
    pending.find? id = some i := by
  cases turn.edits with
  | keeps => exact entry
  | @inserts n id' _ enters =>
    by_cases hid : id = id'
    · subst hid
      rw [KeyMap.find?_insert_self, alone (.inr ⟨rfl, n, enters⟩)]
    · rwa [KeyMap.find?_insert_of_ne hid]
  | erases before after =>
    rw [h.find?_erase, if_neg, entry]
    rintro rfl
    rw [waits (alone (.inl before))] at after
    cases after

/-- A call keeps its entry for as long as it waits for its response, if no other claims its id. -/
lemma Move.keeps_entry (h : s.pending.Sorted) (m : s.Move event t)
    (entry : s.pending.find? id = some i)
    (alone : ∀ j c, s.calls[j]? = some c → Claims c j event id → j = i) (waits : t.Leads id i) :
    t.pending.find? id = some i := by
  obtain ⟨c', hc', hid', hnone⟩ := waits
  cases m with
  | still _ pending | finish _ _ pending => rwa [pending]
  | start request => exact entry
  | @turn _ _ j c phase call turn calls =>
    refine turn.keeps_entry h entry (alone j c call) fun hj => ?_
    subst hj
    rw [calls, List.getElem?_modify, call] at hc'
    cases hc'
    simpa using hid'
  | @complete _ _ j r brings first calls pending =>
    rw [pending, h.find?_erase, if_neg, entry]
    -- the one that is completed is done waiting
    rintro rfl
    cases first.symm.trans entry
    rw [calls, List.getElem?_modify] at hc'
    obtain ⟨c, -, rfl⟩ := Option.map_eq_some_iff.1 hc'
    simp at hnone
  | @fail n _ reason left calls pending =>
    -- all that have an entry are done waiting
    rw [calls, getElem?_failPending] at hc'
    obtain ⟨c, -, rfl⟩ := Option.map_eq_some_iff.1 hc'
    rw [if_pos (List.mem_map_of_mem (KeyMap.mem_of_find? entry))] at hnone
    cases hnone

structure Sound (events : List (TransportEvent δ)) : Prop where
  sorted : (run events).pending.Sorted
  leads : ∀ id i, (run events).pending.find? id = some i → (run events).Leads id i
  entries : ∀ id i, (run events).Leads id i → (∀ j, Entered events j id → j = i) →
    (run events).pending.find? id = some i
  calls : ∀ i c, (run events).calls[i]? = some c → Accounted events i c

lemma Sound.accounted_append (h : Sound events)
    (hc' : (run (events ++ [event])).calls[i]? = some c') :
    Accounted (events ++ [event]) i c' := by
  have m := step_move (run events) event
  rw [← run_append] at m
  obtain ⟨request, -, -, rfl⟩ | ⟨c, hc, fate⟩ := m.fate hc'
  · exact accounted_start request _
  · have ha := h.calls i c hc
    have hears {id : String} (entry : (run events).pending.find? id = some i)
        (response : HubResult TwinResponse) (answered : ∀ r, response = .ok r → r.requestId = id)
        (hc' : (run (events ++ [event])).calls[i]? = some { c with response := some response }) :
        Accounted (events ++ [event]) i { c with response := some response } := by
      have hid := ((h.leads _ i entry).call hc).1
      exact (ha.hears hid response answered).later hc'
    cases fate with
    | same => exact ha.later hc'
    | turned turn => exact ha.turn hc turn hc'
    | answered brings entry => exact hears entry _ (by simp) hc'
    | failed entry => exact hears (h.sorted.find?_of_mem entry) _ (by simp) hc'

/-- Who waits under an id that only it was entered under has its entry. -/
lemma Sound.entry_append (h : Sound events) (waits : (run (events ++ [event])).Leads id i)
    (alone : ∀ j, Entered (events ++ [event]) j id → j = i) :
    (run (events ++ [event])).pending.find? id = some i := by
  have m := step_move (run events) event
  rw [← run_append] at m
  have hclaims (j : Nat) (c : Call δ) (hc : (run events).calls[j]? = some c)
      (claims : Claims c j event id) : j = i := by
    refine alone j (entered_append_iff.2 ?_)
    obtain hid | ⟨hevent, n, hphase⟩ := claims
    · exact .inl ((h.calls j c hc).entered id hid)
    · exact .inr ⟨hevent, n, phase?_eq_some.2 ⟨c, hc, hphase⟩⟩
  have hbefore (waited : (run events).Leads id i) :
      (run (events ++ [event])).pending.find? id = some i := by
    refine m.keeps_entry h.sorted (h.entries id i waited fun j entered => ?_) hclaims waits
    exact alone j (entered_append_iff.2 (.inl entered))
  obtain ⟨c', hc', hid, hnone⟩ := waits
  obtain ⟨request, -, -, rfl⟩ | ⟨c, hc, fate⟩ := m.fate hc'
  · cases hid
  · cases fate with
    | same => exact hbefore ⟨_, hc, hid, hnone⟩
    | turned turn =>
      obtain hold | hnew := turn.of_id? hid
      · exact hbefore ⟨c, hc, hold, hnone⟩
      · exact hnew
    | answered => cases hnone
    | failed => cases hnone

theorem run_sound (events : List (TransportEvent δ)) : Sound events := by
  induction events using List.reverseRecOn with
  | nil =>
    refine ⟨KeyMap.sorted_nil, fun id i h => ?_, fun id i h => ?_, fun i c h => ?_⟩
    · cases h
    · obtain ⟨c, hc, -⟩ := h
      cases hc
    · simp [run] at h
  | append_singleton events event ih =>
    have m := step_move (run events) event
    rw [← run_append] at m
    exact ⟨m.sorted ih.sorted, fun id i => m.leads ih.sorted ih.leads fun i c hc =>
      (ih.calls i c hc).unheard, fun id i => ih.entry_append, fun i c => ih.accounted_append⟩

end DeviceHub.Mqtt.Transport
