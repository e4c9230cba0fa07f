import DeviceHub.Proofs.Connections.Overlap

/-!
The dispatcher slots of `MqttTransport`.  They are filled as calls of `subscribe_events`,
`register_direct_methods` and `subscribe_twin_updates` begin and by nothing else, so the slots after
a run are told by those beginnings.  A slot that was filled stays filled when its call fails: only a
call of `subscribe_events` that finds no connection in `connected` leaves the slots as they were.
-/
namespace DeviceHub.Mqtt

/-- A call begins to set a link up, and finds a connection in use or none. -/
structure Outset (δ : Type) where
  call : Nat
  link : SharedLink
  dispatcher : δ
  connected : Bool

namespace Outset

variable {δ : Type} {o : Outset δ} {record : List (Outset δ)} {slots : SharedLink → Option δ}
  {link : SharedLink}

/-- The slot is filled: the slot of events over a connection only, the others in any case. -/
def Fills (o : Outset δ) : Prop :=
  o.connected = true ∨ o.link ≠ .events

instance : Decidable o.Fills :=
  inferInstanceAs (Decidable (_ ∨ _))

def fill (slots : SharedLink → Option δ) (o : Outset δ) : SharedLink → Option δ :=
  if o.Fills then fun l => if l = o.link then some o.dispatcher else slots l else slots

/-- The only time that its call began. -/
def IsOnly (o : Outset δ) (record : List (Outset δ)) : Prop :=
  record.filter (fun p => p.call = o.call) = [o]

lemma fill_link (slots : SharedLink → Option δ) (o : Outset δ) :
    fill slots o o.link = if o.Fills then some o.dispatcher else slots o.link := by
  unfold fill
  split <;> simp

lemma fill_of_ne (h : o.link ≠ link) : fill slots o link = slots link := by
  unfold fill
  split
  · exact if_neg (Ne.symm h)
  · rfl

lemma foldl_fill_of_ne (h : ∀ o ∈ record, o.link ≠ link) :
    record.foldl fill slots link = slots link := by
  induction record generalizing slots with
  | nil => rfl
  | cons o record ih =>
    rw [List.foldl_cons, ih fun p hp => h p (List.mem_cons_of_mem _ hp),
      fill_of_ne (h o List.mem_cons_self)]

/-- A slot that one call asks for is filled by that call or not at all. -/
lemma IsOnly.foldl_fill (only : o.IsOnly record)
    (alone : ∀ p ∈ record, p.link = link → p.call = o.call) :
    record.foldl fill slots link =
      if link = o.link ∧ o.Fills then some o.dispatcher else slots link := by
  obtain ⟨earlier, later, rfl, hearlier, -, hlater⟩ := List.filter_eq_cons_iff.1 only
  have hlater (p) (hp : p ∈ later) : p.call ≠ o.call := by
    simpa using List.filter_eq_nil_iff.1 hlater p hp
  have hne {p} (hp : p.call ≠ o.call) (hmem : p ∈ earlier ++ o :: later) : p.link ≠ link :=
    fun hlink => hp (alone p hmem hlink)
  rw [List.foldl_append, List.foldl_cons,
    foldl_fill_of_ne fun p hp => hne (hlater p hp) (by simp [hp])]
  have hslots : earlier.foldl fill slots link = slots link :=
    foldl_fill_of_ne fun p hp => hne (by simpa using hearlier p hp) (by simp [hp])
  obtain rfl | hlink := eq_or_ne link o.link
  · rw [fill_link, hslots]
    simp
  · rw [fill_of_ne hlink.symm, hslots, if_neg fun h => hlink h.1]

end Outset

namespace Transport

variable {δ : Type} {s t : Transport δ} {event : TransportEvent δ} {i n : Nat} {c : Call δ}
  {link : SharedLink} {dispatcher : δ} {record : List (Outset δ)}

def outset? (s : Transport δ) : TransportEvent δ → Option (Outset δ)
  | .resume i _ =>
    s.calls[i]?.bind fun c =>
      match c.phase, c.request with
      | .starting, .setup link dispatcher => some ⟨i, link, dispatcher, s.session?.isSome⟩
      | _, _ => none
  | _ => none

def outsetsFrom (s : Transport δ) : List (TransportEvent δ) → List (Outset δ)
  | [] => []
  | event :: events => (s.outset? event).toList ++ (s.step event).outsetsFrom events

/-! ### Slots -/

@[simp] lemma setPhase_slots (phase : Phase) : (t.setPhase i phase).slots = t.slots := rfl

@[simp] lemma finish_slots (outcome : HubResult Answer) : (t.finish i outcome).slots = t.slots :=
  rfl

lemma hand?_slots {p : Packet} {taken : Bool} (h : s.hand? n p = some (t, taken)) :
    t.slots = s.slots := by
  rw [hand?_result h]
  split <;> rfl

lemma beginSetup_slots : (s.beginSetup i link dispatcher).slots =
    Outset.fill s.slots ⟨i, link, dispatcher, s.session?.isSome⟩ := by
  unfold beginSetup Outset.fill Outset.Fills
  cases s.session? with
  | some session => simp [setSlot]
  | none => by_cases hlink : link = .events <;> simp [hlink, setSlot]

lemma begin_slots (request : Request δ) (h : ∀ link dispatcher, request ≠ .setup link dispatcher) :
    (s.begin i request).slots = s.slots := by
  cases request with
  | setup link dispatcher => exact absurd rfl (h link dispatcher)
  | connect options =>
    simp only [begin, beginConnect]
    split <;> rfl
  | close | send =>
    simp only [begin]
    split <;> rfl
  | retrieve | update =>
    simp only [begin, beginTwin]
    split <;> rfl

lemma subscribe?_slots (h : s.subscribe? i n = some t) : t.slots = s.slots := by
  obtain ⟨d, -, hgo⟩ := Option.bind_eq_some_iff.1 h
  split at hgo
  · cases hgo
    rfl
  · split at hgo
    · obtain ⟨⟨u, taken⟩, hhand, hu⟩ := Option.map_eq_some_iff.1 hgo
      rw [← hu, ← hand?_slots hhand]
      dsimp only
      split <;> rfl
    · cases hgo

lemma confirm?_slots (h : s.confirm? i n = some t) : t.slots = s.slots := by
  obtain ⟨d, -, hgo⟩ := Option.bind_eq_some_iff.1 h
  split at hgo <;> cases hgo <;> rfl

/-- A call that goes on fills a slot as it begins to set a link up, and only then. -/
lemma resume?_slots {id : String} (hc : s.calls[i]? = some c) (h : s.resume? i id = some t) :
    t.slots = (s.outset? (.resume i id)).elim s.slots (Outset.fill s.slots) := by
  obtain ⟨d, hd, hgo⟩ := Option.bind_eq_some_iff.1 h
  obtain rfl := Option.some.inj (hc.symm.trans hd)
  have hquiet (hphase : c.phase ≠ .starting) : s.outset? (.resume i id) = none := by
    simp only [outset?, hc, Option.bind_some]
    cases hold : c.phase <;> simp_all
  cases hphase : c.phase with
  | starting =>
    rw [hphase] at hgo
    cases hgo
    cases hrequest : c.request with
    | setup link dispatcher =>
      simp only [outset?, hc, hphase, hrequest, Option.bind_some, Option.elim_some]
      exact beginSetup_slots
    | _ =>
      simp only [outset?, hc, hphase, hrequest, Option.bind_some, Option.elim_none]
      exact begin_slots _ (by nofun)
  | confirming n =>
    rw [hphase] at hgo
    rw [hquiet (by simp [hphase])]
    exact confirm?_slots hgo
  | ending n outcome | grace n =>
    rw [hphase] at hgo
    simp only [Option.ite_none_right_eq_some, Option.some.injEq] at hgo
    rw [hquiet (by simp [hphase]), ← hgo.2]
    rfl
  | handing n p =>
    rw [hphase] at hgo
    obtain ⟨⟨u, taken⟩, hhand, hu⟩ := Option.map_eq_some_iff.1 hgo
    rw [hquiet (by simp [hphase]), ← hu, Option.elim_none, ← hand?_slots hhand]
    cases p <;> rfl
  | subscribing n =>
    rw [hphase] at hgo
    rw [hquiet (by simp [hphase])]
    exact subscribe?_slots hgo
  | entering n =>
    rw [hphase] at hgo
    cases hgo
    rw [hquiet (by simp [hphase])]
    rfl
  | asking n id' =>
    rw [hphase] at hgo
    obtain ⟨⟨u, taken⟩, hhand, hu⟩ := Option.map_eq_some_iff.1 hgo
    rw [hquiet (by simp [hphase]), ← hu, Option.elim_none, ← hand?_slots hhand]
    cases taken <;> rfl
  | awaiting id' =>
    rw [hphase] at hgo
    obtain ⟨outcome, rfl⟩ := respond?_eq hgo
    rw [hquiet (by simp [hphase])]
    rfl
  | returned outcome =>
    rw [hphase] at hgo
    cases hgo
  | dropped =>
    rw [hphase] at hgo
    cases hgo

/-- A call that cannot go on has begun already. -/
lemma outset?_eq_none {id : String} (h : s.resume? i id = none) :
    s.outset? (.resume i id) = none := by
  cases hc : s.calls[i]? with
  | none => simp [outset?, hc]
  | some c =>
    cases hphase : c.phase with
    | starting => simp [resume?, hc, hphase] at h
    | _ => simp [outset?, hc, hphase]

lemma deliver_slots (delivery : δ → Delivery δ) : (t.deliver link delivery).slots = t.slots := by
  unfold deliver
  split <;> rfl

lemma complete_slots (r : TwinResponse) : (t.complete r).slots = t.slots := by
  unfold complete
  split <;> rfl

lemma publish_slots (deviceId topic : String) (payload : Bytes) :
    (t.publish n deviceId topic payload).slots = t.slots := by
  unfold publish
  split
  · exact deliver_slots _
  · exact deliver_slots _
  · exact complete_slots _
  · exact deliver_slots _
  · rfl

lemma report_slots (r : Report) : (t.report n r).slots = t.slots := by
  unfold report
  split
  · rfl
  · split
    · rfl
    · split
      · rfl
      · rfl
      · exact publish_slots _ _ _
      · rfl
      · rfl

theorem step_slots (s : Transport δ) (event : TransportEvent δ) :
    (s.step event).slots = (s.outset? event).elim s.slots (Outset.fill s.slots) := by
  cases event with
  | resume i id =>
    simp only [step]
    cases hresume : s.resume? i id with
    | none =>
      rw [outset?_eq_none hresume]
      rfl
    | some t =>
      obtain ⟨c, hc, -⟩ := Option.bind_eq_some_iff.1 hresume
      exact resume?_slots hc hresume
  | start request => rfl
  | timeout i =>
    simp only [step, timeout]
    split <;> rfl
  | drop i =>
    simp only [step, drop]
    split
    · rfl
    · rfl
    · rfl
    · unfold release
      split <;> rfl
  | report n r => exact report_slots r
  | fail n reason => rfl
  | stop n =>
    simp only [step]
    split <;> rfl
  | unwind n =>
    simp only [step, unwind]
    split <;> rfl
  | transmit n => rfl
  | reply n status requestId body =>
    simp only [step]
    cases hhand : s.hand? n (.publish (Topic.methodResponse status requestId) body .atMostOnce) with
    | none => rfl
    | some result => exact hand?_slots hhand

/-- The slots after a run are the slots before it, filled by the calls that began meanwhile. -/
theorem foldl_step_slots (s : Transport δ) (events : List (TransportEvent δ)) :
    (events.foldl step s).slots = (s.outsetsFrom events).foldl Outset.fill s.slots := by
  induction events generalizing s with
  | nil => rfl
  | cons event events ih =>
    rw [List.foldl_cons, ih, outsetsFrom, List.foldl_append, step_slots]
    cases s.outset? event <;> rfl

/-! ### Calls that set a link up -/

lemma outsetsFrom_concat (s : Transport δ) (events : List (TransportEvent δ))
    (event : TransportEvent δ) : s.outsetsFrom (events ++ [event]) =
      s.outsetsFrom events ++ ((events.foldl step s).outset? event).toList := by
  induction events generalizing s with
  | nil => simp [outsetsFrom]
  | cons first events ih => simp [outsetsFrom, ih]

lemma foldl_run (before after : List (TransportEvent δ)) :
    after.foldl step (run before) = run (before ++ after) :=
  List.foldl_append.symm

lemma call?_of_outset? {o : Outset δ} (h : s.outset? event = some o) :
    event.call? = some o.call := by
  cases event with
  | resume i id =>
    obtain ⟨c, -, hc⟩ := Option.bind_eq_some_iff.1 h
    split at hc <;> cases hc
    rfl
  | _ => cases h

/-- How far a call is that sets a link up, by when it began: before, it has begun nothing; it fails
with its packet, or because there is no connection in use. -/
inductive SetsUp (record : List (Outset δ)) (i : Nat) (link : SharedLink) (dispatcher : δ) :
    Phase → Prop
  | starting (new : ∀ o ∈ record, o.call ≠ i) : SetsUp record i link dispatcher .starting
  | handing (n : Nat) (deviceId : String)
      (began : Outset.IsOnly ⟨i, link, dispatcher, true⟩ record) :
      SetsUp record i link dispatcher
        (.handing n (.subscribe (filterOf deviceId link).1 (filterOf deviceId link).2))
  | unready (began : Outset.IsOnly ⟨i, link, dispatcher, false⟩ record) :
      SetsUp record i link dispatcher (.returned (.error .notReady))
  | refused (deviceId : String) (began : Outset.IsOnly ⟨i, link, dispatcher, true⟩ record) :
      SetsUp record i link dispatcher
        (.returned (.error (.linkSetup (filterOf deviceId link).1 Connection.gone)))
  | done (began : Outset.IsOnly ⟨i, link, dispatcher, true⟩ record) :
      SetsUp record i link dispatcher (.returned (.ok .done))
  | dropped : SetsUp record i link dispatcher .dropped

/-- What other calls begin is nothing to a call. -/
lemma SetsUp.append {phase : Phase} (h : SetsUp record i link dispatcher phase)
    {more : List (Outset δ)} (others : ∀ o ∈ more, o.call ≠ i) :
    SetsUp (record ++ more) i link dispatcher phase := by
  have honly {o : Outset δ} (ho : o.call = i) (only : o.IsOnly record) :
      o.IsOnly (record ++ more) := by
    have hnone : more.filter (fun p => p.call = o.call) = [] := by
      simpa [List.filter_eq_nil_iff, ho] using others
    rw [Outset.IsOnly, List.filter_append, hnone, List.append_nil]
    exact only
  cases h with
  | starting new =>
    refine .starting fun o ho => ?_
    obtain ho | ho := List.mem_append.1 ho
    · exact new o ho
    · exact others o ho
  | handing n deviceId began => exact .handing n deviceId (honly rfl began)
  | unready began => exact .unready (honly rfl began)
  | refused deviceId began => exact .refused deviceId (honly rfl began)
  | done began => exact .done (honly rfl began)
  | dropped => exact .dropped

/-- A call begins that has begun nothing yet. -/
lemma isOnly_concat {o : Outset δ} (new : ∀ p ∈ record, p.call ≠ o.call) :
    o.IsOnly (record ++ [o]) := by
  have hnone : record.filter (fun p => p.call = o.call) = [] := by
    simpa [List.filter_eq_nil_iff] using new
  simp [Outset.IsOnly, hnone]

lemma beginSetup_setsUp (hc : s.calls[i]? = some c) (new : ∀ o ∈ record, o.call ≠ i) :
    ∃ phase, (s.beginSetup i link dispatcher).phase? i = some phase ∧
      SetsUp (record ++ [⟨i, link, dispatcher, s.session?.isSome⟩]) i link dispatcher phase := by
  unfold beginSetup
  cases s.session? with
  | some session =>
    refine ⟨_, ?_, .handing session.1 session.2.deviceId (isOnly_concat new)⟩
    simp [phase?, setPhase, setSlot, hc]
  | none =>
    refine ⟨_, ?_, .unready (isOnly_concat new)⟩
    by_cases hlink : link = .events <;> simp [hlink, phase?, finish, setPhase, setSlot, hc]

/-- The packet is taken, or the loop of its connection is at its end. -/
lemma handed_setsUp {deviceId : String} {taken : Bool}
    (hc : s.calls[i]? = some c) (began : Outset.IsOnly ⟨i, link, dispatcher, true⟩ record)
    (hhand : s.hand? n (.subscribe (filterOf deviceId link).1 (filterOf deviceId link).2) =
      some (t, taken)) :
    ∃ phase, (t.handed i n (.subscribe (filterOf deviceId link).1 (filterOf deviceId link).2)
        taken).phase? i = some phase ∧
      SetsUp record i link dispatcher phase := by
  have hcalls : t.calls[i]? = some c := by rw [(hand?_eq hhand).1, hc]
  cases taken with
  | true => exact ⟨_, by simp [handed, phase?, finish, setPhase, hcalls], .done began⟩
  | false =>
    refine ⟨_, ?_, .refused deviceId began⟩
    simp [handed, phase?, finish, setPhase, hcalls, Packet.refusal]

/-- A call goes on that sets a link up: it begins, or its packet is handed over. -/
lemma SetsUp.resume {id : String} (h : SetsUp record i link dispatcher c.phase)
    (hc : s.calls[i]? = some c) (asks : c.request = .setup link dispatcher) :
    ∃ phase, (s.step (.resume i id)).phase? i = some phase ∧
      SetsUp (record ++ (s.outset? (.resume i id)).toList) i link dispatcher phase := by
  generalize hphase : c.phase = old at h
  have hkept := h
  have hstarted (hne : old ≠ .starting) : s.outset? (.resume i id) = none := by
    simp only [outset?, hc, hphase, Option.bind_some]
    cases old <;> simp_all
  cases h with
  | starting new =>
    have houtset : s.outset? (.resume i id) = some ⟨i, link, dispatcher, s.session?.isSome⟩ := by
      simp [outset?, hc, hphase, asks]
    have hstep : s.step (.resume i id) = s.beginSetup i link dispatcher := by
      simp [step, resume?, hc, hphase, asks, begin]
    rw [houtset, hstep]
    exact beginSetup_setsUp hc new
  | handing n deviceId began =>
    rw [hstarted (by simp), Option.toList_none, List.append_nil]
    cases hhand : s.hand? n (.subscribe (filterOf deviceId link).1 (filterOf deviceId link).2) with
    | none =>
      refine ⟨_, ?_, .handing n deviceId began⟩
      simp [step, resume?, hc, hphase, hhand, phase?]
    | some result =>
      have hstep : s.step (.resume i id) = result.1.handed i n
          (.subscribe (filterOf deviceId link).1 (filterOf deviceId link).2) result.2 := by
        simp [step, resume?, hc, hphase, hhand]
      rw [hstep]
      exact handed_setsUp hc began hhand
  | _ =>
    rw [hstarted (by simp), Option.toList_none, List.append_nil]
    exact ⟨_, by simp [step, resume?, hc, hphase, phase?], hkept⟩

lemma SetsUp.timeout (h : SetsUp record i link dispatcher c.phase) (hc : s.calls[i]? = some c) :
    (s.timeout i).phase? i = some c.phase := by
  generalize hphase : c.phase = old at h
  cases h <;> simp [Transport.timeout, phase?, hc, hphase]

lemma SetsUp.drop (h : SetsUp record i link dispatcher c.phase) (hc : s.calls[i]? = some c) :
    (s.drop i).phase? i = some c.phase ∨ (s.drop i).phase? i = some .dropped := by
  generalize hphase : c.phase = old at h
  cases h <;> simp [Transport.drop, release, setPhase, phase?, hc, hphase]

/-- Every event leaves a call that sets a link up on its way. -/
lemma SetsUp.step (h : SetsUp record i link dispatcher c.phase) (hc : s.calls[i]? = some c)
    (asks : c.request = .setup link dispatcher) (event : TransportEvent δ) :
    ∃ phase, (s.step event).phase? i = some phase ∧
      SetsUp (record ++ (s.outset? event).toList) i link dispatcher phase := by
  by_cases hcall : event.call? = some i
  · have hnothing : SetsUp (record ++ []) i link dispatcher c.phase := by rwa [List.append_nil]
    cases event with
    | resume j id =>
      cases hcall
      exact h.resume hc asks
    | timeout j =>
      cases hcall
      exact ⟨c.phase, h.timeout hc, hnothing⟩
    | drop j =>
      cases hcall
      obtain hsame | hdropped := h.drop hc
      · exact ⟨c.phase, hsame, hnothing⟩
      · exact ⟨.dropped, hdropped, .dropped⟩
    | _ => cases hcall
  · refine ⟨c.phase, phase?_step_of_ne hcall hc, h.append fun o ho heq => hcall ?_⟩
    rw [call?_of_outset? (Option.mem_toList.1 ho), heq]

/-- A call that is asked to set a link up is on its way from then on. -/
theorem run_setsUp (before after : List (TransportEvent δ)) (link : SharedLink) (dispatcher : δ) :
    ∃ c, (run (before ++ .start (.setup link dispatcher) :: after)).calls[
        (run before).calls.length]? =
        some c ∧ c.request = .setup link dispatcher ∧
      SetsUp ((run before).outsetsFrom (.start (.setup link dispatcher) :: after))
        (run before).calls.length link dispatcher c.phase := by
  induction after using List.reverseRecOn with
  | nil =>
    refine ⟨{ request := .setup link dispatcher }, ?_, rfl,
      .starting (by simp [outsetsFrom, outset?])⟩
    simp [step]
  | append_singleton after event ih =>
    obtain ⟨c, hc, asks, hsetsUp⟩ := ih
    have hevents : before ++ .start (.setup link dispatcher) :: (after ++ [event]) =
        (before ++ .start (.setup link dispatcher) :: after) ++ [event] := by simp
    have hrecord :
        (run before).outsetsFrom (.start (.setup link dispatcher) :: (after ++ [event])) =
        (run before).outsetsFrom (.start (.setup link dispatcher) :: after) ++
          ((run (before ++ .start (.setup link dispatcher) :: after)).outset? event).toList := by
      rw [← List.cons_append, outsetsFrom_concat, foldl_run]
    rw [hevents, hrecord, run_append]
    obtain ⟨c', hc', hrequest, -⟩ := (step_move _ event).keeps hc
    obtain ⟨phase, hphase, hnext⟩ := hsetsUp.step hc asks event
    refine ⟨c', hc', hrequest.trans asks, ?_⟩
    rwa [(phase?_iff_of_call hc').1 hphase]

/-- A call that sets a link up begins once if it fails, with the error of that. -/
lemma SetsUp.of_failed {e : HubError} (h : SetsUp record i link dispatcher (.returned (.error e))) :
    ∃ connected, Outset.IsOnly ⟨i, link, dispatcher, connected⟩ record ∧
      (connected = false → e = .notReady) ∧
      (e = .notReady ∨
        ∃ deviceId, e = .linkSetup (filterOf deviceId link).1 Connection.gone) := by
  cases h with
  | unready began => exact ⟨false, began, fun _ => rfl, .inl rfl⟩
  | refused deviceId began => exact ⟨true, began, by nofun, .inr ⟨deviceId, rfl⟩⟩

/-- A call that fails to set a link up leaves the slots as they were exactly if it was for events
and found no connection in use as it began, or its dispatcher had the slot before.  Otherwise its
dispatcher has the slot of its link, though the link is not set up.  Other links keep their
dispatchers, unless another call begins to set them up meanwhile. -/
theorem failed_setup_keeps_slots_iff {before after : List (TransportEvent δ)} {e : HubError}
    (failed : (run (before ++ .start (.setup link dispatcher) :: after)).phase?
      (run before).calls.length = some (.returned (.error e))) :
    let call := (run before).calls.length
    let slots := (run (before ++ .start (.setup link dispatcher) :: after)).slots
    let began := (run before).outsetsFrom (.start (.setup link dispatcher) :: after)
    ∃ connected, Outset.IsOnly ⟨call, link, dispatcher, connected⟩ began ∧
      (connected = false → e = .notReady) ∧
      (e = .notReady ∨ ∃ deviceId, e = .linkSetup (filterOf deviceId link).1 Connection.gone) ∧
      (∀ l, (∀ o ∈ began, o.link = l → o.call = call) → slots l =
        if l = link ∧ (connected = true ∨ link ≠ .events) then some dispatcher
        else (run before).slots l) ∧
      ((∀ o ∈ began, o.call = call) → (slots = (run before).slots ↔
        link = .events ∧ connected = false ∨ (run before).slots link = some dispatcher)) := by
  intro call slots began
  obtain ⟨c, hc, -, hsetsUp⟩ := run_setsUp before after link dispatcher
  rw [(phase?_iff_of_call hc).1 failed] at hsetsUp
  obtain ⟨connected, honly, hunready, herror⟩ := hsetsUp.of_failed
  have hslots (l : SharedLink) (alone : ∀ o ∈ began, o.link = l → o.call = call) :
      slots l = if l = link ∧ (connected = true ∨ link ≠ .events) then some dispatcher
        else (run before).slots l := by
    change (run _).slots l = _
    rw [← foldl_run, foldl_step_slots]
    exact honly.foldl_fill alone
  refine ⟨connected, honly, hunready, herror, hslots, fun alone => ⟨fun hsame => ?_, ?_⟩⟩
  · have hlink := hslots link fun o ho _ => alone o ho
    rw [hsame] at hlink
    by_cases hfills : connected = true ∨ link ≠ .events
    · right
      simpa [hfills] using hlink
    · left
      simpa [not_or, and_comm] using hfills
  · intro hkept
    funext l
    rw [hslots l fun o ho _ => alone o ho]
    obtain ⟨rfl, rfl⟩ | hbefore := hkept
    · simp
    · split
      next h => rw [h.1, hbefore]
      next => rfl

def comingIntoUse : List (TransportEvent Nat) :=
  [.start (.connect someOptions), .resume 0 "", .report 0 (.acknowledged .success), .resume 0 ""]

/-- The connection in use is lost, and its loop comes to its end. -/
def lostInUse : List (TransportEvent Nat) :=
  comingIntoUse ++ [.fail 0 "broken", .unwind 0, .unwind 0]

/-- The link of events is asked for when the connection in use is lost. -/
theorem failed_setup_keeps_slots_iff_of_lost :
    (run (lostInUse ++ [.start (.setup .events 1), .resume 1 "", .resume 1 ""])).phase? 1 =
      some (.returned (.error
        (.linkSetup "devices/d/messages/devicebound/#" Connection.gone))) ∧
    (run (lostInUse ++ [.start (.setup .events 1), .resume 1 "", .resume 1 ""])).slots ≠
      (run lostInUse).slots := by
  have failed : (run (lostInUse ++ [.start (.setup .events 1), .resume 1 "", .resume 1 ""])).phase?
      (run lostInUse).calls.length = some (.returned (.error
        (.linkSetup "devices/d/messages/devicebound/#" Connection.gone))) := rfl
  obtain ⟨connected, honly, hunready, -, -, hiff⟩ := failed_setup_keeps_slots_iff failed
  have alone : ∀ o ∈ (run lostInUse).outsetsFrom
      [.start (.setup .events 1), .resume 1 "", .resume 1 ""], o.call = 1 := by
    intro o ho
    obtain rfl : o = ⟨1, .events, 1, true⟩ := List.mem_singleton.1 ho
    rfl
  refine ⟨failed, fun hsame => ?_⟩
  obtain ⟨-, hconnected⟩ | hbefore := (hiff alone).1 hsame
  · cases hunready hconnected
  · cases hbefore

/-- Methods go to a first dispatcher, and a close takes the connection, whose loop runs on. -/
def closingInUse : List (TransportEvent Nat) :=
  comingIntoUse ++ [.start (.setup .methods 1), .resume 1 "", .resume 1 "", .start .close,
    .resume 2 ""]

def askedTooLate : List (TransportEvent Nat) :=
  closingInUse ++ [.start (.setup .methods 2), .resume 3 ""]

/-- The second dispatcher is refused and has the slot, and the next call of a method comes to it
instead of to the first one.  A slot is filled as well where there never was a connection, unless it
is that of events, and for every link when the connection in use is lost. -/
theorem failed_setup_takes_over :
    ((run closingInUse).slots .methods = some 1 ∧
      (run askedTooLate).phase? 3 = some (.returned (.error .notReady)) ∧
      (run askedTooLate).slots .methods = some 2 ∧
      (run (askedTooLate ++
        [.report 0 (.published "$iothub/methods/POST/m/?$rid=1" [])])).deliveries =
        [.method 2 0 "m" "1" []]) ∧
    (∀ link ≠ SharedLink.events,
      (run [.start (.setup link 1), .resume 0 ""]).phase? 0 =
          some (.returned (.error .notReady)) ∧
        (run [.start (.setup link 1), .resume 0 ""]).slots link = some 1) ∧
    ∀ link, (run lostInUse).slots link = none ∧
      (run (lostInUse ++ [.start (.setup link 1), .resume 1 "", .resume 1 ""])).phase? 1 =
        some (.returned (.error (.linkSetup (filterOf "d" link).1 Connection.gone))) ∧
      (run (lostInUse ++ [.start (.setup link 1), .resume 1 "", .resume 1 ""])).slots link =
        some 1 := by
  refine ⟨⟨rfl, rfl, rfl, ?_⟩, fun link hlink => ?_, fun link => ?_⟩
  · have hroute : Topic.route "d" "$iothub/methods/POST/m/?$rid=1" [] = .methodCall "m" "1" [] := by
      decide +kernel
    have hreport : (run askedTooLate).step
        (.report 0 (.published "$iothub/methods/POST/m/?$rid=1" [])) =
        (run askedTooLate).publish 0 "d" "$iothub/methods/POST/m/?$rid=1" [] := rfl
    rw [run_append, hreport, publish, hroute]
    rfl
  · cases link with
    | events => exact absurd rfl hlink
    | _ => exact ⟨rfl, rfl⟩
  · cases link <;> exact ⟨rfl, rfl, rfl⟩

end Transport
end DeviceHub.Mqtt
