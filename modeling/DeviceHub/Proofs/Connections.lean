import DeviceHub.Proofs.TwinRequests.Teardown

/-!
What `MqttTransport` has in `connected`.  `connect` looks whether a connection is there, and stores
its own once that is confirmed; `close` takes it out before it disconnects.  What a step does to
`connected` and to the calls of `connect` and `close` is told here once.
-/
namespace DeviceHub.Mqtt

/-- At the beginning or the end of a connection, as only connects and closes are. -/
def Phase.isBound : Phase → Bool
  | confirming _ | ending .. | handing _ .disconnect | grace _ => true
  | _ => false

def Request.isBound {δ : Type} : Request δ → Bool
  | .connect _ | .close => true
  | _ => false

def TransportEvent.call? {δ : Type} : TransportEvent δ → Option Nat
  | .resume i _ | .timeout i | .drop i => some i
  | _ => none

/-- What happens to `connected`. -/
inductive Use where
  /-- A connect finds nothing in `connected` and begins a connection. -/
  | opened (call connection : Nat)
  /-- A connect stores its connection, and returns. -/
  | stored (call connection : Nat)
  /-- A close takes the connection out. -/
  | taken (call connection : Nat)
  /-- The close tells the event loop to stop. -/
  | told (call connection : Nat)
  deriving DecidableEq

namespace Transport

variable {δ : Type}

/-- What an event is to `connected`. -/
def use? (s : Transport δ) : TransportEvent δ → Option Use
  | .resume i _ =>
    s.calls[i]?.bind fun c =>
      match c.phase, c.request with
      | .starting, .connect (.ok _) =>
        if s.current = none then some (.opened i s.connections.length) else none
      | .starting, .close => s.current.map (.taken i)
      | .confirming n, _ =>
        if s.connections[n]?.map Connection.standing = some .connected then some (.stored i n)
        else none
      | .handing n .disconnect, _ =>
        if s.connections[n]?.bind Connection.takes? = some true then some (.told i n) else none
      | _, _ => none
  | _ => none

/-- How a call goes on: its next phase, `connected` then, what happens to that. -/
inductive Course (s : Transport δ) (i : Nat) (c : Call δ) :
    TransportEvent δ → Phase → Option Nat → Option Use → Prop
  | refuse {id options e} (starts : c.phase = .starting) (asks : c.request = .connect options) :
      Course s i c (.resume i id) (.returned (.error e)) s.current none
  | panics {id options} (starts : c.phase = .starting) (asks : c.request = .connect options) :
      Course s i c (.resume i id) .dropped s.current none
  | opens {id options} (starts : c.phase = .starting) (asks : c.request = .connect (.ok options))
      (free : s.current = none) :
      Course s i c (.resume i id) (.confirming s.connections.length) none
        (some (.opened i s.connections.length))
  | stores {id n} (confirms : c.phase = .confirming n) :
      Course s i c (.resume i id) (.returned (.ok .done)) (some n) (some (.stored i n))
  | loses {event n e} (confirms : c.phase = .confirming n) :
      Course s i c event (.ending n (.error e)) s.current none
  | idles {id} (starts : c.phase = .starting) (asks : c.request = .close) :
      Course s i c (.resume i id) (.returned (.ok .done)) s.current none
  | takes {id n} (starts : c.phase = .starting) (asks : c.request = .close)
      (used : s.current = some n) :
      Course s i c (.resume i id) (.handing n .disconnect) none (some (.taken i n))
  | tells {id n} (hands : c.phase = .handing n .disconnect) :
      Course s i c (.resume i id) (.grace n) s.current (some (.told i n))
  /-- Nobody is there any more to be told. -/
  | misses {id n} (hands : c.phase = .handing n .disconnect)
      (finished : s.loop? n = some .finished) :
      Course s i c (.resume i id) (.grace n) s.current none
  | waits {event n} (waits : c.phase = .grace n) :
      Course s i c event (.ending n (.ok .done)) s.current none
  | waited {event n} (waits : c.phase = .grace n) :
      Course s i c event (.returned (.ok .done)) s.current none
  | ends {event n outcome} (ends : c.phase = .ending n outcome) :
      Course s i c event (.returned outcome) s.current none
  | leaves (unsettled : c.phase.rank < 5) : Course s i c (.drop i) .dropped s.current none
  | other {event phase} (unsettled : c.phase.rank < 5) (before : c.phase.isBound = false)
      (starts : c.phase = .starting → c.request.isBound = false) (after : phase.isBound = false) :
      Course s i c event phase s.current none

variable {s t : Transport δ} {event : TransportEvent δ} {i j n : Nat} {c : Call δ} {id : String}

/-- A packet that is handed over is pushed if it is taken. -/
lemma hand?_result {p : Packet} {u : Transport δ} {taken : Bool}
    (h : s.hand? n p = some (u, taken)) :
    u = if taken then s.modifyConnection n (·.push p) else s := by
  obtain ⟨d, -, hmap⟩ := Option.bind_eq_some_iff.1 h
  obtain ⟨took, -, hpair⟩ := Option.map_eq_some_iff.1 hmap
  obtain ⟨rfl, rfl⟩ := Prod.mk.inj hpair
  rfl

lemma hand?_current {p : Packet} {u : Transport δ} {taken : Bool}
    (h : s.hand? n p = some (u, taken)) : u.current = s.current := by
  rw [hand?_result h]
  split <;> rfl

lemma Course.unsettled {phase : Phase} {current : Option Nat} {use : Option Use}
    (h : s.Course i c event phase current use) : c.phase.rank < 5 := by
  cases h with
  | leaves unsettled => exact unsettled
  | other unsettled => exact unsettled
  | _ => simp_all [Phase.rank]

/-- A call goes on that begins or ends no connection. -/
lemma Course.of_other (unsettled : c.phase.rank < 5) (before : c.phase.isBound = false)
    (starts : c.phase = .starting → c.request.isBound = false) (phase : Phase)
    (after : phase.isBound = false) (current : t.current = s.current) (use : s.use? event = none) :
    s.Course i c event phase t.current (s.use? event) := by
  rw [current, use]
  exact .other unsettled before starts after

lemma begin_course (hc : s.calls[i]? = some c) (starts : c.phase = .starting) :
    ∃ phase, (s.begin i c.request).calls = s.calls.modify i (fun c => { c with phase }) ∧
      s.Course i c (.resume i id) phase (s.begin i c.request).current
        (s.use? (.resume i id)) := by
  have hother (h : c.request.isBound = false) (phase : Phase) (after : phase.isBound = false)
      {t : Transport δ} (current : t.current = s.current) :
      s.Course i c (.resume i id) phase t.current (s.use? (.resume i id)) := by
    refine .of_other (by simp [starts, Phase.rank]) (by simp [starts, Phase.isBound]) (fun _ => h)
      phase after current ?_
    cases hrequest : c.request <;> simp_all [use?, Request.isBound]
  cases hrequest : c.request with
  | connect options =>
    simp only [begin, beginConnect]
    cases hcurrent : s.current with
    | some m =>
      have huse : s.use? (.resume i id) = none := by
        cases options <;> simp [use?, hc, starts, hrequest, hcurrent]
      exact ⟨_, rfl, huse ▸ .refuse starts hrequest⟩
    | none =>
      cases options with
      | error failure =>
        have huse : s.use? (.resume i id) = none := by simp [use?, hc, starts, hrequest]
        cases failure with
        | error e => exact ⟨_, rfl, huse ▸ .refuse starts hrequest⟩
        | panic => exact ⟨_, rfl, huse ▸ .panics starts hrequest⟩
      | ok options =>
        have huse : s.use? (.resume i id) = some (.opened i s.connections.length) := by
          simp [use?, hc, starts, hrequest, hcurrent]
        refine ⟨.confirming s.connections.length, rfl, ?_⟩
        rw [huse]
        exact .opens starts hrequest hcurrent
  | close =>
    simp only [begin]
    split
    next hcurrent =>
      have huse : s.use? (.resume i id) = none := by
        simp [use?, hc, starts, hrequest, hcurrent]
      exact ⟨_, rfl, huse ▸ .idles starts hrequest⟩
    next n hcurrent =>
      have huse : s.use? (.resume i id) = some (.taken i n) := by
        simp [use?, hc, starts, hrequest, hcurrent]
      exact ⟨_, rfl, huse ▸ .takes starts hrequest hcurrent⟩
  | send event =>
    have h : c.request.isBound = false := by rw [hrequest]; rfl
    simp only [begin]
    split
    · exact ⟨_, rfl, hother h _ rfl rfl⟩
    · exact ⟨_, rfl, hother h _ rfl rfl⟩
  | setup link dispatcher =>
    have h : c.request.isBound = false := by rw [hrequest]; rfl
    simp only [begin, beginSetup]
    split
    · exact ⟨_, rfl, hother h _ rfl rfl⟩
    · refine ⟨.returned (.error .notReady), ?_, hother h _ rfl ?_⟩
      all_goals split <;> rfl
  | retrieve =>
    have h : c.request.isBound = false := by rw [hrequest]; rfl
    simp only [begin, beginTwin]
    split
    · exact ⟨_, rfl, hother h _ rfl rfl⟩
    · exact ⟨_, rfl, hother h _ rfl rfl⟩
  | update patch =>
    have h : c.request.isBound = false := by rw [hrequest]; rfl
    simp only [begin, beginTwin]
    split
    · exact ⟨_, rfl, hother h _ rfl rfl⟩
    · exact ⟨_, rfl, hother h _ rfl rfl⟩

lemma confirm?_course (hc : s.calls[i]? = some c) (confirms : c.phase = .confirming n)
    (h : s.confirm? i n = some t) :
    ∃ phase, t.calls = s.calls.modify i (fun c => { c with phase }) ∧
      s.Course i c (.resume i id) phase t.current (s.use? (.resume i id)) := by
  obtain ⟨d, hd, hgo⟩ := Option.bind_eq_some_iff.1 h
  cases hstanding : d.standing with
  | connecting =>
    rw [hstanding] at hgo
    cases hgo
  | connected =>
    rw [hstanding] at hgo
    cases hgo
    have huse : s.use? (.resume i id) = some (.stored i n) := by
      simp [use?, hc, confirms, hd, hstanding]
    exact ⟨_, rfl, huse ▸ .stores confirms⟩
  | lost reason =>
    rw [hstanding] at hgo
    cases hgo
    have huse : s.use? (.resume i id) = none := by simp [use?, hc, confirms, hd, hstanding]
    exact ⟨_, rfl, huse ▸ .loses confirms⟩

lemma handing_course {p : Packet} (hc : s.calls[i]? = some c) (hands : c.phase = .handing n p)
    {u : Transport δ} {taken : Bool} (hhand : s.hand? n p = some (u, taken)) :
    ∃ phase, (u.handed i n p taken).calls = s.calls.modify i (fun c => { c with phase }) ∧
      s.Course i c (.resume i id) phase (u.handed i n p taken).current
        (s.use? (.resume i id)) := by
  obtain ⟨hcalls, -, -, htaken⟩ := hand?_eq hhand
  have hcurrent := hand?_current hhand
  obtain ⟨d, hd, hmap⟩ := Option.bind_eq_some_iff.1 hhand
  obtain ⟨took, htakes, hpair⟩ := Option.map_eq_some_iff.1 hmap
  obtain rfl : took = taken := (Prod.mk.inj hpair).2
  by_cases hp : p = .disconnect
  · subst hp
    refine ⟨.grace n, congrArg (List.modify · i _) hcalls, ?_⟩
    change s.Course i c _ _ u.current _
    rw [hcurrent]
    cases took with
    | true =>
      have huse : s.use? (.resume i id) = some (.told i n) := by
        simp [use?, hc, hands, hd, htakes]
      exact huse ▸ .tells hands
    | false =>
      have huse : s.use? (.resume i id) = none := by simp [use?, hc, hands, hd, htakes]
      exact huse ▸ .misses hands (by simpa using htaken)
  · have hbound : c.phase.isBound = false := by
      rw [hands]
      cases p <;> first | rfl | exact absurd rfl hp
    have huse : s.use? (.resume i id) = none := by cases p <;> simp_all [use?]
    have hhanded : u.handed i n p took =
        u.finish i (if took then .ok .done else .error p.refusal) := by
      cases p <;> first | rfl | exact absurd rfl hp
    rw [hhanded]
    refine ⟨_, congrArg (List.modify · i _) hcalls, .of_other (by simp [hands, Phase.rank]) hbound
      (by simp [hands]) (.returned _) rfl ?_ huse⟩
    exact hcurrent

lemma subscribe?_course (h : s.subscribe? i n = some t) :
    ∃ phase, t.calls = s.calls.modify i (fun c => { c with phase }) ∧
      phase.isBound = false ∧ t.current = s.current := by
  obtain ⟨d, hd, hgo⟩ := Option.bind_eq_some_iff.1 h
  split at hgo
  · cases hgo
    exact ⟨.entering n, rfl, rfl, rfl⟩
  · split at hgo
    · obtain ⟨⟨u, taken⟩, hhand, hu⟩ := Option.map_eq_some_iff.1 hgo
      obtain ⟨hcalls, -⟩ := hand?_eq hhand
      have hcurrent := hand?_current hhand
      cases hu
      cases taken with
      | true => exact ⟨.entering n, congrArg (List.modify · i _) hcalls, rfl, hcurrent⟩
      | false => exact ⟨.returned _, congrArg (List.modify · i _) hcalls, rfl, hcurrent⟩
    · cases hgo

lemma asking_course {p : Packet} {id' : String}
    (h : ((s.hand? n p).map fun (t, taken) =>
      if taken then t.setPhase i (.awaiting id)
      else t.settle i id (.error (.transport id'))) = some t) :
    ∃ phase, t.calls = s.calls.modify i (fun c => { c with phase }) ∧
      phase.isBound = false ∧ t.current = s.current := by
  obtain ⟨⟨u, taken⟩, hhand, hu⟩ := Option.map_eq_some_iff.1 h
  obtain ⟨hcalls, -⟩ := hand?_eq hhand
  have hcurrent := hand?_current hhand
  cases hu
  cases taken with
  | true => exact ⟨.awaiting id, congrArg (List.modify · i _) hcalls, rfl, hcurrent⟩
  | false => exact ⟨.returned _, congrArg (List.modify · i _) hcalls, rfl, hcurrent⟩

lemma respond?_eq (h : s.respond? i id c = some t) : ∃ outcome, t = s.settle i id outcome := by
  unfold respond? at h
  split at h
  · cases h
    exact ⟨_, rfl⟩
  · split at h <;> cases h
    exact ⟨_, rfl⟩

lemma resume?_course (hc : s.calls[i]? = some c) (h : s.resume? i id = some t) :
    ∃ phase, t.calls = s.calls.modify i (fun c => { c with phase }) ∧
      s.Course i c (.resume i id) phase t.current (s.use? (.resume i id)) := by
  obtain ⟨d, hd, hgo⟩ := Option.bind_eq_some_iff.1 h
  obtain rfl := Option.some.inj (hc.symm.trans hd)
  -- a call at a request about the twin
  have hother (rank : c.phase.rank < 5) (before : c.phase.isBound = false)
      (starts : c.phase ≠ .starting) (use : s.use? (.resume i id) = none) (phase : Phase)
      (calls : t.calls = s.calls.modify i fun c => { c with phase })
      (after : phase.isBound = false) (current : t.current = s.current) :
      ∃ phase, t.calls = s.calls.modify i (fun c => { c with phase }) ∧
        s.Course i c (.resume i id) phase t.current (s.use? (.resume i id)) :=
    ⟨phase, calls, .of_other rank before (fun h => absurd h starts) phase after current use⟩
  cases hphase : c.phase with
  | starting =>
    rw [hphase] at hgo
    cases hgo
    exact begin_course hc hphase
  | confirming n =>
    rw [hphase] at hgo
    exact confirm?_course hc hphase hgo
  | ending n outcome =>
    rw [hphase] at hgo
    simp only [Option.ite_none_right_eq_some, Option.some.injEq] at hgo
    have huse : s.use? (.resume i id) = none := by simp [use?, hc, hphase]
    rw [← hgo.2, huse]
    exact ⟨_, rfl, .ends hphase⟩
  | handing n p =>
    rw [hphase] at hgo
    obtain ⟨⟨u, taken⟩, hhand, hu⟩ := Option.map_eq_some_iff.1 hgo
    rw [← hu]
    exact handing_course hc hphase hhand
  | grace n =>
    rw [hphase] at hgo
    simp only [Option.ite_none_right_eq_some, Option.some.injEq] at hgo
    have huse : s.use? (.resume i id) = none := by simp [use?, hc, hphase]
    rw [← hgo.2, huse]
    exact ⟨_, rfl, .waited hphase⟩
  | subscribing n =>
    rw [hphase] at hgo
    obtain ⟨phase, calls, after, current⟩ := subscribe?_course hgo
    exact hother (by simp [hphase, Phase.rank]) (by rw [hphase]; rfl) (by simp [hphase])
      (by simp [use?, hc, hphase]) phase calls after current
  | entering n =>
    rw [hphase] at hgo
    cases hgo
    exact hother (by simp [hphase, Phase.rank]) (by rw [hphase]; rfl) (by simp [hphase])
      (by simp [use?, hc, hphase]) (.asking n id) rfl rfl rfl
  | asking n id' =>
    rw [hphase] at hgo
    obtain ⟨phase, calls, after, current⟩ := asking_course hgo
    exact hother (by simp [hphase, Phase.rank]) (by rw [hphase]; rfl) (by simp [hphase])
      (by simp [use?, hc, hphase]) phase calls after current
  | awaiting id' =>
    rw [hphase] at hgo
    obtain ⟨outcome, rfl⟩ := respond?_eq hgo
    exact hother (by simp [hphase, Phase.rank]) (by rw [hphase]; rfl) (by simp [hphase])
      (by simp [use?, hc, hphase]) (.returned outcome) rfl rfl rfl
  | returned outcome =>
    rw [hphase] at hgo
    cases hgo
  | dropped =>
    rw [hphase] at hgo
    cases hgo

lemma use?_eq_none (h : s.resume? i id = none) : s.use? (.resume i id) = none := by
  cases hc : s.calls[i]? with
  | none => simp [use?, hc]
  | some c =>
    cases hphase : c.phase with
    | starting => simp [resume?, hc, hphase] at h
    | confirming n =>
      cases hd : s.connections[n]? with
      | none => simp [use?, hc, hphase, hd]
      | some d => cases hstanding : d.standing <;> simp_all [use?, resume?, confirm?]
    | handing n p =>
      cases hd : s.connections[n]? with
      | none => cases p <;> simp [use?, hc, hphase, hd]
      | some d => cases p <;> simp_all [use?, resume?, hand?]
    | _ => simp [use?, hc, hphase]

/-- No call goes on, nothing happens to `connected`, and others may begin. -/
def Rests (s t : Transport δ) : Prop :=
  t.current = s.current ∧ ∀ i c, s.calls[i]? = some c → t.phase? i = some c.phase

lemma rests_of_eq (current : t.current = s.current) (calls : t.calls = s.calls) : s.Rests t :=
  ⟨current, fun i c hc => by rw [phase?, calls, hc, Option.map_some]⟩

lemma rests_deliver (s : Transport δ) (link : SharedLink) (delivery : δ → Delivery δ) :
    s.Rests (s.deliver link delivery) := by
  unfold deliver
  split <;> exact rests_of_eq rfl rfl

lemma rests_complete (s : Transport δ) (r : TwinResponse) : s.Rests (s.complete r) := by
  unfold complete
  cases s.pending.find? r.requestId with
  | none => exact rests_of_eq rfl rfl
  | some j =>
    refine ⟨rfl, fun i c hc => ?_⟩
    rw [phase?, List.getElem?_modify, hc]
    by_cases hij : j = i <;> simp [hij]

lemma rests_publish (s : Transport δ) (n : Nat) (deviceId topic : String) (payload : Bytes) :
    s.Rests (s.publish n deviceId topic payload) := by
  unfold publish
  split
  · exact rests_deliver ..
  · exact rests_deliver ..
  · exact rests_complete ..
  · exact rests_deliver ..
  · exact rests_of_eq rfl rfl

lemma rests_report (s : Transport δ) (n : Nat) (r : Report) : s.Rests (s.report n r) := by
  unfold report
  split
  · exact rests_of_eq rfl rfl
  · split
    · exact rests_of_eq rfl rfl
    · split
      · exact rests_of_eq rfl rfl
      · exact rests_of_eq rfl rfl
      · exact rests_publish ..
      · exact rests_of_eq rfl rfl
      · exact rests_of_eq rfl rfl

lemma rests_unwind (s : Transport δ) (n : Nat) : s.Rests (s.unwind n) := by
  unfold unwind
  split
  next reason _ =>
    refine ⟨rfl, fun i c hc => ?_⟩
    have hcalls := getElem?_failPending s reason i
    rw [hc] at hcalls
    change (s.failPending reason).calls[i]?.map Call.phase = some c.phase
    rw [hcalls, Option.map_some, Option.map_some, Option.some.injEq]
    split <;> rfl
  · exact rests_of_eq rfl rfl
  · exact rests_of_eq rfl rfl

lemma phase?_of_modify {phase : Phase}
    (calls : t.calls = s.calls.modify i fun c => { c with phase }) (j : Nat) :
    t.phase? j = (s.phase? j).map fun old => if i = j then phase else old := by
  rw [phase?, phase?, calls, List.getElem?_modify]
  cases s.calls[j]? with
  | none => rfl
  | some c => by_cases hij : i = j <;> simp [hij]

lemma timeout_course (hc : s.calls[i]? = some c) :
    s.Rests (s.timeout i) ∨
      ∃ phase, (s.timeout i).calls = s.calls.modify i (fun c => { c with phase }) ∧
        s.Course i c (.timeout i) phase (s.timeout i).current none := by
  unfold timeout
  rw [hc]
  cases hphase : c.phase with
  | confirming n =>
    simp only [Option.map_some, hphase]
    exact .inr ⟨_, rfl, .loses hphase⟩
  | grace n =>
    simp only [Option.map_some, hphase]
    exact .inr ⟨_, rfl, .waits hphase⟩
  | _ =>
    simp only [Option.map_some, hphase]
    exact .inl (rests_of_eq rfl rfl)

lemma drop_course (hc : s.calls[i]? = some c) :
    s.Rests (s.drop i) ∨
      ∃ phase, (s.drop i).calls = s.calls.modify i (fun c => { c with phase }) ∧
        s.Course i c (.drop i) phase (s.drop i).current none := by
  unfold drop
  rw [hc]
  cases hphase : c.phase with
  | returned outcome | dropped =>
    simp only [Option.map_some, hphase]
    exact .inl (rests_of_eq rfl rfl)
  | _ =>
    simp only [Option.map_some, hphase]
    exact .inr ⟨.dropped, rfl, .leaves (by simp [hphase, Phase.rank])⟩

lemma rests_of_call?_eq_none (h : event.call? = none) : s.Rests (s.step event) := by
  cases event with
  | resume | timeout | drop => cases h
  | start request =>
    refine ⟨rfl, fun i c hc => ?_⟩
    have hlt := (List.getElem?_eq_some_iff.1 hc).1
    simp [step, phase?, List.getElem?_append_left hlt, hc]
  | report n r => exact rests_report s n r
  | fail n reason => exact rests_of_eq rfl rfl
  | stop n =>
    simp only [step]
    split <;> exact rests_of_eq rfl rfl
  | unwind n => exact rests_unwind s n
  | transmit n => exact rests_of_eq rfl rfl
  | reply n status requestId body =>
    simp only [step]
    cases hhand : s.hand? n (.publish (Topic.methodResponse status requestId) body .atMostOnce) with
    | none => exact rests_of_eq rfl rfl
    | some result => exact rests_of_eq (hand?_current hhand) (hand?_eq hhand).1

/-- What every event comes to: one call goes on, or none. -/
theorem step_course (s : Transport δ) (event : TransportEvent δ) :
    s.Rests (s.step event) ∧ s.use? event = none ∨
      ∃ i c phase, s.calls[i]? = some c ∧
        (s.step event).calls = s.calls.modify i (fun c => { c with phase }) ∧
        s.Course i c event phase (s.step event).current (s.use? event) := by
  cases event with
  | resume i id =>
    simp only [step]
    cases hresume : s.resume? i id with
    | none => exact .inl ⟨rests_of_eq rfl rfl, use?_eq_none hresume⟩
    | some t =>
      obtain ⟨c, hc, -⟩ := Option.bind_eq_some_iff.1 hresume
      obtain ⟨phase, calls, course⟩ := resume?_course hc hresume
      exact .inr ⟨i, c, phase, hc, calls, course⟩
  | timeout i =>
    cases hc : s.calls[i]? with
    | none => exact .inl ⟨by simp only [step, timeout, hc]; exact rests_of_eq rfl rfl, rfl⟩
    | some c =>
      obtain hrests | ⟨phase, calls, course⟩ := timeout_course hc
      · exact .inl ⟨hrests, rfl⟩
      · exact .inr ⟨i, c, phase, hc, calls, course⟩
  | drop i =>
    cases hc : s.calls[i]? with
    | none => exact .inl ⟨by simp only [step, drop, hc]; exact rests_of_eq rfl rfl, rfl⟩
    | some c =>
      obtain hrests | ⟨phase, calls, course⟩ := drop_course hc
      · exact .inl ⟨hrests, rfl⟩
      · exact .inr ⟨i, c, phase, hc, calls, course⟩
  | _ => exact .inl ⟨rests_of_call?_eq_none rfl, rfl⟩

lemma phase?_step_of_ne (h : event.call? ≠ some i) (hc : s.calls[i]? = some c) :
    (s.step event).phase? i = some c.phase := by
  have hmodify {j : Nat} {phase : Phase} (hne : j ≠ i)
      (calls : (s.step event).calls = s.calls.modify j fun c => { c with phase }) :
      (s.step event).phase? i = some c.phase := by
    rw [phase?_of_modify calls, phase?, hc]
    simp [hne]
  cases hcall : event.call? with
  | none => exact (rests_of_call?_eq_none hcall).2 i c hc
  | some j =>
    have hne : j ≠ i := fun hij => h (hij ▸ hcall)
    cases event with
    | resume k id =>
      cases hcall
      cases hresume : s.resume? j id with
      | none => simp [step, hresume, phase?, hc]
      | some t =>
        obtain ⟨d, hd, -⟩ := Option.bind_eq_some_iff.1 hresume
        obtain ⟨phase, calls, -⟩ := resume?_course hd hresume
        exact hmodify hne (by simpa only [step, hresume, Option.getD_some] using calls)
    | timeout k =>
      cases hcall
      cases hd : s.calls[j]? with
      | none => simp [step, timeout, hd, phase?, hc]
      | some d =>
        obtain hrests | ⟨phase, calls, -⟩ := timeout_course hd
        · exact hrests.2 i c hc
        · exact hmodify hne calls
    | drop k =>
      cases hcall
      cases hd : s.calls[j]? with
      | none => simp [step, drop, hd, phase?, hc]
      | some d =>
        obtain hrests | ⟨phase, calls, -⟩ := drop_course hd
        · exact hrests.2 i c hc
        · exact hmodify hne calls
    | _ => cases hcall

lemma step_keeps (event : TransportEvent δ) (hc : s.calls[i]? = some c) :
    ∃ c', (s.step event).calls[i]? = some c' ∧ c'.request = c.request ∧
      (c'.phase = c.phase ∨
        s.Course i c event c'.phase (s.step event).current (s.use? event)) := by
  obtain ⟨c', hc', hrequest, -⟩ := (step_move s event).keeps hc
  refine ⟨c', hc', hrequest, ?_⟩
  obtain ⟨⟨-, hrests⟩, -⟩ | ⟨j, d, phase, hd, calls, course⟩ := step_course s event
  · exact .inl ((phase?_iff_of_call hc').1 (hrests i c hc))
  · have hphase := phase?_of_modify calls i
    rw [phase?, hc', phase?, hc] at hphase
    by_cases hij : j = i
    · subst hij
      obtain rfl := Option.some.inj (hc.symm.trans hd)
      obtain rfl : c'.phase = phase := by simpa using hphase
      exact .inr course
    · left
      simpa [hij] using hphase

/-- A call there is after an event begins, or has become what it is. -/
lemma step_call {c' : Call δ} (hc' : (s.step event).calls[i]? = some c') :
    c'.phase = .starting ∨ ∃ c, s.calls[i]? = some c ∧ c'.request = c.request ∧
      (c'.phase = c.phase ∨
        s.Course i c event c'.phase (s.step event).current (s.use? event)) := by
  obtain ⟨request, -, -, rfl⟩ | ⟨c, hc, -⟩ := (step_move s event).fate hc'
  · exact .inl rfl
  · obtain ⟨d, hd, hkeeps⟩ := step_keeps event hc
    obtain rfl := Option.some.inj (hc'.symm.trans hd)
    exact .inr ⟨c, hc, hkeeps⟩

lemma step_finished (event : TransportEvent δ) (h : s.loop? n = some .finished) :
    (s.step event).loop? n = some .finished := by
  cases step_move s event with
  | still _ _ loops => exact loops.finished h
  | start request => exact h
  | turn _ _ _ loops => exact loops.finished h
  | complete _ _ _ _ loops => exact loops.finished h
  | @fail m _ _ left _ _ _ others =>
    have hne : n ≠ m := fun heq => by simp [heq, left] at h
    rw [others n hne, h]
  | @finish m _ _ _ _ loop others =>
    by_cases heq : n = m
    · rw [heq, loop]
    · rw [others n heq, h]

end Transport
end DeviceHub.Mqtt
