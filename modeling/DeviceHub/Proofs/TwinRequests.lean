import DeviceHub.Mqtt.Transport
import DeviceHub.Proofs.SortedMap
import Mathlib.Data.List.Induction

/-!
Runs of `MqttTransport`, told by `twin_request`.  Calls begin, go on and are dropped, responses come
in and connections are lost in any order.  An event moves one call at most; what it does to that
call, to the ids in `pending` and to the event loops of the connections is told here once.
-/
namespace DeviceHub.Mqtt

def Request.isTwin {δ : Type} : Request δ → Bool
  | .retrieve | .update _ => true
  | _ => false

namespace Phase

/-- The id a call is entered under. -/
def id? : Phase → Option String
  | asking _ id | awaiting id => some id
  | _ => none

/-- At a connection or a packet, as only calls are that do not come through `twin_request`. -/
def isPlain : Phase → Bool
  | confirming _ | ending .. | handing .. | grace _ => true
  | _ => false

/-- How far a call is. -/
def rank : Phase → Nat
  | starting => 0
  | confirming _ | handing .. | subscribing _ => 1
  | grace _ | entering _ => 2
  | ending .. | asking .. => 3
  | awaiting _ => 4
  | returned _ | dropped => 5

lemma rank_of_id? {phase : Phase} {id : String} (h : phase.id? = some id) :
    3 ≤ phase.rank ∧ phase.rank < 5 := by
  cases phase <;> simp_all [id?, rank]

lemma id?_of_isPlain {phase : Phase} (h : phase.isPlain = true) : phase.id? = none := by
  cases phase <;> simp_all [id?, isPlain]

lemma rank_of_early {phase : Phase} (hid : phase.id? = none) (hplain : phase.isPlain = false)
    (hlt : phase.rank < 5) : phase.rank < 3 := by
  cases phase <;> simp_all [id?, isPlain, rank]

end Phase

namespace Transport

variable {δ : Type} {s t : Transport δ}

def run (events : List (TransportEvent δ)) : Transport δ :=
  events.foldl step {}

@[simp] lemma run_append (events : List (TransportEvent δ)) (event : TransportEvent δ) :
    run (events ++ [event]) = (run events).step event :=
  List.foldl_append

def loop? (s : Transport δ) (n : Nat) : Option Loop :=
  s.connections[n]?.map Connection.loop

/-- Requests that wait for a response have not failed yet. -/
def AtWork (s : Transport δ) (n : Nat) : Prop :=
  s.loop? n ≠ some .drained ∧ s.loop? n ≠ some .finished

/-- A loop may be left, and loops may begin. -/
def KeepsLoops (s t : Transport δ) : Prop :=
  ∀ n, t.loop? n = s.loop? n ∨ s.AtWork n ∧ t.AtWork n

/-- A response comes in over a connection whose loop runs. -/
def Brings (s : Transport δ) (event : TransportEvent δ) (r : TwinResponse) : Prop :=
  ∃ n c topic payload, event = .report n (.published topic payload) ∧
    s.connections[n]? = some c ∧ c.loop = .running ∧
    Topic.route c.deviceId topic payload = .twinResponse r

/-- How a call goes on: its next phase, and which calls are entered then. -/
inductive Turn (s : Transport δ) (i : Nat) (c : Call δ) :
    TransportEvent δ → Phase → KeyMap Nat → Prop
  | plain {event phase}
      (before : c.phase.isPlain = true ∨ c.phase = .starting ∧ c.request.isTwin = false)
      (after : phase.id? = none) (further : c.phase.rank < phase.rank) :
      Turn s i c event phase s.pending
  | approach {event phase} (before : c.phase.id? = none) (unsettled : phase.isPlain = false)
      (after : phase.id? = none) (further : c.phase.rank < phase.rank)
      (fails : ∀ answer, phase ≠ .returned (.ok answer)) : Turn s i c event phase s.pending
  | enter {n id} (enters : c.phase = .entering n) :
      Turn s i c (.resume i id) (.asking n id) (s.pending.insert id i)
  | take {n id other} (asks : c.phase = .asking n id) (taken : s.loop? n ≠ some .finished) :
      Turn s i c (.resume i other) (.awaiting id) s.pending
  | refuse {n id other} (asks : c.phase = .asking n id) (finished : s.loop? n = some .finished) :
      Turn s i c (.resume i other) (.returned (.error (.transport Connection.gone)))
        (s.pending.erase id)
  | answer {id other response} (waits : c.phase = .awaiting id)
      (answered : c.response = some response) :
      Turn s i c (.resume i other) (.returned (response.bind c.request.answer))
        (s.pending.erase id)
  /-- Its entry is gone and nothing has come. -/
  | lose {id other} (waits : c.phase = .awaiting id) (unanswered : c.response = none) :
      Turn s i c (.resume i other)
        (.returned (.error (.transport "connection closed before twin response")))
        (s.pending.erase id)
  | leave {id} (entered : c.phase.id? = some id) :
      Turn s i c (.drop i) .dropped (s.pending.erase id)

inductive Move (s : Transport δ) : TransportEvent δ → Transport δ → Prop
  | still {event t} (calls : t.calls = s.calls) (pending : t.pending = s.pending)
      (loops : s.KeepsLoops t) : Move s event t
  | start (request : Request δ) :
      Move s (.start request) { s with calls := s.calls ++ [{ request }] }
  | turn {event t i c phase} (call : s.calls[i]? = some c)
      (turn : s.Turn i c event phase t.pending)
      (calls : t.calls = s.calls.modify i fun c => { c with phase })
      (loops : s.KeepsLoops t) : Move s event t
  | complete {event t i r} (brings : s.Brings event r)
      (entry : s.pending.find? r.requestId = some i)
      (calls : t.calls = s.calls.modify i fun c => { c with response := some (.ok r) })
      (pending : t.pending = s.pending.erase r.requestId) (loops : s.KeepsLoops t) :
      Move s event t
  | fail {n t reason} (left : s.loop? n = some (.left reason))
      (calls : t.calls = (s.failPending reason).calls) (pending : t.pending = [])
      (loop : t.loop? n = some .drained) (others : ∀ m, m ≠ n → t.loop? m = s.loop? m) :
      Move s (.unwind n) t
  | finish {n t} (drained : s.loop? n = some .drained) (calls : t.calls = s.calls)
      (pending : t.pending = s.pending) (loop : t.loop? n = some .finished)
      (others : ∀ m, m ≠ n → t.loop? m = s.loop? m) : Move s (.unwind n) t

/-! ### Loops -/

section Loops

variable {n : Nat}

lemma keepsLoops_of_eq (h : t.connections = s.connections) : s.KeepsLoops t := by
  intro m
  left
  rw [loop?, loop?, h]

lemma KeepsLoops.trans {u : Transport δ} (h : s.KeepsLoops t) (h' : t.KeepsLoops u) :
    s.KeepsLoops u := by
  intro m
  have hm := h m
  have hm' := h' m
  unfold AtWork at *
  grind

lemma loop?_of_modify {change : Connection → Connection}
    (h : t.connections = s.connections.modify n change) (m : Nat) :
    t.loop? m = s.connections[m]?.map fun c => if n = m then (change c).loop else c.loop := by
  rw [loop?, h, List.getElem?_modify]
  cases s.connections[m]? with
  | none => rfl
  | some c => by_cases hn : n = m <;> simp [hn]

lemma keepsLoops_of_modify {change : Connection → Connection}
    (h : t.connections = s.connections.modify n change) (keeps : ∀ c, (change c).loop = c.loop) :
    s.KeepsLoops t := by
  intro m
  left
  rw [loop?_of_modify h, loop?]
  simp [keeps]

lemma keepsLoops_of_append {c : Connection} (h : t.connections = s.connections ++ [c])
    (running : c.loop = .running) : s.KeepsLoops t := by
  intro m
  unfold AtWork loop?
  rw [h]
  obtain hlt | heq | hgt := Nat.lt_trichotomy m s.connections.length
  · exact .inl (by rw [List.getElem?_append_left hlt])
  · right
    simp [heq, running]
  · left
    rw [List.getElem?_eq_none (by simp; omega), List.getElem?_eq_none (Nat.le_of_lt hgt)]

lemma keepsLoops_of_leave {change : Connection → Connection}
    (h : t.connections = s.connections.modify n change)
    (leaves : ∀ c, s.connections[n]? = some c →
      (change c).loop = c.loop ∨ c.loop = .running ∧ ∃ reason, (change c).loop = .left reason) :
    s.KeepsLoops t := by
  intro m
  rw [AtWork, AtWork, loop?_of_modify h, loop?]
  cases hc : s.connections[m]? with
  | none => exact .inl rfl
  | some c =>
    by_cases hn : n = m
    · subst hn
      obtain hloop | ⟨hrunning, reason, hloop⟩ := leaves c hc
      · left
        simp [hloop]
      · right
        simp [hrunning, hloop]
    · left
      simp [hn]

end Loops

/-! ### Moves -/

section Moves

variable {i : Nat} {c : Call δ} {id : String}

/-- Packets change nothing about calls, entries and loops. -/
lemma hand?_eq {n : Nat} {p : Packet} {u : Transport δ} {taken : Bool}
    (h : s.hand? n p = some (u, taken)) :
    u.calls = s.calls ∧ u.pending = s.pending ∧ s.KeepsLoops u ∧
      (taken = true ↔ s.loop? n ≠ some .finished) := by
  obtain ⟨c, hc, hmap⟩ := Option.bind_eq_some_iff.1 h
  obtain ⟨took, htakes, hpair⟩ := Option.map_eq_some_iff.1 hmap
  have htaken : took = true ↔ s.loop? n ≠ some .finished := by
    unfold Connection.takes? at htakes
    simp only [loop?, hc, Option.map_some, ne_eq, Option.some.injEq]
    grind
  obtain ⟨rfl, rfl⟩ := Prod.mk.inj hpair
  cases took with
  | false => exact ⟨rfl, rfl, keepsLoops_of_eq rfl, htaken⟩
  | true => exact ⟨rfl, rfl, keepsLoops_of_modify rfl fun _ => rfl, htaken⟩

lemma Move.of_plain {event : TransportEvent δ} (hc : s.calls[i]? = some c)
    (before : c.phase.isPlain = true ∨ c.phase = .starting ∧ c.request.isTwin = false)
    (pending : t.pending = s.pending) (phase : Phase) (after : phase.id? = none)
    (further : c.phase.rank < phase.rank)
    (calls : t.calls = s.calls.modify i fun c => { c with phase }) (loops : s.KeepsLoops t) :
    s.Move event t := by
  refine .turn hc ?_ calls loops
  rw [pending]
  exact .plain before after further

lemma Move.of_approach {event : TransportEvent δ} (hc : s.calls[i]? = some c)
    (before : c.phase.id? = none) (pending : t.pending = s.pending) (phase : Phase)
    (unsettled : phase.isPlain = false) (after : phase.id? = none)
    (further : c.phase.rank < phase.rank) (fails : ∀ answer, phase ≠ .returned (.ok answer))
    (calls : t.calls = s.calls.modify i fun c => { c with phase }) (loops : s.KeepsLoops t) :
    s.Move event t := by
  refine .turn hc ?_ calls loops
  rw [pending]
  exact .approach before unsettled after further fails

lemma beginConnect_move (hc : s.calls[i]? = some c)
    (before : c.phase = .starting ∧ c.request.isTwin = false) (options : Checked BrokerOptions) :
    s.Move (.resume i id) (s.beginConnect i options) := by
  have hend (phase : Phase) (after : phase.id? = none) (further : 0 < phase.rank) :
      s.Move (.resume i id) (s.setPhase i phase) :=
    .of_plain hc (.inr before) rfl phase after (by rw [before.1]; exact further) rfl
      (keepsLoops_of_eq rfl)
  unfold beginConnect
  split
  · exact hend (.returned _) rfl (Nat.zero_lt_succ 4)
  · exact hend (.returned _) rfl (Nat.zero_lt_succ 4)
  · exact hend .dropped rfl (Nat.zero_lt_succ 4)
  · exact .of_plain hc (.inr before) rfl (.confirming s.connections.length) rfl
      (by simp [before, Phase.rank]) rfl (keepsLoops_of_append rfl rfl)

lemma beginSetup_move (hc : s.calls[i]? = some c)
    (before : c.phase = .starting ∧ c.request.isTwin = false) (link : SharedLink) (dispatcher : δ) :
    s.Move (.resume i id) (s.beginSetup i link dispatcher) := by
  unfold beginSetup
  split
  · exact .of_plain hc (.inr before) rfl (.handing _ _) rfl (by simp [before, Phase.rank]) rfl
      (keepsLoops_of_eq rfl)
  · refine .of_plain hc (.inr before) ?_ (.returned (.error .notReady)) rfl
      (by simp [before, Phase.rank]) ?_ (keepsLoops_of_eq ?_)
    all_goals split <;> rfl

/-- A request about the twin begins by having the responses subscribed to. -/
lemma beginTwin_move (hc : s.calls[i]? = some c) (starting : c.phase = .starting) :
    s.Move (.resume i id) (s.beginTwin i) := by
  have hnone : c.phase.id? = none := by rw [starting]; rfl
  unfold beginTwin
  split
  · exact .of_approach hc hnone rfl (.returned (.error .notReady)) rfl rfl
      (by simp [starting, Phase.rank]) (by simp) rfl (keepsLoops_of_eq rfl)
  · exact .of_approach hc hnone rfl (.subscribing _) rfl rfl (by simp [starting, Phase.rank])
      (by simp) rfl (keepsLoops_of_modify rfl fun c => by split <;> rfl)

lemma begin_move (hc : s.calls[i]? = some c) (starting : c.phase = .starting) :
    s.Move (.resume i id) (s.begin i c.request) := by
  have hplain (twin : c.request.isTwin = false) (phase : Phase) {t : Transport δ}
      (pending : t.pending = s.pending) (after : phase.id? = none) (further : 0 < phase.rank)
      (calls : t.calls = s.calls.modify i fun c => { c with phase })
      (connections : t.connections = s.connections) : s.Move (.resume i id) t :=
    .of_plain hc (.inr ⟨starting, twin⟩) pending phase after
      (by rw [starting]; exact further) calls (keepsLoops_of_eq connections)
  cases hrequest : c.request with
  | connect options => exact beginConnect_move hc ⟨starting, by rw [hrequest]; rfl⟩ options
  | close =>
    have htwin : c.request.isTwin = false := by rw [hrequest]; rfl
    simp only [begin]
    split
    · exact hplain htwin (.returned (.ok .done)) rfl rfl (Nat.zero_lt_succ 4) rfl rfl
    · exact hplain htwin (.handing _ _) rfl rfl (Nat.zero_lt_succ 0) rfl rfl
  | send event =>
    have htwin : c.request.isTwin = false := by rw [hrequest]; rfl
    simp only [begin]
    split
    · exact hplain htwin (.returned (.error .notReady)) rfl rfl (Nat.zero_lt_succ 4) rfl rfl
    · exact hplain htwin (.handing _ _) rfl rfl (Nat.zero_lt_succ 0) rfl rfl
  | setup link dispatcher =>
    exact beginSetup_move hc ⟨starting, by rw [hrequest]; rfl⟩ link dispatcher
  | retrieve => exact beginTwin_move hc starting
  | update patch => exact beginTwin_move hc starting

lemma subscribe?_move {n : Nat} (hc : s.calls[i]? = some c) (subscribing : c.phase = .subscribing n)
    (h : s.subscribe? i n = some t) : s.Move (.resume i id) t := by
  have hnone : c.phase.id? = none := by rw [subscribing]; rfl
  obtain ⟨d, hd, hgo⟩ := Option.bind_eq_some_iff.1 h
  split at hgo
  · cases hgo
    exact .of_approach hc hnone rfl (.entering n) rfl rfl (by simp [subscribing, Phase.rank])
      (by simp) rfl (keepsLoops_of_eq rfl)
  · split at hgo
    · obtain ⟨⟨u, taken⟩, hhand, hu⟩ := Option.map_eq_some_iff.1 hgo
      obtain ⟨hcalls, hpending, hloops, -⟩ := hand?_eq hhand
      cases hu
      have hkeeps (phase : Phase) : s.KeepsLoops ((u.modifyConnection n fun c =>
          { c with hearsTwin := taken, subscribers := c.subscribers.leave i }).setPhase i phase) :=
        hloops.trans (keepsLoops_of_modify rfl fun _ => rfl)
      cases taken with
      | true =>
        exact .of_approach hc hnone hpending (.entering n) rfl rfl
          (by simp [subscribing, Phase.rank]) (by simp) (congrArg (List.modify · i _) hcalls)
          (hkeeps _)
      | false =>
        exact .of_approach hc hnone hpending (.returned (.error (Packet.refusal _))) rfl rfl
          (by simp [subscribing, Phase.rank]) (by simp) (congrArg (List.modify · i _) hcalls)
          (hkeeps _)
    · cases hgo

lemma confirm?_move {n : Nat} (hc : s.calls[i]? = some c) (confirming : c.phase = .confirming n)
    (h : s.confirm? i n = some t) : s.Move (.resume i id) t := by
  have hplain : c.phase.isPlain = true := by rw [confirming]; rfl
  obtain ⟨d, hd, hgo⟩ := Option.bind_eq_some_iff.1 h
  split at hgo
  · cases hgo
  · cases hgo
    exact .of_plain hc (.inl hplain) rfl (.returned (.ok .done)) rfl
      (by simp [confirming, Phase.rank]) rfl (keepsLoops_of_eq rfl)
  · cases hgo
    exact .of_plain hc (.inl hplain) rfl (.ending n _) rfl
      (by simp [confirming, Phase.rank]) rfl (keepsLoops_of_modify rfl fun _ => rfl)

/-- A request is handed over, or refused when the loop is at its end. -/
lemma asking_move {n : Nat} {id' : String} (hc : s.calls[i]? = some c)
    (asking : c.phase = .asking n id)
    (h : ((s.hand? n (c.request.twinPacket id)).map fun (t, taken) =>
      if taken then t.setPhase i (.awaiting id)
      else t.settle i id (.error (.transport Connection.gone))) = some t) :
    s.Move (.resume i id') t := by
  obtain ⟨⟨u, taken⟩, hhand, hu⟩ := Option.map_eq_some_iff.1 h
  obtain ⟨hcalls, hpending, hloops, htaken⟩ := hand?_eq hhand
  cases hu
  cases taken with
  | true =>
    refine .turn hc ?_ (congrArg (List.modify · i _) hcalls) hloops
    change s.Turn i c _ _ u.pending
    rw [hpending]
    exact .take asking (htaken.1 rfl)
  | false =>
    refine .turn hc ?_ (congrArg (List.modify · i _) hcalls) hloops
    have hfinished : s.loop? n = some .finished := by simpa using htaken
    change s.Turn i c _ _ (u.pending.erase id)
    rw [hpending]
    exact .refuse asking hfinished

lemma awaiting_move {id' : String} (hc : s.calls[i]? = some c) (awaiting : c.phase = .awaiting id)
    (h : s.respond? i id c = some t) : s.Move (.resume i id') t := by
  unfold respond? at h
  split at h
  next response hresponse =>
    cases h
    exact .turn hc (.answer awaiting hresponse) rfl (keepsLoops_of_eq rfl)
  next hresponse =>
    split at h
    · cases h
    · cases h
      exact .turn hc (.lose awaiting hresponse) rfl (keepsLoops_of_eq rfl)

lemma resume_move (s : Transport δ) (i : Nat) (id : String) :
    s.Move (.resume i id) (s.step (.resume i id)) := by
  change s.Move _ ((s.resume? i id).getD s)
  cases hresume : s.resume? i id with
  | none => exact .still rfl rfl (keepsLoops_of_eq rfl)
  | some t =>
    obtain ⟨c, hc, hgo⟩ := Option.bind_eq_some_iff.1 hresume
    have hplain {phase : Phase} (before : c.phase.isPlain = true) (after : phase.id? = none)
        (further : c.phase.rank < phase.rank) {u : Transport δ} (calls : u.calls = s.calls)
        (pending : u.pending = s.pending) (loops : s.KeepsLoops u) :
        s.Move (.resume i id) (u.setPhase i phase) :=
      .of_plain hc (.inl before) pending phase after further
        (congrArg (List.modify · i _) calls) loops
    cases hphase : c.phase with
    | starting =>
      rw [hphase] at hgo
      cases hgo
      exact begin_move hc hphase
    | confirming n =>
      rw [hphase] at hgo
      exact confirm?_move hc hphase hgo
    | ending n outcome =>
      rw [hphase] at hgo
      simp only [Option.ite_none_right_eq_some, Option.some.injEq] at hgo
      rw [Option.getD_some, ← hgo.2]
      exact hplain (by rw [hphase]; rfl) rfl (by simp [hphase, Phase.rank]) rfl rfl
        (keepsLoops_of_eq rfl)
    | handing n p =>
      rw [hphase] at hgo
      obtain ⟨⟨u, taken⟩, hhand, hu⟩ := Option.map_eq_some_iff.1 hgo
      obtain ⟨hcalls, hpending, hloops, -⟩ := hand?_eq hhand
      rw [Option.getD_some, ← hu]
      simp only [handed]
      split
      · exact hplain (by rw [hphase]; rfl) rfl (by simp [hphase, Phase.rank]) hcalls hpending hloops
      · exact hplain (by rw [hphase]; rfl) rfl (by simp [hphase, Phase.rank]) hcalls hpending hloops
    | grace n =>
      rw [hphase] at hgo
      simp only [Option.ite_none_right_eq_some, Option.some.injEq] at hgo
      rw [Option.getD_some, ← hgo.2]
      exact hplain (by rw [hphase]; rfl) rfl (by simp [hphase, Phase.rank]) rfl rfl
        (keepsLoops_of_eq rfl)
    | subscribing n =>
      rw [hphase] at hgo
      exact subscribe?_move hc hphase hgo
    | entering n =>
      rw [hphase] at hgo
      cases hgo
      exact .turn hc (.enter hphase) rfl (keepsLoops_of_eq rfl)
    | asking n id' =>
      rw [hphase] at hgo
      exact asking_move hc hphase hgo
    | awaiting id' =>
      rw [hphase] at hgo
      exact awaiting_move hc hphase hgo
    | returned outcome =>
      rw [hphase] at hgo
      cases hgo
    | dropped =>
      rw [hphase] at hgo
      cases hgo

lemma timeout_move (s : Transport δ) (i : Nat) : s.Move (.timeout i) (s.step (.timeout i)) := by
  change s.Move _ (s.timeout i)
  unfold timeout
  cases hc : s.calls[i]? with
  | none => exact .still rfl rfl (keepsLoops_of_eq rfl)
  | some c =>
    have hplain {n : Nat} {outcome : HubResult Answer} (before : c.phase.isPlain = true)
        (further : c.phase.rank < 3) : s.Move (.timeout i)
          ((s.modifyConnection n Connection.stop).setPhase i (.ending n outcome)) :=
      .of_plain hc (.inl before) rfl (.ending n outcome) rfl further rfl
        (keepsLoops_of_modify rfl fun _ => rfl)
    cases hphase : c.phase with
    | confirming n =>
      simp only [Option.map_some, hphase]
      exact hplain (by rw [hphase]; rfl) (by simp [hphase, Phase.rank])
    | grace n =>
      simp only [Option.map_some, hphase]
      exact hplain (by rw [hphase]; rfl) (by simp [hphase, Phase.rank])
    | _ =>
      simp only [Option.map_some, hphase]
      exact .still rfl rfl (keepsLoops_of_eq rfl)

lemma release_eq (i : Nat) {phase : Phase} (before : phase.id? = none) :
    (s.release i phase).calls = s.calls ∧ (s.release i phase).pending = s.pending ∧
      s.KeepsLoops (s.release i phase) := by
  unfold release
  split
  · exact ⟨rfl, rfl, keepsLoops_of_modify rfl fun _ => rfl⟩
  · exact ⟨rfl, rfl, keepsLoops_of_modify rfl fun _ => rfl⟩
  · cases before
  · cases before
  · exact ⟨rfl, rfl, keepsLoops_of_eq rfl⟩

lemma drop_move (s : Transport δ) (i : Nat) : s.Move (.drop i) (s.step (.drop i)) := by
  change s.Move _ (s.drop i)
  unfold drop
  cases hc : s.calls[i]? with
  | none => exact .still rfl rfl (keepsLoops_of_eq rfl)
  | some c =>
    -- what is not entered gives nothing back that the responses are told by
    have hearly (before : c.phase.id? = none) (further : c.phase.rank < 5) :
        s.Move (.drop i) ((s.release i c.phase).setPhase i .dropped) := by
      obtain ⟨hcalls, hpending, hloops⟩ := release_eq (s := s) i before
      exact .of_approach hc before hpending .dropped rfl rfl further (by simp)
        (congrArg (List.modify · i _) hcalls) hloops
    cases hphase : c.phase with
    | returned | dropped =>
      simp only [Option.map_some, hphase]
      exact .still rfl rfl (keepsLoops_of_eq rfl)
    | asking n id | awaiting id =>
      simp only [Option.map_some, hphase]
      exact .turn hc (.leave (by rw [hphase]; rfl)) rfl (keepsLoops_of_eq rfl)
    | _ =>
      simp only [Option.map_some, hphase]
      exact hphase ▸ hearly (by rw [hphase]; rfl) (by simp [hphase, Phase.rank])

/-- What has no one to take it changes nothing about calls either. -/
lemma deliver_eq (link : SharedLink) (delivery : δ → Delivery δ) :
    (s.deliver link delivery).calls = s.calls ∧ (s.deliver link delivery).pending = s.pending ∧
      s.KeepsLoops (s.deliver link delivery) := by
  unfold deliver
  split <;> exact ⟨rfl, rfl, keepsLoops_of_eq rfl⟩

lemma publish_move {n : Nat} {d : Connection} (hd : s.connections[n]? = some d)
    (running : d.loop = .running) (topic : String) (payload : Bytes) :
    s.Move (.report n (.published topic payload)) (s.publish n d.deviceId topic payload) := by
  have hdeliver (link : SharedLink) (delivery : δ → Delivery δ) :
      s.Move (.report n (.published topic payload)) (s.deliver link delivery) := by
    obtain ⟨hcalls, hpending, hloops⟩ := deliver_eq (s := s) link delivery
    exact .still hcalls hpending hloops
  unfold publish
  cases hroute : Topic.route d.deviceId topic payload with
  | twinResponse r =>
    change s.Move _ (s.complete r)
    unfold complete
    cases hfind : s.pending.find? r.requestId with
    | none => exact .still rfl rfl (keepsLoops_of_eq rfl)
    | some i =>
      exact .complete ⟨n, d, topic, payload, rfl, hd, running, hroute⟩ hfind rfl rfl
        (keepsLoops_of_eq rfl)
  | unknown => exact .still rfl rfl (keepsLoops_of_eq rfl)
  | _ => exact hdeliver _ _

lemma leave_move (s : Transport δ) (n : Nat) (reason : String) (event : TransportEvent δ) :
    s.Move event (s.leave n reason) := by
  refine .still rfl rfl (keepsLoops_of_leave rfl fun c _ => ?_)
  by_cases hrunning : c.loop = .running
  · exact .inr ⟨hrunning, reason, by rw [if_pos hrunning]; rfl⟩
  · exact .inl (by rw [if_neg hrunning])

lemma report_move (s : Transport δ) (n : Nat) (r : Report) :
    s.Move (.report n r) (s.step (.report n r)) := by
  change s.Move _ (s.report n r)
  unfold report
  cases hd : s.connections[n]? with
  | none => exact .still rfl rfl (keepsLoops_of_eq rfl)
  | some d =>
    simp only
    split
    · exact .still rfl rfl (keepsLoops_of_eq rfl)
    next hrunning =>
      have hloop : d.loop = .running := not_not.1 hrunning
      have hleave (reason : String) :
          s.Move (.report n r) (s.modifyConnection n (Connection.leave reason)) := by
        refine .still rfl rfl (keepsLoops_of_leave rfl fun c hc => .inr ⟨?_, reason, rfl⟩)
        rw [hd] at hc
        cases hc
        exact hloop
      cases r with
      | acknowledged code =>
        cases code with
        | success => exact .still rfl rfl (keepsLoops_of_modify rfl fun _ => rfl)
        | _ => exact hleave _
      | published topic payload => exact publish_move hd hloop topic payload
      | disconnect | sentDisconnect => exact hleave _
      | _ => exact .still rfl rfl (keepsLoops_of_eq rfl)

lemma unwind_move (s : Transport δ) (n : Nat) : s.Move (.unwind n) (s.step (.unwind n)) := by
  change s.Move _ (s.unwind n)
  unfold unwind
  have hother (u : Transport δ) (loop : Loop) (connections : u.connections = s.connections)
      (m : Nat) (hm : m ≠ n) :
      (u.modifyConnection n fun c => { c with loop }).loop? m = s.loop? m := by
    rw [loop?_of_modify (s := s) (congrArg (List.modify · n _) connections), loop?]
    simp [Ne.symm hm]
  have hloop (u : Transport δ) (old loop : Loop) (connections : u.connections = s.connections)
      (h : s.loop? n = some old) :
      (u.modifyConnection n fun c => { c with loop }).loop? n = some loop := by
    rw [loop?_of_modify (s := s) (congrArg (List.modify · n _) connections)]
    obtain ⟨c, hc, -⟩ := Option.map_eq_some_iff.1 h
    simp [hc]
  split
  next reason hleft =>
    exact .fail hleft rfl rfl (hloop _ _ _ rfl hleft) (hother _ _ rfl)
  next hdrained => exact .finish hdrained rfl rfl (hloop _ _ _ rfl hdrained) (hother _ _ rfl)
  · exact .still rfl rfl (keepsLoops_of_eq rfl)

theorem step_move (s : Transport δ) (event : TransportEvent δ) : s.Move event (s.step event) := by
  cases event with
  | start request => exact .start request
  | resume i id => exact resume_move s i id
  | timeout i => exact timeout_move s i
  | drop i => exact drop_move s i
  | report n r => exact report_move s n r
  | fail n reason => exact leave_move s n reason _
  | stop n =>
    simp only [step]
    split
    · exact leave_move s n _ _
    · exact .still rfl rfl (keepsLoops_of_eq rfl)
  | unwind n => exact unwind_move s n
  | transmit n => exact .still rfl rfl (keepsLoops_of_modify rfl fun c => by split <;> rfl)
  | reply n status requestId body =>
    simp only [step]
    cases hhand : s.hand? n (.publish (Topic.methodResponse status requestId) body .atMostOnce) with
    | none => exact .still rfl rfl (keepsLoops_of_eq rfl)
    | some result =>
      obtain ⟨hcalls, hpending, hloops, -⟩ := hand?_eq hhand
      exact .still hcalls hpending hloops

end Moves

end Transport
end DeviceHub.Mqtt
