import DeviceHub.Proofs.JsonRoundTrip
import DeviceHub.Rehearsal.Device
import Mathlib.Algebra.Group.Int.Defs

/-!
Twin requests, one after the other.  Each of them hands one operation to the transport and comes to
its answer.  What `retrieve_twin_state` gives of the reported half is the first one with all patches
merged, under the version that the last `update_twin_state` returned.
-/
namespace DeviceHub

namespace Twin

variable {state patch : Mapping} {key : String}

/-- What a patch makes of what was under a key: null takes it out, anything else replaces it. -/
def patchKey (key : String) (old : Option Value) (patch : Mapping) : Option Value :=
  match patch.find? key with
  | none => old
  | some value => if value.isNull then none else some value

/-- What patches make of what was under a key, one after the other. -/
def patched (key : String) (patches : List Mapping) (old : Option Value) : Option Value :=
  patches.foldl (patchKey key) old

lemma patched_append (key : String) (patches : List Mapping) (patch : Mapping)
    (old : Option Value) :
    patched key (patches ++ [patch]) old = patchKey key (patched key patches old) patch := by
  simp [patched]

lemma mergeEntry_sorted (h : state.Sorted) (entry : String × Value) :
    (mergeEntry state entry).Sorted := by
  unfold mergeEntry
  split
  · exact h.erase _
  · exact h.insert _ _

lemma merge_sorted (h : state.Sorted) (patch : Mapping) : (merge state patch).Sorted := by
  induction patch generalizing state with
  | nil => exact h
  | cons entry patch ih => exact ih (mergeEntry_sorted h entry)

lemma find?_mergeEntry (h : state.Sorted) (k : String) (value : Value) :
    (mergeEntry state (k, value)).find? key =
      if k = key then if value.isNull then none else some value else state.find? key := by
  unfold mergeEntry
  by_cases hk : k = key
  · subst hk
    split <;> simp_all [h.find?_erase, KeyMap.find?_insert_self]
  · split
    · simp [h.find?_erase, Ne.symm hk]
    · exact KeyMap.find?_insert_of_ne (Ne.symm hk) value state

/-- Merging a patch does to each key what the patch holds under it. -/
theorem find?_merge (h : state.Sorted) (hpatch : patch.Sorted) :
    (merge state patch).find? key = patchKey key (state.find? key) patch := by
  induction patch generalizing state with
  | nil => rfl
  | cons entry patch ih =>
    obtain ⟨k, value⟩ := entry
    obtain ⟨hlt, hrest⟩ := KeyMap.sorted_cons.1 hpatch
    have hmerge : merge state ((k, value) :: patch) =
        merge (mergeEntry state (k, value)) patch := rfl
    rw [hmerge, ih (mergeEntry_sorted h _) hrest, find?_mergeEntry h]
    by_cases hk : k = key
    · subst hk
      simp [patchKey, KeyMap.find?_eq_none_of_lt hlt]
    · simp [patchKey, hk]

lemma mem_merge {field : String × Value} (h : field ∈ merge state patch) :
    field ∈ state ∨ field ∈ patch := by
  induction patch generalizing state with
  | nil => exact .inl h
  | cons entry patch ih =>
    obtain hfield | hfield := ih (show field ∈ merge (mergeEntry state entry) patch from h)
    · unfold mergeEntry at hfield
      split at hfield
      · exact .inl (KeyMap.mem_erase hfield)
      · obtain rfl | hfield := KeyMap.mem_insert hfield
        · exact .inr List.mem_cons_self
        · exact .inl hfield
    · exact .inr (List.mem_cons_of_mem _ hfield)

/-- A half of a twin that comes through its documents: no floats, and one level of nesting left for
the whole document. -/
abbrev Plain (half : Mapping) : Prop :=
  (Value.mapping half).Plain 126

lemma Plain.insert {half : Mapping} (h : Plain half) {value : Value} (hvalue : value.Plain 125)
    (key : String) : Plain (half.insert key value) := by
  obtain ⟨hsorted, hfields⟩ := Value.plain_mapping.1 h
  refine Value.plain_mapping.2 ⟨hsorted.insert key value, fun field hfield => ?_⟩
  obtain rfl | hfield := KeyMap.mem_insert hfield
  · exact hvalue
  · exact hfields field hfield

lemma Plain.merge (h : Plain state) (hpatch : Plain patch) : Plain (merge state patch) := by
  obtain ⟨hsorted, hfields⟩ := Value.plain_mapping.1 h
  refine Value.plain_mapping.2 ⟨merge_sorted hsorted patch, fun field hfield => ?_⟩
  exact (mem_merge hfield).elim (hfields field) ((Value.plain_mapping.1 hpatch).2 field)

theorem splitDocument_document {desired reported : Mapping} (hdesired : Plain desired)
    (hreported : Plain reported) :
    splitDocument (document desired reported) = .ok (⟨desired⟩, ⟨reported⟩) := by
  let root : Mapping :=
    KeyMap.ofList [("desired", .mapping desired), ("reported", .mapping reported)]
  have hplain : (Value.mapping root).Plain Json.maxDepth := by
    refine Value.plain_mapping.2 ⟨KeyMap.sorted_ofList _, fun field hfield => ?_⟩
    obtain rfl | hfield := KeyMap.mem_insert hfield
    · exact hreported
    obtain rfl | hfield := KeyMap.mem_insert hfield
    · exact hdesired
    · cases hfield
  have hread : Value.ofJson (document desired reported) = .ok (.mapping root) :=
    hplain.ofJson_toJson
  have hdesiredField : root.find? "desired" = some (.mapping desired) := by
    change KeyMap.find? "desired" (KeyMap.insert "reported" _ (KeyMap.insert "desired" _ [])) = _
    rw [KeyMap.find?_insert_of_ne (by decide), KeyMap.find?_insert_self]
  have hreportedField : root.find? "reported" = some (.mapping reported) :=
    KeyMap.find?_insert_self "reported" _ (KeyMap.insert "desired" _ [])
  simp only [splitDocument, hread]
  change (do
    let desired ← half root "desired"
    let reported ← half root "reported"
    return (desired, reported) : HubResult (TwinState × TwinState)) = _
  simp only [half, hdesiredField, hreportedField, Value.asMapping]
  rfl

end Twin

namespace Rehearsal

/-- The version that is stamped on the reported half; nothing is stamped as zero. -/
def stampedVersion (reported : Mapping) : Int :=
  match reported.find? TwinState.versionKey with
  | some (.int i) => i.toInt
  | _ => 0

namespace DeviceTransport

/-- What holds after patches of a transport that held something at first. -/
structure Patched (first : DeviceTransport) (patches : List Mapping) (t : DeviceTransport) :
    Prop where
  desired : t.desired = first.desired
  plain : Twin.Plain t.reported
  entries : ∀ key, key ≠ TwinState.versionKey →
    t.reported.find? key = Twin.patched key patches (first.reported.find? key)
  version : stampedVersion t.reported = stampedVersion first.reported + patches.length
  stamped : patches ≠ [] → ∃ v, t.reported.find? TwinState.versionKey = some (.int v)
  untouched : patches = [] → t.reported = first.reported

variable {first t : DeviceTransport} {patch : Mapping} {patches : List Mapping}

lemma patched_nil (h : Twin.Plain t.reported) : Patched t [] t where
  desired := rfl
  plain := h
  entries _ _ := rfl
  version := (Int.add_zero _).symm
  stamped h := absurd rfl h
  untouched _ := rfl

/-- What a transport counts up from is the version that is stamped, or nothing. -/
lemma versionIn_eq {half : Mapping} (h : Twin.Plain half) :
    (Twin.versionIn half).toInt = stampedVersion half := by
  unfold Twin.versionIn stampedVersion
  cases hfind : half.find? TwinState.versionKey with
  | none => rfl
  | some value =>
    have hvalue := (Value.plain_mapping.1 h).2 _ (KeyMap.mem_of_find? hfind)
    cases value with
    | float d => cases hvalue.floatFree
    | _ => rfl

lemma update_eq_ok {v : Int64}
    (counts : Checked.add (Twin.versionIn (Twin.merge t.reported patch)) 1 = .ok v) :
    t.update patch = ({ t with reported :=
      (Twin.merge t.reported patch).insert TwinState.versionKey (.int v) }, .ok v) := by
  simp only [DeviceTransport.update, counts]

/-- Without a next version the patch is merged all the same. -/
lemma update_of_panic
    (panics : Checked.add (Twin.versionIn (Twin.merge t.reported patch)) 1 = .error .panic) :
    t.update patch = ({ t with reported := Twin.merge t.reported patch }, .error .panic) := by
  simp only [DeviceTransport.update, panics]

lemma Patched.update (h : Patched first patches t) (hpatch : Twin.Plain patch)
    (hkey : patch.find? TwinState.versionKey = none)
    (below : stampedVersion first.reported + (patches.length + 1) < 2 ^ 63) :
    ∃ v, (t.update patch).2 = .ok v ∧ Patched first (patches ++ [patch]) (t.update patch).1 ∧
      v.toInt = stampedVersion first.reported + (patches.length + 1) := by
  have hsorted := (Value.plain_mapping.1 h.plain).1
  have hmerged : Twin.Plain (Twin.merge t.reported patch) := h.plain.merge hpatch
  have hfind (key : String) : (Twin.merge t.reported patch).find? key =
      Twin.patchKey key (t.reported.find? key) patch :=
    Twin.find?_merge hsorted (Value.plain_mapping.1 hpatch).1
  have hversion : stampedVersion (Twin.merge t.reported patch) = stampedVersion t.reported := by
    have hsame : (Twin.merge t.reported patch).find? TwinState.versionKey =
        t.reported.find? TwinState.versionKey := by
      rw [hfind, Twin.patchKey, hkey]
    unfold stampedVersion
    rw [hsame]
  have hcurrent := versionIn_eq hmerged
  rw [hversion, h.version] at hcurrent
  have hone : (1 : Int64).toInt = 1 := rfl
  obtain ⟨v, hcounts⟩ | hpanics :=
    Checked.add_cases (Twin.versionIn (Twin.merge t.reported patch)) 1
  · have hnext : v.toInt = stampedVersion first.reported + (patches.length + 1) := by
      have hsum := Checked.add_eq_ok_iff.1 hcounts
      omega
    rw [update_eq_ok hcounts]
    have hstamp : ((Twin.merge t.reported patch).insert TwinState.versionKey
        (.int v)).find? TwinState.versionKey = some (.int v) := KeyMap.find?_insert_self _ _ _
    refine ⟨v, rfl, ⟨h.desired, ?_, fun key hne => ?_, ?_, fun _ => ⟨v, hstamp⟩, by simp⟩, hnext⟩
    · exact hmerged.insert ⟨by simp [Value.WellFormed], rfl, Nat.zero_le _⟩ _
    · rw [KeyMap.find?_insert_of_ne hne, hfind, h.entries key hne, Twin.patched_append]
    · rw [stampedVersion, hstamp, List.length_append]
      simpa using hnext
  · have hout := Checked.add_eq_panic_iff.1 hpanics
    have hlow := (Twin.versionIn (Twin.merge t.reported patch)).le_toInt
    rw [Int64.toInt_minValue, Int64.toInt_maxValue] at hout
    omega

end DeviceTransport

/-! ### One request after the other -/

namespace DeviceStage

/-- A call goes on by itself, so many moves at most. -/
def goOn (call : Nat) : Nat → DeviceStage → DeviceStage
  | 0, s => s
  | moves + 1, s =>
    match s.move? call with
    | none => s
    | some s => goOn call moves s

/-- A request comes in, and its call goes on by itself. -/
def serve (moves : Nat) (token : Token) (request : Request) (s : DeviceStage) : DeviceStage :=
  (s.step (.start request token)).goOn s.client.calls.length moves

/-- What a request comes to. -/
def reply? (moves : Nat) (token : Token) (request : Request) (s : DeviceStage) :
    Option (Checked Reply) :=
  (s.serve moves token request).outcome? s.client.calls.length

/-- The client is connected, and the transport answers by itself. -/
structure Connected (s : DeviceStage) : Prop where
  ready : s.client.state = .ready
  script : s.script = []
  underway : ∀ entry ∈ s.underway, entry.1 < s.client.calls.length

def withCall (request : Request) (token : Token) (phase : Phase) (s : DeviceStage) : DeviceStage :=
  { s with device.client.calls := s.client.calls ++ [⟨request, token, phase⟩] }

variable {s : DeviceStage} {request : Request} {operation : Operation} {token : Token}

lemma goOn_of_none {call : Nat} (h : s.move? call = none) (moves : Nat) :
    s.goOn call moves = s := by
  cases moves with
  | zero => rfl
  | succ moves => simp [goOn, h]

lemma modify_append {α : Type} (xs : List α) (x : α) (f : α → α) :
    (xs ++ [x]).modify xs.length f = xs ++ [f x] := by
  induction xs with
  | nil => rfl
  | cons first xs ih => exact congrArg (first :: ·) ih

lemma setPhase_withCall (phase phase' : Phase) :
    (s.withCall request token phase).client.setPhase s.client.calls.length phase' =
      (s.withCall request token phase').client := by
  simp [Client.setPhase, withCall, modify_append]

lemma call_withCall (phase : Phase) :
    (s.withCall request token phase).client.calls[s.client.calls.length]? =
      some ⟨request, token, phase⟩ := by
  simp [withCall]

lemma move_awaitingReady (h : s.Connected)
    (asked : ∀ id (c : Client), c.begin id request = c.setPhase id (.operating operation)) :
    (s.withCall request token .awaitingReady).move? s.client.calls.length =
      some (s.withCall request token (.operating operation)) := by
  have hstate : (s.withCall request token .awaitingReady).client.state = .ready := h.ready
  have hresume : (s.withCall request token .awaitingReady).client.resume? s.client.calls.length =
      some (s.withCall request token (.operating operation)).client := by
    rw [Client.resume?, call_withCall, Option.bind_some, hstate]
    simp only [ConnectionState.readiness?, Option.map_some, asked, setPhase_withCall]
  simp only [move?, call_withCall, Option.bind_some, Call.operation?, hresume, Option.some_or,
    Option.map_some]
  rfl

lemma move_operating (h : s.Connected) (delay : s.transport.delay? operation = none) :
    (s.withCall request token (.operating operation)).move? s.client.calls.length =
      some (({ s with transport := (s.transport.perform operation).1 }.withCall request token
        (.operating operation)).answer s.client.calls.length
          (s.transport.perform operation).2) := by
  have hnew : s.underway.lookup s.client.calls.length = none := by
    refine List.lookup_eq_none_iff.2 fun entry hentry => ?_
    simpa using Nat.ne_of_gt (h.underway entry hentry)
  have hbegin : (s.withCall request token (.operating operation)).begin s.client.calls.length
      operation = (s.withCall request token (.operating operation)).perform s.client.calls.length
        operation := by
    have hscript : (s.withCall request token (.operating operation)).script = [] := h.script
    have hdelay : (s.withCall request token (.operating operation)).transport.delay? operation =
        none := delay
    rw [begin, hscript]
    simp only [KeyMap.find?_nil, hdelay]
  have hunderway : (s.withCall request token (.operating operation)).underway.lookup
      s.client.calls.length = none := hnew
  simp only [move?, call_withCall, Option.bind_some, Call.operation?, hunderway, hbegin]
  rfl

lemma answer_withCall (outcome : HubResult Answer) :
    (s.withCall request token (.operating operation)).answer s.client.calls.length
      (.ofResult outcome) =
      s.withCall request token (.returned (outcome.bind (Answer.reply operation))) := by
  have hanswer : (s.withCall request token (.operating operation)).client.answer?
      s.client.calls.length outcome = some (s.withCall request token
        (.returned (outcome.bind (Answer.reply operation)))).client := by
    unfold Client.answer?
    rw [call_withCall]
    exact congrArg some (setPhase_withCall _ _)
  have hstep : (s.withCall request token (.operating operation)).step
      (.answer s.client.calls.length outcome) =
      s.withCall request token (.returned (outcome.bind (Answer.reply operation))) := by
    simp only [step, NamedClient.step, Client.step]
    rw [hanswer]
    rfl
  cases outcome <;> exact hstep

lemma panic_withCall :
    (s.withCall request token (.operating operation)).answer s.client.calls.length
      (.error .panic) = { s with panicked := s.client.calls.length :: s.panicked }.withCall
        request token .dropped := by
  have hdrop : (s.withCall request token (.operating operation)).client.drop
      s.client.calls.length = (s.withCall request token .dropped).client := by
    unfold Client.drop
    rw [call_withCall]
    exact setPhase_withCall _ _
  simp only [answer, step, NamedClient.step, Client.step]
  rw [hdrop]
  rfl

/-- A call that has ended moves no more. -/
lemma move_ended {phase : Phase} (ended : (∃ outcome, phase = .returned outcome) ∨ phase = .dropped)
    (s : DeviceStage) : (s.withCall request token phase).move? s.client.calls.length = none := by
  obtain ⟨outcome, rfl⟩ | rfl := ended <;>
    simp [move?, call_withCall, Call.operation?, Client.resume?, Client.cancel?, Call.isCancellable]

lemma serve_eq (h : s.Connected) (moves : Nat) (token : Token) (data : request.isData = true)
    (asked : ∀ id (c : Client), c.begin id request = c.setPhase id (.operating operation))
    (delay : s.transport.delay? operation = none) :
    s.serve (moves + 2) token request = goOn s.client.calls.length moves
      (({ s with transport := (s.transport.perform operation).1 }.withCall request token
        (.operating operation)).answer s.client.calls.length
          (s.transport.perform operation).2) := by
  have hstart : s.step (.start request token) = s.withCall request token .awaitingReady := by
    simp [step, NamedClient.step, Client.step, Client.start, data, withCall]
  rw [serve, hstart, goOn, move_awaitingReady h asked]
  simp only [goOn, move_operating h delay]

lemma Connected.withCall (h : s.Connected) (phase : Phase) :
    (s.withCall request token phase).Connected where
  ready := h.ready
  script := h.script
  underway entry hentry := by
    simpa [DeviceStage.withCall] using Nat.lt_succ_of_lt (h.underway entry hentry)

lemma outcome_returned (outcome : HubResult Reply) :
    (s.withCall request token (.returned outcome)).outcome? s.client.calls.length =
      some (.ofResult outcome) := by
  unfold DeviceStage.outcome? NamedClient.outcome?
  rw [call_withCall]
  rfl

lemma outcome_panicked : (withCall request token .dropped
      { s with panicked := s.client.calls.length :: s.panicked }).outcome? s.client.calls.length =
    some (.error .panic) := by
  have hcall := @call_withCall { s with panicked := s.client.calls.length :: s.panicked } request
    token .dropped
  unfold DeviceStage.outcome? NamedClient.outcome?
  rw [hcall]
  exact if_pos (by simp [withCall])

/-- A request comes to what its one operation comes to, with a panic too, and changes nothing
else. -/
lemma serve_operation (h : s.Connected) (moves : Nat) (token : Token) (data : request.isData = true)
    (asked : ∀ id (c : Client), c.begin id request = c.setPhase id (.operating operation))
    (delay : s.transport.delay? operation = none) :
    (s.serve (moves + 2) token request).Connected ∧
      (s.serve (moves + 2) token request).transport = (s.transport.perform operation).1 ∧
      s.reply? (moves + 2) token request =
        some ((s.transport.perform operation).2.bind fun answer =>
          Checked.ofResult (answer.reply operation)) := by
  have hserve := serve_eq h moves token data asked delay
  have hafter : ({ s with transport := (s.transport.perform operation).1 } :
      DeviceStage).Connected := ⟨h.ready, h.script, h.underway⟩
  generalize (s.transport.perform operation).1 = transport,
    (s.transport.perform operation).2 = outcome at hserve hafter ⊢
  have hanswer (answered : HubResult Answer) (houtcome : outcome = .ofResult answered) :
      s.serve (moves + 2) token request = withCall request token
        (.returned (answered.bind (Answer.reply operation))) { s with transport } := by
    rw [hserve, houtcome]
    refine (congrArg (goOn _ moves) (answer_withCall answered)).trans ?_
    exact goOn_of_none (move_ended (.inl ⟨_, rfl⟩) { s with transport }) moves
  rw [reply?]
  cases outcome with
  | ok answer =>
    rw [hanswer (.ok answer) rfl]
    exact ⟨hafter.withCall _, rfl, outcome_returned (s := { s with transport }) _⟩
  | error failure =>
    cases failure with
    | error e =>
      rw [hanswer (.error e) rfl]
      exact ⟨hafter.withCall _, rfl, outcome_returned (s := { s with transport }) _⟩
    | panic =>
      have hdropped : s.serve (moves + 2) token request = withCall request token .dropped
          { s with transport, panicked := s.client.calls.length :: s.panicked } := by
        rw [hserve]
        refine (congrArg (goOn _ moves) panic_withCall).trans ?_
        exact goOn_of_none (move_ended (.inr rfl)
          { s with transport, panicked := s.client.calls.length :: s.panicked }) moves
      have hpanicked : ({ s with
          transport, panicked := s.client.calls.length :: s.panicked } : DeviceStage).Connected :=
        ⟨h.ready, h.script, h.underway⟩
      rw [hdropped]
      exact ⟨hpanicked.withCall _, rfl, outcome_panicked (s := { s with transport })⟩

variable {first : DeviceTransport} {patches : List Mapping} {patch : Mapping}

lemma serve_update (h : s.Connected) (held : first.Patched patches s.transport)
    (hpatch : Twin.Plain patch) (hkey : patch.find? TwinState.versionKey = none)
    (below : stampedVersion first.reported + (patches.length + 1) < 2 ^ 63) (moves : Nat)
    (token : Token) :
    (s.serve (moves + 2) token (.updateTwin ⟨patch⟩)).Connected ∧
      first.Patched (patches ++ [patch])
        (s.serve (moves + 2) token (.updateTwin ⟨patch⟩)).transport ∧
      ∃ v, s.reply? (moves + 2) token (.updateTwin ⟨patch⟩) = some (.ok (.version v)) ∧
        v.toInt = stampedVersion first.reported + (patches.length + 1) := by
  have hperform : s.transport.perform (.update (TwinState.toJson ⟨patch⟩)) =
      ((s.transport.update patch).1, (s.transport.update patch).2.map .version) := by
    have hread : Value.ofJson (TwinState.toJson ⟨patch⟩) = .ok (.mapping patch) :=
      (hpatch.mono (by decide)).ofJson_toJson
    simp only [DeviceTransport.perform, hread]
    rfl
  obtain ⟨v, hreturned, hpatched, hversion⟩ := held.update hpatch hkey below
  obtain ⟨hconnected, htransport, hreply⟩ := @serve_operation s (.updateTwin ⟨patch⟩)
    (.update (TwinState.toJson ⟨patch⟩)) h moves token rfl (fun _ _ => rfl) rfl
  rw [hperform] at htransport hreply
  rw [hreturned] at hreply
  exact ⟨hconnected, htransport ▸ hpatched, v, hreply, hversion⟩

/-- A retrieval comes to both halves as the transport holds them. -/
lemma serve_retrieve (h : s.Connected) (hdesired : Twin.Plain s.transport.desired)
    (hreported : Twin.Plain s.transport.reported) (moves : Nat) (token : Token) :
    (s.serve (moves + 2) token .retrieveTwin).Connected ∧
      (s.serve (moves + 2) token .retrieveTwin).transport = s.transport ∧
      s.reply? (moves + 2) token .retrieveTwin =
        some (.ok (.twin ⟨s.transport.desired⟩ ⟨s.transport.reported⟩)) := by
  obtain ⟨hconnected, htransport, hreply⟩ :=
    @serve_operation s .retrieveTwin .retrieve h moves token rfl (fun _ _ => rfl) rfl
  refine ⟨hconnected, htransport, hreply.trans ?_⟩
  simp only [DeviceTransport.perform, Except.bind, Answer.reply,
    Twin.splitDocument_document hdesired hreported, Except.map]
  rfl

end DeviceStage

inductive TwinRequest where
  | retrieve
  | update (patch : Mapping)

def TwinRequest.request : TwinRequest → Request
  | retrieve => .retrieveTwin
  | update patch => .updateTwin ⟨patch⟩

def patchesOf (requests : List TwinRequest) : List Mapping :=
  requests.filterMap fun
    | .update patch => some patch
    | .retrieve => none

namespace DeviceStage

def serveAll (moves : Nat) (token : Token) (requests : List TwinRequest) (s : DeviceStage) :
    DeviceStage :=
  requests.foldl (fun s r => s.serve moves token r.request) s

variable {s : DeviceStage} {first : DeviceTransport} {patches : List Mapping}

theorem serveAll_patched (h : s.Connected) (held : first.Patched patches s.transport)
    (hdesired : Twin.Plain first.desired) (requests : List TwinRequest)
    (hpatches : ∀ patch ∈ patchesOf requests,
      Twin.Plain patch ∧ patch.find? TwinState.versionKey = none)
    (below : stampedVersion first.reported + (patches ++ patchesOf requests).length < 2 ^ 63)
    (moves : Nat) (token : Token) :
    (s.serveAll (moves + 2) token requests).Connected ∧
      first.Patched (patches ++ patchesOf requests)
        (s.serveAll (moves + 2) token requests).transport := by
  induction requests generalizing s patches with
  | nil => exact ⟨h, by simpa [patchesOf, serveAll] using held⟩
  | cons request requests ih =>
    cases request with
    | retrieve =>
      obtain ⟨hconnected, htransport, -⟩ :=
        serve_retrieve h (held.desired ▸ hdesired) held.plain moves token
      exact ih hconnected (htransport ▸ held) hpatches below
    | update patch =>
      have hcons : patches ++ patchesOf (.update patch :: requests) =
          patches ++ [patch] ++ patchesOf requests := by
        simp [patchesOf]
      rw [hcons] at below ⊢
      have hnext : stampedVersion first.reported + (patches.length + 1) < 2 ^ 63 := by
        simp only [List.length_append, List.length_singleton] at below
        omega
      obtain ⟨hpatch, hkey⟩ := hpatches patch (by simp [patchesOf])
      obtain ⟨hconnected, hpatched, -⟩ := serve_update h held hpatch hkey hnext moves token
      exact ih hconnected hpatched (fun patch hmem => hpatches patch (List.mem_cons_of_mem _ hmem))
        below

/-- Every update of a run returns the version stamped at first plus the number of updates so far,
itself included.  Every retrieval returns the desired half unchanged, and of the reported half,
under each key, what the patches so far make of what it held at first, and the version returned
last. -/
theorem twin_follows_patches (connected : s.Connected) (hdesired : Twin.Plain s.transport.desired)
    (hreported : Twin.Plain s.transport.reported) (requests : List TwinRequest)
    (hpatches : ∀ patch ∈ patchesOf requests,
      Twin.Plain patch ∧ patch.find? TwinState.versionKey = none)
    (below : stampedVersion s.transport.reported + (patchesOf requests).length < 2 ^ 63)
    {moves : Nat} (hmoves : 2 ≤ moves) (token : Token) :
    (∀ before patch after, requests = before ++ .update patch :: after →
      ∃ v, (s.serveAll moves token before).reply? moves token (.updateTwin ⟨patch⟩) =
          some (.ok (.version v)) ∧
        v.toInt = stampedVersion s.transport.reported + ((patchesOf before).length + 1)) ∧
    ∀ before after, requests = before ++ .retrieve :: after →
      ∃ reported, (s.serveAll moves token before).reply? moves token .retrieveTwin =
          some (.ok (.twin ⟨s.transport.desired⟩ ⟨reported⟩)) ∧
        reported.Sorted ∧
        (∀ key, key ≠ TwinState.versionKey → reported.find? key =
          Twin.patched key (patchesOf before) (s.transport.reported.find? key)) ∧
        if patchesOf before = [] then reported = s.transport.reported
        else ∃ v, reported.find? TwinState.versionKey = some (.int v) ∧
          v.toInt = stampedVersion s.transport.reported + (patchesOf before).length := by
  obtain ⟨moves, rfl⟩ := Nat.exists_eq_add_of_le' hmoves
  have hbefore (before after : List TwinRequest) (h : requests = before ++ after) :
      (s.serveAll (moves + 2) token before).Connected ∧
        s.transport.Patched (patchesOf before)
          (s.serveAll (moves + 2) token before).transport := by
    have hsplit : patchesOf requests = patchesOf before ++ patchesOf after := by
      simp [h, patchesOf]
    rw [hsplit, List.length_append] at below
    refine serveAll_patched connected (DeviceTransport.patched_nil hreported) hdesired before
      (fun patch hmem => hpatches patch ?_) ?_ moves token
    · rw [hsplit]
      exact List.mem_append_left _ hmem
    · rw [List.nil_append]
      omega
  refine ⟨fun before patch after h => ?_, fun before after h => ?_⟩
  · obtain ⟨hconnected, hpatched⟩ := hbefore before _ h
    obtain ⟨hpatch, hkey⟩ := hpatches patch (by simp [h, patchesOf])
    have hlength : (patchesOf before).length + 1 ≤ (patchesOf requests).length := by
      simp [h, patchesOf]
    exact (serve_update hconnected hpatched hpatch hkey (by omega) moves token).2.2
  · obtain ⟨hconnected, hpatched⟩ := hbefore before _ h
    have hdesired' : Twin.Plain (s.serveAll (moves + 2) token before).transport.desired :=
      hpatched.desired ▸ hdesired
    obtain ⟨-, -, hreply⟩ := serve_retrieve hconnected hdesired' hpatched.plain moves token
    refine ⟨_, hpatched.desired ▸ hreply, (Value.plain_mapping.1 hpatched.plain).1,
      hpatched.entries, ?_⟩
    split
    next hnone => exact hpatched.untouched hnone
    next hsome =>
      obtain ⟨v, hv⟩ := hpatched.stamped hsome
      refine ⟨v, hv, ?_⟩
      have hversion := hpatched.version
      rwa [stampedVersion, hv] at hversion

def stampedTwin : DeviceStage :=
  ({ transport :=
      { desired := [("interval", .int 30)]
        reported := [("$version", .int 4), ("door", .string "open"), ("fan", .null)] } } :
    DeviceStage).serve 2 "t" .connect

/-- Takes a key out, puts a nested value in, and asks before and after one more patch. -/
def doorRequests : List TwinRequest :=
  [.update [("door", .null), ("log", .sequence [.mapping [("level", .int 1)]])], .retrieve,
    .update [("door", .bool false)], .retrieve]

theorem twin_follows_patches_of_removal :
    (∀ before patch after, doorRequests = before ++ .update patch :: after →
      ∃ v, (stampedTwin.serveAll 2 "t" before).reply? 2 "t" (.updateTwin ⟨patch⟩) =
          some (.ok (.version v)) ∧
        v.toInt = stampedVersion stampedTwin.transport.reported + ((patchesOf before).length + 1)) ∧
    ∀ before after, doorRequests = before ++ .retrieve :: after →
      ∃ reported, (stampedTwin.serveAll 2 "t" before).reply? 2 "t" .retrieveTwin =
          some (.ok (.twin ⟨stampedTwin.transport.desired⟩ ⟨reported⟩)) ∧
        reported.Sorted ∧
        (∀ key, key ≠ TwinState.versionKey → reported.find? key =
          Twin.patched key (patchesOf before) (stampedTwin.transport.reported.find? key)) ∧
        if patchesOf before = [] then reported = stampedTwin.transport.reported
        else ∃ v, reported.find? TwinState.versionKey = some (.int v) ∧
          v.toInt = stampedVersion stampedTwin.transport.reported + (patchesOf before).length := by
  refine twin_follows_patches ⟨rfl, rfl, fun entry hentry => ?_⟩ ?_ ?_ doorRequests ?_ ?_
    (Nat.le_refl 2) "t"
  · have hnone : stampedTwin.underway = [] := rfl
    simp [hnone] at hentry
  · have hdesired : stampedTwin.transport.desired = [("interval", .int 30)] := rfl
    rw [hdesired]
    exact ⟨by simp [Value.WellFormed, Value.FieldsWellFormed, KeyMap.Sorted], rfl, by decide⟩
  · have hreported : stampedTwin.transport.reported =
        [("$version", .int 4), ("door", .string "open"), ("fan", .null)] := rfl
    have hsorted : KeyMap.Sorted stampedTwin.transport.reported := by
      rw [hreported, KeyMap.Sorted]
      decide
    rw [hreported] at hsorted ⊢
    exact ⟨⟨hsorted, by simp [Value.WellFormed, Value.FieldsWellFormed]⟩, rfl, by decide⟩
  · intro patch hpatch
    have hcases : patch = [("door", .null), ("log", .sequence [.mapping [("level", .int 1)]])] ∨
        patch = [("door", .bool false)] := by
      simpa [patchesOf, doorRequests] using hpatch
    obtain rfl | rfl := hcases
    · refine ⟨⟨⟨?_, ?_⟩, rfl, by decide⟩, rfl⟩
      · rw [KeyMap.Sorted]
        decide
      · simp [Value.WellFormed, Value.FieldsWellFormed, Value.ItemsWellFormed, KeyMap.Sorted]
    · exact ⟨⟨by simp [Value.WellFormed, Value.FieldsWellFormed, KeyMap.Sorted], rfl, by decide⟩,
        rfl⟩
  · have hversion : stampedVersion stampedTwin.transport.reported = 4 := rfl
    rw [hversion]
    decide

end DeviceStage

end Rehearsal
end DeviceHub
