import DeviceHub.Proofs.JsonObject
import DeviceHub.Proofs.TwinRun

/-!
The versions that `update_twin_state` returns, for patches of any kind.  An update counts up from
the version that its own patch brings along, or else from the one that is stamped; so the versions
grow as long as no patch goes back behind what is stamped and there is room for the next version.
-/
namespace DeviceHub

/-- What a transport reads of the patch a client sends. -/
def TwinState.patch (state : TwinState) : HubResult Mapping :=
  (Value.ofJson state.toJson).bind Value.asMapping

lemma TwinState.patch_sorted {state : TwinState} {patch : Mapping} (h : state.patch = .ok patch) :
    patch.Sorted := by
  rw [TwinState.patch, Value.ofJson] at h
  split at h
  next value hread =>
    obtain ⟨text, -, hparse⟩ := Option.bind_eq_some_iff.1 hread
    cases value with
    | mapping fields =>
      cases h
      exact Json.sorted_of_parse? hparse
    | _ => cases h
  next => cases h

lemma TwinState.patch_of_plain {half : Mapping} (h : Twin.Plain half) :
    TwinState.patch ⟨half⟩ = .ok half := by
  have hread : Value.ofJson (TwinState.toJson ⟨half⟩) = .ok (.mapping half) :=
    (h.mono (by decide)).ofJson_toJson
  rw [TwinState.patch, hread]
  rfl

namespace Twin

variable {half patch : Mapping}

/-- What an update counts up from: the version that its patch brings along, or the one stamped. -/
def countedFrom (stamped : Int64) (patch : Mapping) : Int64 :=
  if (patch.find? TwinState.versionKey).isSome then versionIn patch else stamped

@[simp] lemma versionIn_insert (half : Mapping) (v : Int64) :
    versionIn (half.insert TwinState.versionKey (.int v)) = v := by
  rw [versionIn, KeyMap.find?_insert_self]
  rfl

/-- After a patch is merged, what is counted up from stands under the key. -/
lemma versionIn_merge (h : half.Sorted) (hpatch : patch.Sorted) :
    versionIn (merge half patch) = countedFrom (versionIn half) patch := by
  rw [versionIn, find?_merge h hpatch, patchKey, countedFrom, versionIn, versionIn]
  cases patch.find? TwinState.versionKey with
  | none => rfl
  | some value => cases value <;> rfl

/-! ### Counting -/

def next? (n : Int64) : Option Int64 :=
  (Checked.add n 1).toOption

/-- What updates count up from, one after the other.  An update that panics has merged its patch,
but stamps no version. -/
def counts (stamped : Int64) : List Mapping → List Int64
  | [] => []
  | patch :: patches =>
    let n := countedFrom stamped patch
    n :: counts ((next? n).getD n) patches

/-- No patch goes back behind the version that is stamped, and each leaves room for one more. -/
def Advances (stamped : Int64) : List Mapping → Prop
  | [] => True
  | patch :: patches =>
    stamped ≤ countedFrom stamped patch ∧ countedFrom stamped patch < Int64.maxValue ∧
      Advances (countedFrom stamped patch + 1) patches

/-- The first patch may bring any version along, as long as that leaves room for one more; after it
the versions advance. -/
def AdvancesFromFirst (stamped : Int64) : List Mapping → Prop
  | [] => True
  | patch :: patches =>
    countedFrom stamped patch < Int64.maxValue ∧ Advances (countedFrom stamped patch + 1) patches

/-- The versions grow strictly, and each can be counted up to. -/
def Rises (counts : List Int64) : Prop :=
  (counts.filterMap next?).Pairwise (· < ·) ∧ ∀ n ∈ counts, ∃ v, next? n = some v

variable {n m stamped : Int64} {ns : List Int64} {patches : List Mapping}

lemma next?_eq_some_iff : next? n = some m ↔ m.toInt = n.toInt + 1 := by
  have hone : (1 : Int64).toInt = 1 := rfl
  rw [next?, ← hone, ← Checked.add_eq_ok_iff]
  cases Checked.add n 1 <;> simp [Except.toOption]

lemma exists_next?_iff : (∃ m, next? n = some m) ↔ n < Int64.maxValue := by
  have hmax : Int64.maxValue.toInt = 2 ^ 63 - 1 := rfl
  rw [Int64.lt_iff_toInt_lt, hmax]
  constructor
  · rintro ⟨m, hm⟩
    have hsucc := next?_eq_some_iff.1 hm
    have hhigh := m.toInt_lt
    omega
  · intro hroom
    obtain ⟨m, hm⟩ | hpanics := Checked.add_cases n 1
    · exact ⟨m, by rw [next?, hm]; rfl⟩
    · have hout := Checked.add_eq_panic_iff.1 hpanics
      have hone : (1 : Int64).toInt = 1 := rfl
      have hlow := n.le_toInt
      rw [Int64.toInt_minValue, Int64.toInt_maxValue] at hout
      omega

lemma next?_of_lt (h : n < Int64.maxValue) : next? n = some (n + 1) := by
  obtain ⟨m, hm⟩ := exists_next?_iff.2 h
  have hsucc := next?_eq_some_iff.1 hm
  have hone : (1 : Int64).toInt = 1 := rfl
  have hsum : n + 1 = m := by
    rw [← Int64.toInt_inj, Int64.toInt_add, hone, ← hsucc]
    exact Int.bmod_eq_of_le (by have := m.le_toInt; omega) (by have := m.toInt_lt; omega)
  rw [hm, hsum]

lemma counts_cons_of_lt {patch : Mapping} (h : countedFrom stamped patch < Int64.maxValue) :
    counts stamped (patch :: patches) =
      countedFrom stamped patch :: counts (countedFrom stamped patch + 1) patches := by
  simp only [counts, next?_of_lt h, Option.getD_some]

lemma rises_cons :
    Rises (n :: ns) ↔ n < Int64.maxValue ∧ Rises ns ∧ ∀ m ∈ ns, n + 1 ≤ m := by
  rw [Rises, List.forall_mem_cons, exists_next?_iff]
  constructor
  · rintro ⟨hrises, hroom, hrooms⟩
    rw [List.filterMap_cons_some (next?_of_lt hroom), List.pairwise_cons] at hrises
    refine ⟨hroom, ⟨hrises.2, hrooms⟩, fun m hm => ?_⟩
    obtain ⟨v, hv⟩ := hrooms m hm
    have hlt := Int64.lt_iff_toInt_lt.1 (hrises.1 v (List.mem_filterMap.2 ⟨m, hm, hv⟩))
    have hv := next?_eq_some_iff.1 hv
    rw [Int64.le_iff_toInt_le]
    omega
  · rintro ⟨hroom, ⟨hrises, hrooms⟩, hle⟩
    rw [List.filterMap_cons_some (next?_of_lt hroom), List.pairwise_cons]
    refine ⟨⟨fun v hv => ?_, hrises⟩, hroom, hrooms⟩
    obtain ⟨m, hm, hv⟩ := List.mem_filterMap.1 hv
    have hle := Int64.le_iff_toInt_le.1 (hle m hm)
    have hv := next?_eq_some_iff.1 hv
    rw [Int64.lt_iff_toInt_lt]
    omega

lemma advances_iff :
    Advances stamped patches ↔
      Rises (counts stamped patches) ∧ ∀ n ∈ counts stamped patches, stamped ≤ n := by
  induction patches generalizing stamped with
  | nil => simp [Advances, counts, Rises]
  | cons patch patches ih =>
    rw [Advances]
    constructor
    · rintro ⟨hstamped, hroom, hadvances⟩
      obtain ⟨hrises, hlater⟩ := ih.1 hadvances
      rw [counts_cons_of_lt hroom, rises_cons, List.forall_mem_cons]
      refine ⟨⟨hroom, hrises, hlater⟩, hstamped, fun m hm => ?_⟩
      have hsucc := next?_eq_some_iff.1 (next?_of_lt hroom)
      have hle := Int64.le_iff_toInt_le.1 (hlater m hm)
      rw [Int64.le_iff_toInt_le] at hstamped ⊢
      omega
    · rintro ⟨hrises, hstamped⟩
      have hroom := (rises_cons.1 hrises).1
      rw [counts_cons_of_lt hroom] at hrises hstamped
      obtain ⟨-, hrises, hlater⟩ := rises_cons.1 hrises
      exact ⟨(List.forall_mem_cons.1 hstamped).1, hroom, ih.2 ⟨hrises, hlater⟩⟩

theorem rises_iff : Rises (counts stamped patches) ↔ AdvancesFromFirst stamped patches := by
  cases patches with
  | nil => simp [Rises, counts, AdvancesFromFirst]
  | cons patch patches =>
    rw [AdvancesFromFirst, advances_iff]
    constructor
    · intro hrises
      have hroom := (rises_cons.1 hrises).1
      rw [counts_cons_of_lt hroom] at hrises
      exact rises_cons.1 hrises
    · intro hadvances
      rw [counts_cons_of_lt hadvances.1]
      exact rises_cons.2 hadvances

end Twin

namespace Rehearsal

namespace DeviceTransport

variable {t : DeviceTransport} {patch : Mapping}

/-- What an update counts up from; with the next version it is stamped and returned, without one the
patch alone is merged. -/
lemma update_counted (h : t.reported.Sorted) (hpatch : patch.Sorted) :
    (t.update patch).2 = Checked.add (Twin.countedFrom (Twin.versionIn t.reported) patch) 1 ∧
      Twin.versionIn (t.update patch).1.reported =
        (Twin.next? (Twin.countedFrom (Twin.versionIn t.reported) patch)).getD
          (Twin.countedFrom (Twin.versionIn t.reported) patch) ∧
      (t.update patch).1.reported.Sorted := by
  have hsorted := Twin.merge_sorted h patch
  rw [← Twin.versionIn_merge h hpatch, Twin.next?]
  obtain ⟨v, hcounts⟩ | hpanics :=
    Checked.add_cases (Twin.versionIn (Twin.merge t.reported patch)) 1
  · rw [update_eq_ok hcounts, hcounts]
    exact ⟨rfl, Twin.versionIn_insert _ _, hsorted.insert _ _⟩
  · rw [update_of_panic hpanics, hpanics]
    exact ⟨rfl, rfl, hsorted⟩

end DeviceTransport

namespace DeviceStage

variable {s : DeviceStage} {state : TwinState} {token : Token} {moves : Nat}

/-- Updates come in one after the other, each with a token of its own. -/
def serveUpdates (moves : Nat) (calls : List (Token × TwinState)) (s : DeviceStage) : DeviceStage :=
  calls.foldl (fun s call => s.serve moves call.1 (.updateTwin call.2)) s

/-- The versions that updates return; one that fails returns none. -/
def versions (moves : Nat) : List (Token × TwinState) → DeviceStage → List Int64
  | [], _ => []
  | (token, state) :: calls, s =>
    let later := versions moves calls (s.serve moves token (.updateTwin state))
    match s.reply? moves token (.updateTwin state) with
    | some (.ok (.version v)) => v :: later
    | _ => later

/-- An update whose patch cannot be read fails with the reader's error and changes nothing. -/
lemma serve_unreadable (h : s.Connected) (moves : Nat) (token : Token) {e : HubError}
    (hpatch : state.patch = .error e) :
    (s.serve (moves + 2) token (.updateTwin state)).Connected ∧
      (s.serve (moves + 2) token (.updateTwin state)).transport = s.transport ∧
      s.reply? (moves + 2) token (.updateTwin state) = some (.error (.error e)) := by
  have hperform : s.transport.perform (.update state.toJson) =
      (s.transport, .error (.error e)) := by
    rw [TwinState.patch] at hpatch
    simp only [DeviceTransport.perform, hpatch]
  obtain ⟨hconnected, htransport, hreply⟩ := @serve_operation s (.updateTwin state)
    (.update state.toJson) h moves token rfl (fun _ _ => rfl) rfl
  rw [hperform] at htransport hreply
  exact ⟨hconnected, htransport, hreply⟩

/-- An update whose patch is read returns one more than it counts up from, or panics. -/
lemma serve_readable (h : s.Connected) (hsorted : s.transport.reported.Sorted) (moves : Nat)
    (token : Token) {patch : Mapping} (hpatch : state.patch = .ok patch) :
    let n := Twin.countedFrom (Twin.versionIn s.transport.reported) patch
    (s.serve (moves + 2) token (.updateTwin state)).Connected ∧
      (s.serve (moves + 2) token (.updateTwin state)).transport.reported.Sorted ∧
      Twin.versionIn (s.serve (moves + 2) token (.updateTwin state)).transport.reported =
        (Twin.next? n).getD n ∧
      s.reply? (moves + 2) token (.updateTwin state) =
        some ((Checked.add n 1).map .version) := by
  intro n
  have hperform : s.transport.perform (.update state.toJson) =
      ((s.transport.update patch).1, (s.transport.update patch).2.map .version) := by
    have hread := hpatch
    rw [TwinState.patch] at hread
    simp only [DeviceTransport.perform, hread]
  obtain ⟨hversion, hstamped, hkept⟩ :=
    DeviceTransport.update_counted hsorted (TwinState.patch_sorted hpatch)
  obtain ⟨hconnected, htransport, hreply⟩ := @serve_operation s (.updateTwin state)
    (.update state.toJson) h moves token rfl (fun _ _ => rfl) rfl
  rw [hperform] at htransport hreply
  refine ⟨hconnected, htransport ▸ hkept, htransport ▸ hstamped, hreply.trans ?_⟩
  rw [hversion]
  change _ = some ((Checked.add n 1).map Reply.version)
  cases Checked.add n 1 <;> rfl

lemma serveUpdates_cons (moves : Nat) (call : Token × TwinState)
    (calls : List (Token × TwinState)) :
    s.serveUpdates moves (call :: calls) =
      (s.serve moves call.1 (.updateTwin call.2)).serveUpdates moves calls :=
  rfl

def readPatches (calls : List (Token × TwinState)) : List Mapping :=
  calls.filterMap fun call => call.2.patch.toOption

lemma readPatches_of_error {e : HubError} (h : state.patch = .error e) (token : Token)
    (calls : List (Token × TwinState)) :
    readPatches ((token, state) :: calls) = readPatches calls := by
  simp [readPatches, h, Except.toOption]

lemma readPatches_of_ok {patch : Mapping} (h : state.patch = .ok patch) (token : Token)
    (calls : List (Token × TwinState)) :
    readPatches ((token, state) :: calls) = patch :: readPatches calls := by
  simp [readPatches, h, Except.toOption]

lemma serveUpdates_connected (h : s.Connected) (hsorted : s.transport.reported.Sorted) (moves : Nat)
    (calls : List (Token × TwinState)) :
    (s.serveUpdates (moves + 2) calls).Connected ∧
      (s.serveUpdates (moves + 2) calls).transport.reported.Sorted := by
  induction calls generalizing s with
  | nil => exact ⟨h, hsorted⟩
  | cons call calls ih =>
    obtain ⟨token, state⟩ := call
    rw [serveUpdates_cons]
    cases hpatch : state.patch with
    | error e =>
      obtain ⟨hconnected, htransport, -⟩ := serve_unreadable h moves token hpatch
      exact ih hconnected (htransport ▸ hsorted)
    | ok patch =>
      obtain ⟨hconnected, hkept, -⟩ := serve_readable h hsorted moves token hpatch
      exact ih hconnected hkept

/-- The versions of a run of updates follow what they count up from. -/
lemma versions_eq (h : s.Connected) (hsorted : s.transport.reported.Sorted) (moves : Nat)
    (calls : List (Token × TwinState)) :
    s.versions (moves + 2) calls =
      (Twin.counts (Twin.versionIn s.transport.reported) (readPatches calls)).filterMap
        Twin.next? := by
  induction calls generalizing s with
  | nil => rfl
  | cons call calls ih =>
    obtain ⟨token, state⟩ := call
    rw [versions]
    cases hpatch : state.patch with
    | error e =>
      obtain ⟨hconnected, htransport, hreply⟩ := serve_unreadable h moves token hpatch
      rw [readPatches_of_error hpatch]
      simp only [hreply, ih hconnected (htransport ▸ hsorted), htransport]
    | ok patch =>
      obtain ⟨hconnected, hkept, hstamped, hreply⟩ := serve_readable h hsorted moves token hpatch
      rw [readPatches_of_ok hpatch]
      simp only [Twin.counts, hreply, ih hconnected hkept, hstamped]
      cases hadd : Checked.add (Twin.countedFrom (Twin.versionIn s.transport.reported) patch) 1 with
      | error failure =>
        have hnone : Twin.next? (Twin.countedFrom (Twin.versionIn s.transport.reported) patch) =
            none := by
          rw [Twin.next?, hadd]
          rfl
        rw [List.filterMap_cons_none hnone]
        rfl
      | ok v =>
        have hsome : Twin.next? (Twin.countedFrom (Twin.versionIn s.transport.reported) patch) =
            some v := by
          rw [Twin.next?, hadd]
          rfl
        rw [List.filterMap_cons_some hsome]
        rfl

/-- An update whose patch cannot be read fails and changes nothing.  The others return one more than
the version that their patch brings along, or than the one stamped before; one that counts up from
the greatest number panics.  The versions of a run rise, with no overflow, exactly if none but the
first patch goes back behind the version stamped before it, and each leaves room for one more. -/
theorem versions_rise_iff (connected : s.Connected) (sorted : s.transport.reported.Sorted)
    (calls : List (Token × TwinState)) (hmoves : 2 ≤ moves) :
    (∀ before token state e, state.patch = .error e →
      (s.serveUpdates moves before).reply? moves token (.updateTwin state) =
          some (.error (.error e)) ∧
        ((s.serveUpdates moves before).serve moves token (.updateTwin state)).transport =
          (s.serveUpdates moves before).transport) ∧
    (∀ before token state patch, state.patch = .ok patch →
      (s.serveUpdates moves before).reply? moves token (.updateTwin state) =
        some ((Checked.add (Twin.countedFrom
          (Twin.versionIn (s.serveUpdates moves before).transport.reported) patch) 1).map
            .version)) ∧
    s.versions moves calls =
      (Twin.counts (Twin.versionIn s.transport.reported) (readPatches calls)).filterMap
        Twin.next? ∧
    ((s.versions moves calls).Pairwise (· < ·) ∧
        (∀ n ∈ Twin.counts (Twin.versionIn s.transport.reported) (readPatches calls),
          ∃ v, Twin.next? n = some v) ↔
      Twin.AdvancesFromFirst (Twin.versionIn s.transport.reported) (readPatches calls)) := by
  obtain ⟨moves, rfl⟩ := Nat.exists_eq_add_of_le' hmoves
  have hversions := versions_eq connected sorted moves calls
  refine ⟨?_, ?_, hversions, ?_⟩
  · intro before token state e hpatch
    have hbefore := (serveUpdates_connected connected sorted moves before).1
    exact (serve_unreadable hbefore moves token hpatch).2.symm
  · intro before token state patch hpatch
    obtain ⟨hbefore, hkept⟩ := serveUpdates_connected connected sorted moves before
    exact (serve_readable hbefore hkept moves token hpatch).2.2.2
  · rw [hversions, ← Twin.rises_iff]
    rfl

lemma patch_single (key : String) (i : Int64) :
    TwinState.patch ⟨[(key, .int i)]⟩ = .ok [(key, .int i)] := by
  apply TwinState.patch_of_plain
  refine Value.plain_mapping.2 ⟨List.pairwise_singleton _ _, ?_⟩
  intro field hfield
  obtain rfl := List.mem_singleton.1 hfield
  exact ⟨by simp [Value.WellFormed], rfl, Nat.zero_le _⟩

lemma stampedTwin_connected : stampedTwin.Connected where
  ready := rfl
  script := rfl
  underway entry hentry := by
    have hnone : stampedTwin.underway = [] := rfl
    simp [hnone] at hentry

lemma stampedTwin_sorted : stampedTwin.transport.reported.Sorted := by
  have hreported : stampedTwin.transport.reported =
      [("$version", .int 4), ("door", .string "open"), ("fan", .null)] := rfl
  rw [hreported, KeyMap.Sorted]
  decide

def laterVersion : List (Token × TwinState) :=
  [("t", ⟨[("fan", .int 1)]⟩), ("t", ⟨[("$version", .int 9)]⟩), ("u", ⟨[("door", .int 0)]⟩)]

lemma readPatches_laterVersion : readPatches laterVersion =
    [[("fan", .int 1)], [("$version", .int 9)], [("door", .int 0)]] := by
  rw [laterVersion, readPatches_of_ok (patch_single _ _), readPatches_of_ok (patch_single _ _),
    readPatches_of_ok (patch_single _ _)]
  rfl

theorem versions_rise_iff_of_later_version :
    stampedTwin.versions 2 laterVersion = [5, 10, 11] ∧
      (stampedTwin.versions 2 laterVersion).Pairwise (· < ·) := by
  obtain ⟨-, -, hversions, hrise⟩ :=
    versions_rise_iff stampedTwin_connected stampedTwin_sorted laterVersion (Nat.le_refl 2)
  rw [readPatches_laterVersion] at hversions hrise
  refine ⟨hversions.trans (by decide), (hrise.2 ⟨by decide, ?_⟩).1⟩
  exact ⟨by decide, by decide, by decide, by decide, trivial⟩

/-- An update that brings along the version from before the update in front of it. -/
def olderVersion : List (Token × TwinState) :=
  [("t", ⟨[("fan", .int 1)]⟩), ("t", ⟨[("$version", .int 4)]⟩)]

/-- A version can be returned twice, when a patch goes back to where the update before it began; and
an update panics whose patch leaves no room for one more. -/
theorem versions_repeat_and_overflow :
    stampedTwin.versions 2 olderVersion = [5, 5] ∧
      ¬ (stampedTwin.versions 2 olderVersion).Pairwise (· < ·) ∧
      stampedTwin.reply? 2 "t" (.updateTwin ⟨[("$version", .int Int64.maxValue)]⟩) =
        some (.error .panic) := by
  have holder : readPatches olderVersion = [[("fan", .int 1)], [("$version", .int 4)]] := by
    rw [olderVersion, readPatches_of_ok (patch_single _ _), readPatches_of_ok (patch_single _ _)]
    rfl
  have hversions := versions_eq stampedTwin_connected stampedTwin_sorted 0 olderVersion
  rw [holder] at hversions
  rw [hversions]
  refine ⟨by decide, by decide, ?_⟩
  exact (serve_readable stampedTwin_connected stampedTwin_sorted 0 "t"
    (patch_single _ _)).2.2.2.trans rfl

end DeviceStage

end Rehearsal
end DeviceHub
