import DeviceHub.KeyMap
import Mathlib.Data.List.Basic
import Mathlib.Data.List.Induction

/-!
Maps from texts by what they hold under each key.  Inserting and erasing keep the keys in ascending
order, and two maps in ascending order that hold the same under every key are the same.
-/
namespace DeviceHub.KeyMap

variable {α : Type} {key k : String} {value v : α} {fields : KeyMap α}

@[simp] lemma find?_nil : find? key ([] : KeyMap α) = none := rfl

@[simp] lemma find?_cons (key k : String) (v : α) (rest : KeyMap α) :
    find? key ((k, v) :: rest) = if k = key then some v else rest.find? key := rfl

lemma mem_of_find? (h : fields.find? key = some value) : (key, value) ∈ fields := by
  induction fields with
  | nil => simp at h
  | cons entry rest ih =>
    obtain ⟨k, v⟩ := entry
    rw [find?_cons] at h
    split at h
    next hk =>
      cases h
      exact hk ▸ List.mem_cons_self
    next => exact List.mem_cons_of_mem _ (ih h)

lemma find?_eq_none (h : ∀ entry ∈ fields, entry.1 ≠ key) : fields.find? key = none := by
  cases hfind : fields.find? key with
  | none => rfl
  | some value => exact absurd rfl (h _ (mem_of_find? hfind))

lemma find?_insert_of_ne (hne : k ≠ key) (value : α) (fields : KeyMap α) :
    (fields.insert key value).find? k = fields.find? k := by
  induction fields with
  | nil => simp [insert, hne.symm]
  | cons entry rest ih =>
    obtain ⟨k', v⟩ := entry
    unfold insert
    split
    next hk => simp [hk, hne.symm]
    next =>
      split
      · simp [hne.symm]
      · simp [ih]

lemma mem_insert {entry : String × α} (h : entry ∈ fields.insert key value) :
    entry = (key, value) ∨ entry ∈ fields := by
  induction fields with
  | nil => exact .inl (List.mem_singleton.1 h)
  | cons first rest ih =>
    obtain ⟨k, v⟩ := first
    unfold insert at h
    split at h
    · exact (List.mem_cons.1 h).imp_right (List.mem_cons_of_mem _)
    · split at h
      · exact List.mem_cons.1 h
      · obtain rfl | h := List.mem_cons.1 h
        · exact .inr List.mem_cons_self
        · exact (ih h).imp_right (List.mem_cons_of_mem _)

lemma mem_erase {entry : String × α} (h : entry ∈ fields.erase key) : entry ∈ fields := by
  induction fields with
  | nil => exact h
  | cons first rest ih =>
    obtain ⟨k, v⟩ := first
    unfold erase at h
    split at h
    · exact List.mem_cons_of_mem _ h
    · obtain rfl | h := List.mem_cons.1 h
      · exact List.mem_cons_self
      · exact List.mem_cons_of_mem _ (ih h)

lemma sorted_nil : Sorted ([] : KeyMap α) := List.Pairwise.nil

lemma sorted_cons {rest : KeyMap α} :
    Sorted ((k, v) :: rest) ↔ (∀ entry ∈ rest, k < entry.1) ∧ rest.Sorted :=
  List.pairwise_cons

/-- A key less than all others is not among them. -/
lemma find?_eq_none_of_lt (h : ∀ entry ∈ fields, key < entry.1) : fields.find? key = none :=
  find?_eq_none fun entry hentry heq => String.lt_irrefl key (by simpa [heq] using h entry hentry)

theorem Sorted.insert (h : fields.Sorted) (key : String) (value : α) :
    (fields.insert key value).Sorted := by
  induction fields with
  | nil => exact List.pairwise_singleton _ _
  | cons entry rest ih =>
    obtain ⟨k, v⟩ := entry
    obtain ⟨hlt, hrest⟩ := sorted_cons.1 h
    unfold KeyMap.insert
    split
    next hk => exact sorted_cons.2 ⟨hk ▸ hlt, hrest⟩
    next hne =>
      split
      next hkey =>
        refine sorted_cons.2 ⟨fun entry hentry => ?_, h⟩
        obtain rfl | hentry := List.mem_cons.1 hentry
        · exact hkey
        · exact String.lt_trans hkey (hlt entry hentry)
      next hkey =>
        refine sorted_cons.2 ⟨fun entry hentry => ?_, ih hrest⟩
        obtain rfl | hentry := mem_insert hentry
        · have : k ≤ key := String.not_lt.1 hkey
          grind
        · exact hlt entry hentry

theorem Sorted.erase (h : fields.Sorted) (key : String) : (fields.erase key).Sorted := by
  induction fields with
  | nil => exact h
  | cons entry rest ih =>
    obtain ⟨k, v⟩ := entry
    obtain ⟨hlt, hrest⟩ := sorted_cons.1 h
    unfold KeyMap.erase
    split
    · exact hrest
    · exact sorted_cons.2 ⟨fun entry hentry => hlt entry (mem_erase hentry), ih hrest⟩

lemma Sorted.find?_erase (h : fields.Sorted) (key k : String) :
    (fields.erase key).find? k = if k = key then none else fields.find? k := by
  induction fields with
  | nil => simp [KeyMap.erase]
  | cons entry rest ih =>
    obtain ⟨k', v⟩ := entry
    obtain ⟨hlt, hrest⟩ := sorted_cons.1 h
    unfold KeyMap.erase
    split
    next hk =>
      subst hk
      by_cases hkey : k = k'
      · simpa [hkey] using find?_eq_none_of_lt hlt
      · simp [hkey, Ne.symm hkey]
    next hk =>
      rw [find?_cons, ih hrest, find?_cons]
      by_cases hkey : k = key
      · simp [hkey, hk]
      · simp [hkey]

lemma Sorted.find?_of_mem (h : fields.Sorted) (hmem : (key, value) ∈ fields) :
    fields.find? key = some value := by
  induction fields with
  | nil => cases hmem
  | cons entry rest ih =>
    obtain ⟨k, v⟩ := entry
    obtain ⟨hlt, hrest⟩ := sorted_cons.1 h
    obtain heq | hmem := List.mem_cons.1 hmem
    · cases heq
      simp
    · have hne : k ≠ key := fun heq => String.lt_irrefl k (by simpa [heq] using hlt _ hmem)
      rw [find?_cons, if_neg hne, ih hrest hmem]

/-- In ascending order a map is told by what it holds under each key. -/
theorem Sorted.ext {first second : KeyMap α} (h : first.Sorted) (h' : second.Sorted)
    (hfind : ∀ key, first.find? key = second.find? key) : first = second := by
  induction first generalizing second with
  | nil =>
    cases second with
    | nil => rfl
    | cons entry' rest' => simpa [find?] using hfind entry'.1
  | cons entry rest ih =>
    obtain ⟨k, v⟩ := entry
    obtain ⟨hlt, hrest⟩ := sorted_cons.1 h
    cases second with
    | nil => simpa using hfind k
    | cons entry' rest' =>
      obtain ⟨k', v'⟩ := entry'
      obtain ⟨hlt', hrest'⟩ := sorted_cons.1 h'
      -- each of the two least keys is in the other map, so they are one
      have hmem : k = k' ∨ k' < k := by
        have hfound := hfind k
        rw [find?_cons, if_pos rfl] at hfound
        exact (List.mem_cons.1 (mem_of_find? hfound.symm)).imp (congrArg Prod.fst) (hlt' _)
      have hmem' : k' = k ∨ k < k' := by
        have hfound := hfind k'
        rw [find?_cons k' k', if_pos rfl] at hfound
        exact (List.mem_cons.1 (mem_of_find? hfound)).imp (congrArg Prod.fst) (hlt _)
      obtain rfl : k = k' := by grind
      have hvalue : some v = some v' := by simpa using hfind k
      cases hvalue
      refine congrArg _ (ih hrest hrest' fun key => ?_)
      by_cases hkey : k = key
      · rw [← hkey, find?_eq_none_of_lt hlt, find?_eq_none_of_lt hlt']
      · simpa [hkey] using hfind key

/-- A key greater than all others comes last. -/
lemma insert_of_forall_lt (h : ∀ entry ∈ fields, entry.1 < key) (value : α) :
    fields.insert key value = fields ++ [(key, value)] := by
  induction fields with
  | nil => rfl
  | cons entry rest ih =>
    obtain ⟨k, v⟩ := entry
    have hk : k < key := h _ List.mem_cons_self
    have hne : k ≠ key := fun heq => String.lt_irrefl key (heq ▸ hk)
    rw [KeyMap.insert, if_neg hne, if_neg (String.lt_asymm hk),
      ih fun entry hentry => h entry (List.mem_cons_of_mem _ hentry)]
    rfl

theorem Sorted.insertAll (h : fields.Sorted) (entries : List (String × α)) :
    (insertAll entries fields).Sorted := by
  induction entries generalizing fields with
  | nil => exact h
  | cons entry rest ih => exact ih (h.insert entry.1 entry.2)

/-- Entries in ascending order stand over what a map held before. -/
lemma Sorted.find?_insertAll {entries : KeyMap α} (h : entries.Sorted) (fields : KeyMap α)
    (key : String) :
    (KeyMap.insertAll entries fields).find? key = (entries.find? key).or (fields.find? key) := by
  induction entries generalizing fields with
  | nil => rfl
  | cons entry rest ih =>
    obtain ⟨k, v⟩ := entry
    obtain ⟨hlt, hrest⟩ := sorted_cons.1 h
    have hinsert : KeyMap.insertAll ((k, v) :: rest) fields =
        KeyMap.insertAll rest (fields.insert k v) := rfl
    rw [hinsert, ih hrest, find?_cons]
    by_cases hkey : k = key
    · subst hkey
      rw [find?_eq_none_of_lt hlt, find?_insert_self, if_pos rfl]
      rfl
    · rw [find?_insert_of_ne (Ne.symm hkey), if_neg hkey]

lemma find?_insertAll_of_ne {entries : List (String × α)} (h : ∀ entry ∈ entries, entry.1 ≠ key)
    (fields : KeyMap α) : (KeyMap.insertAll entries fields).find? key = fields.find? key := by
  induction entries generalizing fields with
  | nil => rfl
  | cons entry rest ih =>
    obtain ⟨hne, hrest⟩ := List.forall_mem_cons.1 h
    exact (ih hrest (fields.insert entry.1 entry.2)).trans
      (find?_insert_of_ne (Ne.symm hne) entry.2 fields)

lemma ofList_concat (entries : List (String × α)) (entry : String × α) :
    ofList (entries ++ [entry]) = (ofList entries).insert entry.1 entry.2 := by
  rw [ofList, KeyMap.insertAll, List.foldl_append]
  rfl

/-- Of the entries under one key the last stands. -/
theorem find?_ofList_eq_some_iff {entries : List (String × α)} :
    (ofList entries).find? key = some value ↔
      ∃ before after, entries = before ++ (key, value) :: after ∧
        ∀ entry ∈ after, entry.1 ≠ key := by
  constructor
  · intro h
    induction entries using List.reverseRecOn with
    | nil => cases h
    | append_singleton entries entry ih =>
      obtain ⟨k, v⟩ := entry
      rw [ofList_concat] at h
      by_cases hk : k = key
      · subst hk
        rw [find?_insert_self] at h
        cases h
        exact ⟨entries, [], rfl, by simp⟩
      · rw [find?_insert_of_ne (Ne.symm hk)] at h
        obtain ⟨before, after, rfl, hafter⟩ := ih h
        refine ⟨before, after ++ [(k, v)], by simp, fun entry hentry => ?_⟩
        obtain hentry | hentry := List.mem_append.1 hentry
        · exact hafter entry hentry
        · exact List.mem_singleton.1 hentry ▸ hk
  · rintro ⟨before, after, rfl, hafter⟩
    rw [ofList, KeyMap.insertAll, List.foldl_append, List.foldl_cons]
    exact (find?_insertAll_of_ne hafter _).trans (find?_insert_self key value _)

lemma find?_filter (keep : String → Bool) (fields : KeyMap α) (key : String) :
    KeyMap.find? key (fields.filter fun entry => keep entry.1) =
      if keep key then fields.find? key else none := by
  induction fields with
  | nil => simp
  | cons entry rest ih =>
    obtain ⟨k, v⟩ := entry
    by_cases hkey : k = key
    · subst hkey
      cases hkeep : keep k <;> simp [hkeep, ih]
    · cases hkeep : keep k <;> simp [hkeep, hkey, ih]

lemma Sorted.filter (h : fields.Sorted) (keep : String × α → Bool) :
    Sorted (fields.filter keep) :=
  List.Pairwise.filter keep h

theorem sorted_ofList (entries : List (String × α)) : (ofList entries).Sorted :=
  sorted_nil.insertAll entries

end DeviceHub.KeyMap
