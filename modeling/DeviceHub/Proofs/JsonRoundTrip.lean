import DeviceHub.Proofs.JsonText
import DeviceHub.Proofs.SortedMap

/-!
`from_json_slice` after `to_json_vec`.  A printed value is read back, whatever follows it in its
container, if its mappings are in order, its containers nest no deeper than the parser goes, and it
holds no float but those that are no numbers; these come back as null.
-/
namespace DeviceHub

namespace Value

mutual

/-- How deep containers nest in a value. -/
def depth : Value → Nat
  | sequence items => itemsDepth items + 1
  | mapping fields => fieldsDepth fields + 1
  | _ => 0

def itemsDepth : List Value → Nat
  | [] => 0
  | item :: items => Nat.max item.depth (itemsDepth items)

def fieldsDepth : List (String × Value) → Nat
  | [] => 0
  | (_, value) :: fields => Nat.max value.depth (fieldsDepth fields)

end

mutual

def floats : Value → List Double
  | float d => [d]
  | sequence items => itemsFloats items
  | mapping fields => fieldsFloats fields
  | _ => []

def itemsFloats : List Value → List Double
  | [] => []
  | item :: items => item.floats ++ itemsFloats items

def fieldsFloats : List (String × Value) → List Double
  | [] => []
  | (_, value) :: fields => value.floats ++ fieldsFloats fields

end

mutual

/-- Every mapping in a value is in order. -/
def WellFormed : Value → Prop
  | sequence items => ItemsWellFormed items
  | mapping fields => KeyMap.Sorted fields ∧ FieldsWellFormed fields
  | _ => True

def ItemsWellFormed : List Value → Prop
  | [] => True
  | item :: items => item.WellFormed ∧ ItemsWellFormed items

def FieldsWellFormed : List (String × Value) → Prop
  | [] => True
  | (_, value) :: fields => value.WellFormed ∧ FieldsWellFormed fields

end

mutual

/-- A value with null in place of its floats. -/
def withoutFloats : Value → Value
  | float _ => null
  | sequence items => sequence (itemsWithoutFloats items)
  | mapping fields => mapping (fieldsWithoutFloats fields)
  | other => other

def itemsWithoutFloats : List Value → List Value
  | [] => []
  | item :: items => item.withoutFloats :: itemsWithoutFloats items

def fieldsWithoutFloats : List (String × Value) → List (String × Value)
  | [] => []
  | (key, value) :: fields => (key, value.withoutFloats) :: fieldsWithoutFloats fields

end

lemma itemsDepth_le {n : Nat} {items : List Value} :
    itemsDepth items ≤ n ↔ ∀ item ∈ items, item.depth ≤ n := by
  induction items with
  | nil => simp [itemsDepth]
  | cons item items ih => simp only [itemsDepth, Nat.max_le, ih, List.forall_mem_cons]

lemma fieldsDepth_le {n : Nat} {fields : Mapping} :
    fieldsDepth fields ≤ n ↔ ∀ field ∈ fields, field.2.depth ≤ n := by
  induction fields with
  | nil => simp [fieldsDepth]
  | cons field fields ih => simp only [fieldsDepth, Nat.max_le, ih, List.forall_mem_cons]

lemma mem_itemsFloats {d : Double} {items : List Value} :
    d ∈ itemsFloats items ↔ ∃ item ∈ items, d ∈ item.floats := by
  induction items with
  | nil => simp [itemsFloats]
  | cons item items ih => simp [itemsFloats, ih]

lemma mem_fieldsFloats {d : Double} {fields : Mapping} :
    d ∈ fieldsFloats fields ↔ ∃ field ∈ fields, d ∈ field.2.floats := by
  induction fields with
  | nil => simp [fieldsFloats]
  | cons field fields ih => simp [fieldsFloats, ih]

lemma itemsWellFormed_iff {items : List Value} :
    ItemsWellFormed items ↔ ∀ item ∈ items, item.WellFormed := by
  induction items with
  | nil => simp [ItemsWellFormed]
  | cons item items ih => simp [ItemsWellFormed, ih]

lemma fieldsWellFormed_iff {fields : Mapping} :
    FieldsWellFormed fields ↔ ∀ field ∈ fields, field.2.WellFormed := by
  induction fields with
  | nil => simp [FieldsWellFormed]
  | cons field fields ih => simp [FieldsWellFormed, ih]

/-- A value that is read back from its text if so many containers may be opened. -/
structure Readable (depth : Nat) (v : Value) : Prop where
  wellFormed : v.WellFormed
  floats : ∀ d ∈ v.floats, d.isFinite = false
  depth_le : v.depth ≤ depth

lemma readable_sequence {depth : Nat} {items : List Value} :
    (sequence items).Readable (depth + 1) ↔ ∀ item ∈ items, item.Readable depth := by
  constructor
  · rintro ⟨hformed, hfloats, hdepth⟩ item hitem
    refine ⟨itemsWellFormed_iff.1 hformed item hitem, fun d hd => hfloats d ?_,
      itemsDepth_le.1 (Nat.le_of_succ_le_succ hdepth) item hitem⟩
    exact mem_itemsFloats.2 ⟨item, hitem, hd⟩
  · intro h
    refine ⟨itemsWellFormed_iff.2 fun item hitem => (h item hitem).wellFormed, fun d hd => ?_,
      Nat.succ_le_succ (itemsDepth_le.2 fun item hitem => (h item hitem).depth_le)⟩
    obtain ⟨item, hitem, hd⟩ := mem_itemsFloats.1 hd
    exact (h item hitem).floats d hd

lemma readable_mapping {depth : Nat} {fields : Mapping} :
    (mapping fields).Readable (depth + 1) ↔
      fields.Sorted ∧ ∀ field ∈ fields, field.2.Readable depth := by
  constructor
  · rintro ⟨hformed, hfloats, hdepth⟩
    refine ⟨hformed.1, fun field hfield => ⟨fieldsWellFormed_iff.1 hformed.2 field hfield,
      fun d hd => hfloats d ?_, fieldsDepth_le.1 (Nat.le_of_succ_le_succ hdepth) field hfield⟩⟩
    exact mem_fieldsFloats.2 ⟨field, hfield, hd⟩
  · rintro ⟨hsorted, h⟩
    refine ⟨⟨hsorted, fieldsWellFormed_iff.2 fun field hfield => (h field hfield).wellFormed⟩,
      fun d hd => ?_,
      Nat.succ_le_succ (fieldsDepth_le.2 fun field hfield => (h field hfield).depth_le)⟩
    obtain ⟨field, hfield, hd⟩ := mem_fieldsFloats.1 hd
    exact (h field hfield).floats d hd

end Value

namespace Json

open Value

/-- A value begins neither with a blank nor with a closing bracket. -/
lemma valueText_cons (v : Value) (h : ∀ d ∈ v.floats, d.isFinite = false) :
    ∃ c cs, valueText v = c :: cs ∧ c ∈ "ntf\"[\x7b-0123456789".toList := by
  cases v with
  | null => exact ⟨_, _, rfl, by decide⟩
  | bool b => cases b <;> exact ⟨_, _, rfl, by decide⟩
  | int i =>
    obtain ⟨c, cs, htext, hc⟩ := intText_cons i
    have hstarts : ∀ c ∈ "-0123456789".toList, c ∈ "ntf\"[\x7b-0123456789".toList := by simp
    exact ⟨c, cs, htext, hstarts c hc⟩
  | float d =>
    have hnull : valueText (.float d) = "null".toList := by
      simp [valueText, floatText, h d (List.mem_singleton.2 rfl)]
    exact ⟨_, _, hnull, by decide⟩
  | string s => exact ⟨_, _, rfl, by decide⟩
  | sequence items => cases items <;> exact ⟨_, _, rfl, by decide⟩
  | mapping fields => cases fields <;> exact ⟨_, _, rfl, by decide⟩

/-- What is read of a sequence after its opening bracket, when it is not empty. -/
lemma parseValue_of_items {item : Value} (h : ∀ d ∈ item.floats, d.isFinite = false)
    (depth fuel : Nat) (rest : List Char) :
    parseValue (depth + 1) (fuel + 1) ('[' :: (valueText item ++ rest)) =
      (parseItems depth fuel (valueText item ++ rest)).map fun (items, rest) =>
        (.sequence items, rest) := by
  obtain ⟨c, cs, htext, hc⟩ := valueText_cons item h
  have hstart : ∀ c ∈ "ntf\"[\x7b-0123456789".toList,
      ¬(c = ' ' ∨ c = '\t' ∨ c = '\n' ∨ c = '\r') ∧ c ≠ ']' := by simp
  obtain ⟨hblank, hclose⟩ := hstart c hc
  rw [htext, List.cons_append]
  simp [parseValue, skipBlanks, hblank, hclose]

lemma follows_itemsText (items : List Value) (rest : List Char) :
    Follows (itemsText items ++ ']' :: rest) := by
  cases items <;> simp [itemsText, Follows]

lemma follows_fieldsText (fields : Mapping) (rest : List Char) :
    Follows (fieldsText fields ++ '\x7d' :: rest) := by
  cases fields <;> simp [fieldsText, Follows]

lemma parseValue_of_fields (depth fuel : Nat) (key : String) (rest : List Char) :
    parseValue (depth + 1) (fuel + 1) ('\x7b' :: (stringText key ++ rest)) =
      (parseFields depth fuel [] (stringText key ++ rest)).map fun (fields, rest) =>
        (.mapping fields, rest) := by
  rw [stringText, List.cons_append, List.cons_append, parseValue]
  rfl

lemma parseFields_stringText (depth fuel : Nat) (fields : Mapping) (key : String)
    (text : List Char) :
    parseFields depth (fuel + 1) fields (stringText key ++ ':' :: text) =
      (parseValue depth fuel text).bind fun (value, rest) =>
        match skipBlanks rest with
        | '\x7d' :: rest => some (fields.insert key value, rest)
        | ',' :: rest => parseFields depth fuel (fields.insert key value) rest
        | _ => none := by
  have htext : stringText key ++ ':' :: text =
      '"' :: (key.toList.flatMap escapeChar ++ '"' :: ':' :: text) := by
    simp [stringText]
  rw [htext, parseFields]
  change (parseStringTail (key.toList.flatMap escapeChar ++ '"' :: ':' :: text)).bind _ = _
  rw [parseStringTail_flatMap]
  change (parseValue depth fuel text).bind _ = _
  rewrite [String.ofList_toList]
  rfl

lemma parseFields_of_value {depth fuel : Nat} {fields : Mapping} {key : String} {value : Value}
    {text rest : List Char} (h : parseValue depth fuel text = some (value, rest)) :
    parseFields depth (fuel + 1) fields (stringText key ++ ':' :: text) =
      match skipBlanks rest with
      | '\x7d' :: rest => some (fields.insert key value, rest)
      | ',' :: rest => parseFields depth fuel (fields.insert key value) rest
      | _ => none := by
  rw [parseFields_stringText, h]
  rfl

mutual

/-- A value is read back; every step of the reader takes a character of it. -/
theorem parseValue_valueText : ∀ (v : Value) {depth fuel : Nat} {rest : List Char},
    v.Readable depth → (valueText v).length ≤ fuel → Follows rest →
      parseValue depth fuel (valueText v ++ rest) = some (v.withoutFloats, rest)
  | v, depth, 0, rest, h, hfuel, _ => by
    obtain ⟨c, cs, htext, -⟩ := valueText_cons v h.floats
    simp [htext] at hfuel
  | .null, _, fuel + 1, rest, _, _, _ => rfl
  | .bool true, _, fuel + 1, rest, _, _, _ => rfl
  | .bool false, _, fuel + 1, rest, _, _, _ => rfl
  | .int i, _, fuel + 1, rest, _, _, hrest => by
    obtain ⟨c, cs, htext, hc⟩ := intText_cons i
    have hnumber := parseNumber_intText i hrest
    rw [htext, List.cons_append] at hnumber
    rw [valueText, htext, List.cons_append, parseValue_of_number hc, hnumber]
    rfl
  | .float d, _, fuel + 1, rest, h, _, _ => by
    have hnull : valueText (.float d) = "null".toList := by
      simp [valueText, floatText, h.floats d (List.mem_singleton.2 rfl)]
    rw [hnull]
    rfl
  | .string s, _, fuel + 1, rest, _, _, _ => by
    have htext : valueText (.string s) ++ rest =
        '"' :: (s.toList.flatMap escapeChar ++ '"' :: rest) := by
      simp [valueText, stringText]
    rw [htext, parseValue]
    simp [skipBlanks, parseStringTail_flatMap, withoutFloats]
  | .sequence _, 0, fuel + 1, rest, h, _, _ => by simpa [Value.depth] using h.depth_le
  | .sequence [], depth + 1, fuel + 1, rest, _, _, _ => rfl
  | .sequence (item :: items), depth + 1, fuel + 1, rest, h, hfuel, _ => by
    have hitems := readable_sequence.1 h
    have htext : valueText (.sequence (item :: items)) ++ rest =
        '[' :: (valueText item ++ (itemsText items ++ ']' :: rest)) := by
      simp [valueText]
    have hlength : (valueText item ++ itemsText items).length < fuel := by
      simp only [valueText, List.length_append, List.length_cons, List.length_nil] at hfuel ⊢
      omega
    rw [htext, parseValue_of_items (hitems item List.mem_cons_self).floats,
      parseItems_itemsText item items hitems hlength]
    rfl
  | .mapping _, 0, fuel + 1, rest, h, _, _ => by simpa [Value.depth] using h.depth_le
  | .mapping [], depth + 1, fuel + 1, rest, _, _, _ => rfl
  | .mapping ((key, value) :: fields), depth + 1, fuel + 1, rest, h, hfuel, _ => by
    obtain ⟨hsorted, hfields⟩ := readable_mapping.1 h
    have htext : valueText (.mapping ((key, value) :: fields)) ++ rest =
        '\x7b' :: (stringText key ++
          ':' :: (valueText value ++ (fieldsText fields ++ '\x7d' :: rest))) := by
      simp [valueText]
    have hlength : (valueText value ++ fieldsText fields).length < fuel := by
      simp only [valueText, List.length_append, List.length_cons, List.length_nil] at hfuel ⊢
      omega
    rw [htext, parseValue_of_fields, parseFields_fieldsText key value fields (by simp) hsorted
      hfields hlength]
    rfl

theorem parseItems_itemsText : ∀ (item : Value) (items : List Value) {depth fuel : Nat}
    {rest : List Char}, (∀ v ∈ item :: items, v.Readable depth) →
      (valueText item ++ itemsText items).length < fuel →
      parseItems depth fuel (valueText item ++ (itemsText items ++ ']' :: rest)) =
        some (itemsWithoutFloats (item :: items), rest)
  | item, items, depth, fuel + 1, rest, h, hfuel => by
    rw [List.length_append] at hfuel
    have hitem : parseValue depth fuel _ = _ :=
      parseValue_valueText item (h item List.mem_cons_self)
      (by omega) (follows_itemsText items rest)
    rw [parseItems, hitem, Option.bind_some]
    match items with
    | [] => rfl
    | next :: items =>
      have hlength : (valueText next ++ itemsText items).length < fuel := by
        simp only [itemsText, List.length_append, List.length_cons] at hfuel ⊢
        omega
      have hnext : ∀ v ∈ next :: items, v.Readable depth :=
        fun v hv => h v (List.mem_cons_of_mem _ hv)
      have hrest := @parseItems_itemsText next items depth fuel rest hnext hlength
      simp [itemsText, skipBlanks, hrest, itemsWithoutFloats]

/-- The fields of a mapping are read back, after those already read. -/
theorem parseFields_fieldsText : ∀ (key : String) (value : Value) (fields : Mapping)
    {depth fuel : Nat} {read : Mapping} {rest : List Char},
    (∀ entry ∈ read, ∀ field ∈ (key, value) :: fields, entry.1 < field.1) →
      KeyMap.Sorted ((key, value) :: fields) →
      (∀ field ∈ (key, value) :: fields, field.2.Readable depth) →
      (valueText value ++ fieldsText fields).length < fuel →
      parseFields depth fuel read
          (stringText key ++ ':' :: (valueText value ++ (fieldsText fields ++ '\x7d' :: rest))) =
        some (read ++ fieldsWithoutFloats ((key, value) :: fields), rest)
  | key, value, fields, depth, fuel + 1, read, rest, hread, hsorted, h, hfuel => by
    rw [List.length_append] at hfuel
    have hvalue : parseValue depth fuel _ = _ := parseValue_valueText value
      (h _ List.mem_cons_self) (by omega) (follows_fieldsText fields rest)
    have hinsert := KeyMap.insert_of_forall_lt
      (fun entry hentry => hread entry hentry _ List.mem_cons_self) value.withoutFloats
    rw [parseFields_of_value hvalue, hinsert]
    match fields with
    | [] => rfl
    | (next, nextValue) :: fields =>
      have hlength : (valueText nextValue ++ fieldsText fields).length < fuel := by
        simp only [fieldsText, List.length_append, List.length_cons] at hfuel ⊢
        omega
      obtain ⟨hlt, hsorted'⟩ := KeyMap.sorted_cons.1 hsorted
      have hread' : ∀ entry ∈ read ++ [(key, value.withoutFloats)],
          ∀ field ∈ (next, nextValue) :: fields, entry.1 < field.1 := by
        intro entry hentry field hfield
        obtain hentry | hentry := List.mem_append.1 hentry
        · exact hread entry hentry field (List.mem_cons_of_mem _ hfield)
        · rw [List.mem_singleton.1 hentry]
          exact hlt field hfield
      have hrest := @parseFields_fieldsText next nextValue fields depth fuel _ rest hread' hsorted'
        (fun field hfield => h field (List.mem_cons_of_mem _ hfield)) hlength
      simpa [fieldsText, skipBlanks, fieldsWithoutFloats] using hrest

end

theorem parse?_valueText {v : Value} (h : v.Readable maxDepth) :
    parse? (valueText v) = some v.withoutFloats := by
  have hread : parseValue maxDepth ((valueText v).length + 1) (valueText v) =
      some (v.withoutFloats, []) := by
    have hend : Follows [] := by simp [Follows]
    simpa using parseValue_valueText v h (Nat.le_succ _) hend
  rw [parse?, hread]
  rfl

end Json

namespace Value

mutual

lemma withoutFloats_eq : ∀ v : Value, v.floats = [] → v.withoutFloats = v
  | null, _ | bool _, _ | int _, _ | string _, _ => rfl
  | sequence items, h => congrArg sequence (itemsWithoutFloats_eq items h)
  | mapping fields, h => congrArg mapping (fieldsWithoutFloats_eq fields h)

lemma itemsWithoutFloats_eq : ∀ items : List Value,
    itemsFloats items = [] → itemsWithoutFloats items = items
  | [], _ => rfl
  | item :: items, h => by
    obtain ⟨hitem, hitems⟩ := List.append_eq_nil_iff.1 h
    rw [itemsWithoutFloats, withoutFloats_eq item hitem, itemsWithoutFloats_eq items hitems]

lemma fieldsWithoutFloats_eq : ∀ fields : Mapping,
    fieldsFloats fields = [] → fieldsWithoutFloats fields = fields
  | [], _ => rfl
  | (key, value) :: fields, h => by
    obtain ⟨hvalue, hfields⟩ := List.append_eq_nil_iff.1 h
    rw [fieldsWithoutFloats, withoutFloats_eq value hvalue, fieldsWithoutFloats_eq fields hfields]

end

/-- A value without floats, its mappings in order, with containers nested so deep at most. -/
structure Plain (depth : Nat) (v : Value) : Prop where
  wellFormed : v.WellFormed
  floatFree : v.floats = []
  depth_le : v.depth ≤ depth

lemma Plain.readable {depth : Nat} {v : Value} (h : v.Plain depth) : v.Readable depth :=
  ⟨h.wellFormed, by simp [h.floatFree], h.depth_le⟩

lemma Plain.mono {depth depth' : Nat} {v : Value} (h : v.Plain depth) (hle : depth ≤ depth') :
    v.Plain depth' :=
  ⟨h.wellFormed, h.floatFree, Nat.le_trans h.depth_le hle⟩

lemma plain_mapping {depth : Nat} {fields : Mapping} :
    (mapping fields).Plain (depth + 1) ↔
      fields.Sorted ∧ ∀ field ∈ fields, field.2.Plain depth := by
  constructor
  · intro h
    obtain ⟨hsorted, hfields⟩ := readable_mapping.1 h.readable
    refine ⟨hsorted, fun field hfield => ⟨(hfields field hfield).wellFormed, ?_,
      (hfields field hfield).depth_le⟩⟩
    refine List.eq_nil_iff_forall_not_mem.2 fun d hd => ?_
    have hfloat : d ∈ (mapping fields).floats := mem_fieldsFloats.2 ⟨field, hfield, hd⟩
    rw [h.floatFree] at hfloat
    cases hfloat
  · rintro ⟨hsorted, h⟩
    have hread := readable_mapping.2 ⟨hsorted, fun field hfield => (h field hfield).readable⟩
    refine ⟨hread.wellFormed, List.eq_nil_iff_forall_not_mem.2 fun d hd => ?_, hread.depth_le⟩
    obtain ⟨field, hfield, hd⟩ := mem_fieldsFloats.1 hd
    rw [(h field hfield).floatFree] at hd
    cases hd

theorem Plain.ofJson_toJson {v : Value} (h : v.Plain Json.maxDepth) : ofJson v.toJson = .ok v := by
  have hparse : Json.parse? (Json.valueText v) = some v := by
    rw [Json.parse?_valueText h.readable, withoutFloats_eq v h.floatFree]
  rw [ofJson, toJson, Text.decode?_encode, Option.bind_some, toJsonString, String.toList_ofList,
    hparse]

end Value

end DeviceHub
