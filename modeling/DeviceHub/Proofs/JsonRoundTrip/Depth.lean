import DeviceHub.Proofs.JsonRoundTrip

/-!
How deep a value may nest to come back through `to_json_vec` and `from_json_slice`.  One that nests
deeper than the parser goes is refused as a whole, however shallow the rest of it is; any other is
read back, but for floats that are no numbers.
-/
namespace DeviceHub

namespace Value

/-- A value whose text is well written, however deep it nests. -/
structure Printable (v : Value) : Prop where
  wellFormed : v.WellFormed
  floats : ∀ d ∈ v.floats, d.isFinite = false

lemma Printable.readable {depth : Nat} {v : Value} (h : v.Printable) (hle : v.depth ≤ depth) :
    v.Readable depth :=
  ⟨h.wellFormed, h.floats, hle⟩

lemma Readable.printable {depth : Nat} {v : Value} (h : v.Readable depth) : v.Printable :=
  ⟨h.wellFormed, h.floats⟩

lemma printable_sequence {items : List Value} :
    (sequence items).Printable ↔ ∀ item ∈ items, item.Printable := by
  constructor
  · intro h item hitem
    exact (readable_sequence.1 (h.readable (Nat.le_refl _)) item hitem).printable
  · intro h
    have hread : (sequence items).Readable (itemsDepth items + 1) := readable_sequence.2
      fun item hitem => (h item hitem).readable (itemsDepth_le.1 (Nat.le_refl _) item hitem)
    exact hread.printable

lemma printable_mapping {fields : Mapping} :
    (mapping fields).Printable ↔ fields.Sorted ∧ ∀ field ∈ fields, field.2.Printable := by
  constructor
  · intro h
    obtain ⟨hsorted, hfields⟩ := readable_mapping.1 (h.readable (Nat.le_refl _))
    exact ⟨hsorted, fun field hfield => (hfields field hfield).printable⟩
  · rintro ⟨hsorted, h⟩
    have hread : (mapping fields).Readable (fieldsDepth fields + 1) := readable_mapping.2
      ⟨hsorted, fun field hfield =>
        (h field hfield).readable (fieldsDepth_le.1 (Nat.le_refl _) field hfield)⟩
    exact hread.printable

end Value

namespace Json

open Value

mutual

/-- A value that nests too deep is not read, whatever follows it in its container. -/
theorem parseValue_of_deep : ∀ (v : Value) {depth fuel : Nat} (rest : List Char),
    v.Printable → depth < v.depth → (valueText v).length ≤ fuel →
      parseValue depth fuel (valueText v ++ rest) = none
  | v, _, 0, _, _, _, _ => rfl
  | .null, _, _ + 1, _, _, hdeep, _ | .bool _, _, _ + 1, _, _, hdeep, _
  | .int _, _, _ + 1, _, _, hdeep, _ | .float _, _, _ + 1, _, _, hdeep, _
  | .string _, _, _ + 1, _, _, hdeep, _ => absurd hdeep (Nat.not_lt_zero _)
  | .sequence [], 0, fuel + 1, rest, _, _, _ => rfl
  | .sequence [], depth + 1, _, _, _, hdeep, _ => by simp [Value.depth, itemsDepth] at hdeep
  | .sequence (item :: items), 0, fuel + 1, rest, _, _, _ => by
    simp [valueText, parseValue, skipBlanks]
  | .sequence (item :: items), depth + 1, fuel + 1, rest, h, hdeep, hfuel => by
    have hitems := printable_sequence.1 h
    have htext : valueText (.sequence (item :: items)) ++ rest =
        '[' :: (valueText item ++ (itemsText items ++ ']' :: rest)) := by
      simp [valueText]
    have hlength : (valueText item ++ itemsText items).length < fuel := by
      simp only [valueText, List.length_append, List.length_cons, List.length_nil] at hfuel ⊢
      omega
    have hdeeper : depth < itemsDepth (item :: items) := Nat.lt_of_succ_lt_succ hdeep
    rw [htext, parseValue_of_items (hitems item List.mem_cons_self).floats,
      parseItems_of_deep item items rest hitems hdeeper hlength]
    rfl
  | .mapping [], 0, fuel + 1, rest, _, _, _ => rfl
  | .mapping [], depth + 1, _, _, _, hdeep, _ => by simp [Value.depth, fieldsDepth] at hdeep
  | .mapping ((key, value) :: fields), 0, fuel + 1, rest, _, _, _ => by
    simp [valueText, parseValue, skipBlanks]
  | .mapping ((key, value) :: fields), depth + 1, fuel + 1, rest, h, hdeep, hfuel => by
    obtain ⟨-, hfields⟩ := printable_mapping.1 h
    have htext : valueText (.mapping ((key, value) :: fields)) ++ rest =
        '\x7b' :: (stringText key ++
          ':' :: (valueText value ++ (fieldsText fields ++ '\x7d' :: rest))) := by
      simp [valueText]
    have hlength : (valueText value ++ fieldsText fields).length < fuel := by
      simp only [valueText, List.length_append, List.length_cons, List.length_nil] at hfuel ⊢
      omega
    have hdeeper : depth < fieldsDepth ((key, value) :: fields) := Nat.lt_of_succ_lt_succ hdeep
    rw [htext, parseValue_of_fields,
      parseFields_of_deep key value fields [] rest hfields hdeeper hlength]
    rfl

/-- Nor are items of which one nests too deep: those before it are read, and it is not. -/
theorem parseItems_of_deep : ∀ (item : Value) (items : List Value) {depth fuel : Nat}
    (rest : List Char), (∀ v ∈ item :: items, v.Printable) → depth < itemsDepth (item :: items) →
      (valueText item ++ itemsText items).length < fuel →
      parseItems depth fuel (valueText item ++ (itemsText items ++ ']' :: rest)) = none
  | item, items, depth, fuel + 1, rest, h, hdeep, hfuel => by
    rw [List.length_append] at hfuel
    have hitem := h item List.mem_cons_self
    by_cases hhere : depth < item.depth
    · rw [parseItems, parseValue_of_deep item _ hitem hhere (by omega), Option.bind_none]
    · have hread : parseValue depth fuel _ = _ := parseValue_valueText item
        (hitem.readable (Nat.not_lt.1 hhere)) (by omega) (follows_itemsText items rest)
      rw [parseItems, hread, Option.bind_some]
      have hmax : depth < max item.depth (itemsDepth items) := hdeep
      have hthere : depth < itemsDepth items := by omega
      match items with
      | [] => exact absurd hthere (Nat.not_lt_zero _)
      | next :: items =>
        have hlength : (valueText next ++ itemsText items).length < fuel := by
          simp only [itemsText, List.length_append, List.length_cons] at hfuel ⊢
          omega
        have hrest := parseItems_of_deep next items rest
          (fun v hv => h v (List.mem_cons_of_mem _ hv)) hthere hlength
        simp [itemsText, skipBlanks, hrest]

theorem parseFields_of_deep : ∀ (key : String) (value : Value) (fields : Mapping)
    {depth fuel : Nat} (read : Mapping) (rest : List Char),
    (∀ field ∈ (key, value) :: fields, field.2.Printable) →
      depth < fieldsDepth ((key, value) :: fields) →
      (valueText value ++ fieldsText fields).length < fuel →
      parseFields depth fuel read
        (stringText key ++ ':' :: (valueText value ++ (fieldsText fields ++ '\x7d' :: rest))) = none
  | key, value, fields, depth, fuel + 1, read, rest, h, hdeep, hfuel => by
    rw [List.length_append] at hfuel
    have hvalue : value.Printable := h _ List.mem_cons_self
    by_cases hhere : depth < value.depth
    · rw [parseFields_stringText, parseValue_of_deep value _ hvalue hhere (by omega),
        Option.bind_none]
    · have hread : parseValue depth fuel _ = _ := parseValue_valueText value
        (hvalue.readable (Nat.not_lt.1 hhere)) (by omega) (follows_fieldsText fields rest)
      rw [parseFields_of_value hread]
      have hmax : depth < max value.depth (fieldsDepth fields) := hdeep
      have hthere : depth < fieldsDepth fields := by omega
      match fields with
      | [] => exact absurd hthere (Nat.not_lt_zero _)
      | (next, nextValue) :: fields =>
        have hlength : (valueText nextValue ++ fieldsText fields).length < fuel := by
          simp only [fieldsText, List.length_append, List.length_cons] at hfuel ⊢
          omega
        have hrest := parseFields_of_deep next nextValue fields
          (read.insert key value.withoutFloats) rest
          (fun field hfield => h field (List.mem_cons_of_mem _ hfield)) hthere hlength
        simpa [fieldsText, skipBlanks] using hrest

end

theorem parse?_of_deep {v : Value} (h : v.Printable) (hdeep : maxDepth < v.depth) :
    parse? (valueText v) = none := by
  have hnone := parseValue_of_deep v [] h hdeep (Nat.le_succ (valueText v).length)
  rw [List.append_nil] at hnone
  rw [parse?, hnone]

end Json

namespace Value

/-- A value whose mappings are in order and whose floats are all infinite or no numbers comes back
from its document with null in place of each float, and all else as it was, exactly when its
containers nest 127 deep at most; any other is refused as no document. -/
theorem ofJson_toJson_of_nonfinite {v : Value} (formed : v.WellFormed)
    (floats : ∀ d ∈ v.floats, d.isFinite = false) :
    ofJson v.toJson =
      if v.depth ≤ 127 then .ok v.withoutFloats else .error (.decode Json.malformed) := by
  have h : v.Printable := ⟨formed, floats⟩
  rw [ofJson, toJson, Text.decode?_encode, Option.bind_some, toJsonString, String.toList_ofList]
  by_cases hle : v.depth ≤ 127
  · rw [if_pos hle, Json.parse?_valueText (h.readable hle)]
  · rw [if_neg hle, Json.parse?_of_deep h (Nat.lt_of_not_le hle)]

/-- The least integer, both infinities, what is no number, and texts with controls and characters
of several bytes. -/
def awkward : Value :=
  .mapping [("", .sequence [.int (-9223372036854775808), .float ⟨0x7FF0000000000000⟩]),
    ("\x00\"", .string "\x1F\\é𝄞"),
    ("é", .mapping [("b", .float ⟨0xFFF0000000000000⟩), ("n", .float ⟨0x7FF8000000000000⟩)])]

theorem ofJson_toJson_of_awkward :
    ofJson awkward.toJson = .ok (.mapping [("", .sequence [.int (-9223372036854775808), .null]),
      ("\x00\"", .string "\x1F\\é𝄞"), ("é", .mapping [("b", .null), ("n", .null)])]) := by
  have formed : awkward.WellFormed := by
    refine ⟨?_, ?_⟩
    · rw [KeyMap.Sorted]
      decide
    · simp only [WellFormed, ItemsWellFormed, FieldsWellFormed, KeyMap.Sorted, true_and, and_true]
      decide
  have floats : ∀ d ∈ awkward.floats, d.isFinite = false := by decide
  exact ofJson_toJson_of_nonfinite formed floats

end Value
end DeviceHub
