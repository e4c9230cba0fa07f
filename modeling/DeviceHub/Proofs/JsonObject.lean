import DeviceHub.Proofs.JsonContext
import DeviceHub.Proofs.SortedMap

/-!
Objects of JSON text, written field by field with any blanks and any spelling of the keys.  What is
read is the map of the fields, of which later ones stand over earlier ones of the same name; the
keys of every object that is read ascend.
-/
namespace DeviceHub.Json

/-- A field as it is written: its key as it is spelled between the quotes, and the text of its value
with the blanks around it; and what both are read as. -/
structure FieldText where
  before : List Char
  key : List Char
  between : List Char
  value : List Char
  name : String
  content : Value
  blanks_before : Blanks before
  blanks_between : Blanks between
  key_read : parseStringTail (key ++ ['"']) = some (name.toList, [])
  value_read : parse? value = some content

namespace FieldText

def chars (f : FieldText) : List Char :=
  f.before ++ '"' :: (f.key ++ '"' :: (f.between ++ ':' :: f.value))

def entry (f : FieldText) : String × Value :=
  (f.name, f.content)

end FieldText

def objectChars (fields : List FieldText) : List Char :=
  '\x7b' :: (Text.joinWith [','] (fields.map FieldText.chars) ++ ['\x7d'])

variable {chars rest more : List Char} {depth fuel : Nat} {read out : Mapping}

/-- What a text is read as on its own it is read as inside of an object, up to blanks. -/
lemma parseValue_of_parse? {v w : Value} (h : parse? chars = some v) (hmore : Follows more)
    (hread : parseValue depth fuel (chars ++ more) = some (w, rest)) :
    w = v ∧ ∃ blanks, Blanks blanks ∧ rest = blanks ++ more := by
  rw [parse?] at h
  split at h
  next value blanks halone =>
    split at h
    next hblanks =>
      cases h
      have hnothing : NumberEnds [] := fun c hc => by cases hc
      have hboth := (settles _).value halone hmore.numberEnds (Nat.le_max_left maxDepth depth)
        (Nat.le_max_left (chars.length + 1) fuel)
      have hsame := (settles _).value hread hnothing (Nat.le_max_right maxDepth depth)
        (Nat.le_max_right (chars.length + 1) fuel)
      rw [List.append_nil, List.append_nil, hboth] at hsame
      cases hsame
      exact ⟨rfl, blanks, List.isEmpty_iff.1 hblanks, rfl⟩
    next => cases h
  next => cases h

/-- One field is read; a comma leads to the next one, a brace ends the object. -/
lemma parseFields_field (f : FieldText) {c : Char} (hc : c = ',' ∨ c = '\x7d')
    (h : parseFields depth (fuel + 1) read (f.chars ++ c :: more) = some (out, rest)) :
    c = ',' ∧ parseFields depth fuel (read.insert f.name f.content) more = some (out, rest) ∨
      c = '\x7d' ∧ out = read.insert f.name f.content ∧ rest = more := by
  have hfollows : Follows (c :: more) := by
    rintro _ ⟨⟩
    exact hc.imp_right .inr
  have hchars : f.chars ++ c :: more =
      f.before ++ '"' :: (f.key ++ ['"'] ++ (f.between ++ ':' :: (f.value ++ c :: more))) := by
    simp [FieldText.chars]
  have hquote (tail : List Char) : skipBlanks ('"' :: tail) = '"' :: tail := rfl
  have hcolon (tail : List Char) : skipBlanks (':' :: tail) = ':' :: tail := rfl
  rw [hchars, parseFields, f.blanks_before.skip, hquote] at h
  simp only [parseStringTail_append f.key_read, Option.bind_some, List.nil_append,
    f.blanks_between.skip, hcolon, String.ofList_toList] at h
  obtain ⟨⟨value, after⟩, hvalue, h⟩ := Option.bind_eq_some_iff.1 h
  obtain ⟨rfl, blanks, hblanks, rfl⟩ := parseValue_of_parse? f.value_read hfollows hvalue
  simp only [hblanks.skip] at h
  obtain rfl | rfl := hc
  · exact .inl ⟨rfl, h⟩
  · cases h
    exact .inr ⟨rfl, rfl, rfl⟩

theorem parseFields_objectChars (f : FieldText) (fields : List FieldText)
    (h : parseFields depth fuel read
      (Text.joinWith [','] ((f :: fields).map FieldText.chars) ++ '\x7d' :: more) =
        some (out, rest)) :
    out = KeyMap.insertAll ((f :: fields).map FieldText.entry) read ∧ rest = more := by
  induction fields generalizing f fuel read with
  | nil =>
    cases fuel with
    | zero => cases h
    | succ fuel =>
      obtain ⟨hc, -⟩ | ⟨-, hread⟩ := parseFields_field f (.inr rfl) h
      · cases hc
      · exact hread
  | cons next fields ih =>
    cases fuel with
    | zero => cases h
    | succ fuel =>
      have hjoin :
          Text.joinWith [','] ((f :: next :: fields).map FieldText.chars) ++ '\x7d' :: more =
          f.chars ++ ',' ::
            (Text.joinWith [','] ((next :: fields).map FieldText.chars) ++ '\x7d' :: more) := by
        simp [Text.joinWith]
      rw [hjoin] at h
      obtain ⟨-, hread⟩ | ⟨hc, -⟩ := parseFields_field f (.inl rfl) h
      · exact ih next hread
      · cases hc

lemma parseFields_skipBlanks (depth fuel : Nat) (read : Mapping) (chars : List Char) :
    parseFields depth fuel read (skipBlanks chars) = parseFields depth fuel read chars := by
  cases fuel with
  | zero => rfl
  | succ fuel => rw [parseFields, parseFields, skipBlanks_skipBlanks]

/-- After blanks the first field begins with a quote. -/
lemma exists_skipBlanks_fields (f : FieldText) (fields : List FieldText) (more : List Char) :
    ∃ tail, skipBlanks (Text.joinWith [','] ((f :: fields).map FieldText.chars) ++ more) =
      '"' :: tail := by
  cases fields with
  | nil =>
    simp only [List.map_cons, List.map_nil, Text.joinWith, FieldText.chars, List.append_assoc]
    exact ⟨_, f.blanks_before.skip _⟩
  | cons next fields =>
    simp only [List.map_cons, Text.joinWith, FieldText.chars, List.append_assoc]
    exact ⟨_, f.blanks_before.skip _⟩

theorem parse?_objectChars {fields : List FieldText} {lead trail : List Char} {v : Value}
    (hlead : Blanks lead) (h : parse? (lead ++ (objectChars fields ++ trail)) = some v) :
    v = .mapping (KeyMap.ofList (fields.map FieldText.entry)) := by
  rw [parse?] at h
  split at h
  next value rest hvalue =>
    split at h
    next =>
      cases h
      have hbrace (tail : List Char) : skipBlanks ('\x7b' :: tail) = '\x7b' :: tail := rfl
      rw [← parseValue_skipBlanks, hlead.skip, objectChars, List.cons_append, hbrace, parseValue,
        hbrace] at hvalue
      cases fields with
      | nil =>
        cases hvalue
        rfl
      | cons f fields =>
        rw [List.append_assoc] at hvalue
        obtain ⟨tail, htail⟩ := exists_skipBlanks_fields f fields (['\x7d'] ++ trail)
        simp only [htail] at hvalue
        obtain ⟨⟨out, after⟩, hfields, heq⟩ := Option.map_eq_some_iff.1 hvalue
        cases heq
        rw [← htail, parseFields_skipBlanks] at hfields
        rw [(parseFields_objectChars f fields hfields).1]
        rfl
    next => cases h
  next => cases h

/-! ### The keys of what is read -/

lemma parseFields_sorted (hread : read.Sorted)
    (h : parseFields depth fuel read chars = some (out, rest)) : out.Sorted := by
  induction fuel generalizing read chars with
  | zero => cases h
  | succ fuel ih =>
    rw [parseFields] at h
    split at h
    next =>
      obtain ⟨⟨key, after⟩, -, h⟩ := Option.bind_eq_some_iff.1 h
      dsimp only at h
      split at h
      next =>
        obtain ⟨⟨value, after⟩, -, h⟩ := Option.bind_eq_some_iff.1 h
        have hinsert := hread.insert (String.ofList key) value
        dsimp only at h
        split at h
        next =>
          cases h
          exact hinsert
        next => exact ih hinsert h
        next => cases h
      next => cases h
    next => cases h

lemma value?_ne_mapping (n : NumberText) (fields : Mapping) :
    n.value? ≠ some (.mapping fields) := by
  have hfloat : n.toDouble?.map Value.float ≠ some (.mapping fields) := by
    intro h
    obtain ⟨_, _, heq⟩ := Option.map_eq_some_iff.1 h
    cases heq
  obtain ⟨negative, whole, fraction, exponent⟩ := n
  cases fraction with
  | some fraction => exact hfloat
  | none =>
    cases exponent with
    | some exponent => exact hfloat
    | none =>
      dsimp only [NumberText.value?]
      generalize (if negative = true then -(digitsValue whole : Int) else digitsValue whole) = i
      split
      next => simp
      next =>
        split
        next => simp
        next => exact hfloat

lemma parseNumber_ne_mapping {fields : Mapping} :
    parseNumber chars ≠ some (.mapping fields, rest) := by
  have hsigned (negative : Bool) (chars : List Char) :
      numberAfterSign negative chars ≠ some (.mapping fields, rest) := by
    intro h
    obtain ⟨whole, -, h⟩ := Option.bind_eq_some_iff.1 h
    obtain ⟨fraction, -, h⟩ := Option.bind_eq_some_iff.1 h
    obtain ⟨exponent, -, h⟩ := Option.bind_eq_some_iff.1 h
    obtain ⟨value, hvalue, h⟩ := Option.bind_eq_some_iff.1 h
    cases h
    exact value?_ne_mapping _ fields hvalue
  by_cases hminus : ∃ tail, chars = '-' :: tail
  · obtain ⟨tail, rfl⟩ := hminus
    exact hsigned true tail
  · rw [parseNumber_of_ne fun tail heq => hminus ⟨tail, heq⟩]
    exact hsigned false chars

/-- Every object that is read has its keys in ascending order. -/
theorem parseValue_sorted {fields : Mapping}
    (h : parseValue depth fuel chars = some (.mapping fields, rest)) : fields.Sorted := by
  cases fuel with
  | zero => cases h
  | succ fuel =>
    rw [parseValue] at h
    split at h
    iterate 3 cases h
    next =>
      obtain ⟨⟨cs, after⟩, -, heq⟩ := Option.map_eq_some_iff.1 h
      cases heq
    next =>
      split at h
      next => cases h
      next =>
        split at h
        next => cases h
        next =>
          obtain ⟨⟨items, after⟩, -, heq⟩ := Option.map_eq_some_iff.1 h
          cases heq
    next =>
      split at h
      next => cases h
      next =>
        split at h
        next =>
          cases h
          exact KeyMap.sorted_nil
        next =>
          obtain ⟨⟨out, after⟩, hfields, heq⟩ := Option.map_eq_some_iff.1 h
          cases heq
          exact parseFields_sorted KeyMap.sorted_nil hfields
    next => exact absurd h parseNumber_ne_mapping

theorem sorted_of_parse? {fields : Mapping} (h : parse? chars = some (.mapping fields)) :
    fields.Sorted := by
  rw [parse?] at h
  split at h
  next value blanks hvalue =>
    split at h
    next =>
      cases h
      exact parseValue_sorted hvalue
    next => cases h
  next => cases h

end DeviceHub.Json
