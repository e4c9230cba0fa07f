import DeviceHub.Proofs.ConnectionText
import DeviceHub.Proofs.QueryText
import Mathlib.Data.List.TakeWhile

/-!
Connection strings as they may be written: the segments of the fields in any order, some overridden
by later ones, some pieces empty, and blanks around everything.  However its fields are written, the
credentials are read back.
-/
namespace DeviceHub

namespace Text

abbrev Blanks := { chars : List Char // chars.all isBlank = true }

/-- No blank stands at either end. -/
structure Bare (chars : List Char) : Prop where
  head : ∀ c ∈ chars.head?, isBlank c = false
  last : ∀ c ∈ chars.getLast?, isBlank c = false

lemma bare_iff {chars : List Char} :
    (chars.head?.all (!isBlank ·) && chars.getLast?.all (!isBlank ·)) = true ↔ Bare chars := by
  simp only [Bool.and_eq_true, Option.all_eq_true, Bool.not_eq_true']
  exact ⟨fun ⟨head, last⟩ => ⟨head, last⟩, fun h => ⟨h.head, h.last⟩⟩

instance (chars : List Char) : Decidable (Bare chars) := decidable_of_iff _ bare_iff

namespace Blanks

def none : Blanks := ⟨[], rfl⟩

def append (a b : Blanks) : Blanks :=
  ⟨a.1 ++ b.1, by rw [List.all_append, a.2, b.2]; rfl⟩

def reverse (blanks : Blanks) : Blanks :=
  ⟨blanks.1.reverse, List.all_reverse.trans blanks.2⟩

lemma chars_reverse (blanks : Blanks) : blanks.reverse.1 = blanks.1.reverse :=
  rfl

lemma isBlank_of_mem (blanks : Blanks) : ∀ c ∈ blanks.1, isBlank c = true :=
  List.all_eq_true.1 blanks.2

lemma not_mem {c : Char} (hc : isBlank c = false) (blanks : Blanks) : c ∉ blanks.1 := by
  intro hmem
  rw [blanks.isBlank_of_mem c hmem] at hc
  cases hc

lemma trimChars (blanks : Blanks) : trimChars blanks.1 = [] := by
  rw [Text.trimChars, List.dropWhile_eq_nil_iff.2 blanks.isBlank_of_mem]
  rfl

end Blanks

lemma dropWhile_isBlank (before : Blanks) {chars : List Char}
    (h : ∀ c ∈ chars.head?, isBlank c = false) :
    (before.1 ++ chars).dropWhile isBlank = chars := by
  rw [List.dropWhile_append_of_pos before.isBlank_of_mem]
  cases chars with
  | nil => rfl
  | cons c rest => exact List.dropWhile_cons_of_neg (by simp [h c rfl])

/-- Trimming leaves what stands between blanks. -/
lemma trimChars_padded (before after : Blanks) {chars : List Char} (h : Bare chars) :
    trimChars (before.1 ++ chars ++ after.1) = chars := by
  cases hchars : chars with
  | nil =>
    rw [List.append_nil]
    exact (before.append after).trimChars
  | cons c rest =>
    have hhead : ∀ d ∈ (chars ++ after.1).head?, isBlank d = false := by
      have hhead := h.head
      rwa [hchars] at hhead ⊢
    have hlast : ∀ d ∈ chars.reverse.head?, isBlank d = false := by
      rw [List.head?_reverse]
      exact h.last
    rw [← hchars, trimChars, List.append_assoc, dropWhile_isBlank before hhead,
      List.reverse_append, ← after.chars_reverse, dropWhile_isBlank after.reverse hlast,
      List.reverse_reverse]

/-- What begins and ends with texts without blanks at their ends. -/
lemma Bare.enclose {front back : List Char} (hfront : Bare front) (hback : Bare back)
    (hne : front ≠ []) (hne' : back ≠ []) (middle : List Char) :
    Bare (front ++ middle ++ back) where
  head := by
    rw [List.append_assoc, List.head?_append_of_ne_nil _ hne]
    exact hfront.head
  last := by
    rw [List.getLast?_append_of_ne_nil _ hne']
    exact hback.last

end Text

namespace SharedAccess

open Text (Blanks Bare)

lemma isBlank_signs : Text.isBlank ';' = false ∧ Text.isBlank '=' = false := by
  decide

structure Segment where
  before : Blanks
  slot : Slot
  afterName : Blanks
  beforeValue : Blanks
  value : String
  after : Blanks
  no_semicolon : ';' ∉ value.toList
  value_bare : Bare value.toList

/-- What can stand between two semicolons. -/
inductive Piece where
  | empty (blanks : Blanks)
  | segment (s : Segment)

namespace Segment

def chars (s : Segment) : List Char :=
  s.before.1 ++ s.slot.name.toList ++ s.afterName.1 ++
    '=' :: (s.beforeValue.1 ++ s.value.toList ++ s.after.1)

def entry (s : Segment) : Entry :=
  ⟨s.slot, s.value⟩

end Segment

def Piece.chars : Piece → List Char
  | empty blanks => blanks.1
  | segment s => s.chars

def Piece.entry? : Piece → Option Entry
  | empty _ => none
  | segment s => some s.entry

def written (pieces : List Piece) : String :=
  String.ofList (Text.joinWith [';'] (pieces.map Piece.chars))

/-! ### Segments -/

/-- The name of a field begins and ends with a letter, and no separator is in it. -/
lemma Slot.name_plain (slot : Slot) :
    ';' ∉ slot.name.toList ∧ '=' ∉ slot.name.toList ∧ Bare slot.name.toList ∧
      ∃ c rest, slot.name.toList = c :: rest := by
  cases slot <;> exact ⟨by decide, by decide, by decide, _, _, rfl⟩

lemma Piece.no_semicolon (p : Piece) : ';' ∉ p.chars := by
  obtain ⟨hsemicolon, -⟩ := isBlank_signs
  cases p with
  | empty blanks => exact blanks.not_mem hsemicolon
  | segment s =>
    simp [chars, Segment.chars, s.slot.name_plain.1, s.no_semicolon,
      Text.Blanks.not_mem hsemicolon]

namespace Segment

/-- Without the blanks at its ends, a segment is its name, the sign, and what is trimmed to the
value. -/
lemma exists_trimChars (s : Segment) :
    ∃ tail, Text.trimChars s.chars = s.slot.name.toList ++ s.afterName.1 ++ '=' :: tail ∧
      Text.trimChars tail = s.value.toList := by
  obtain ⟨-, -, hname, c, rest, hcons⟩ := s.slot.name_plain
  have hne : s.slot.name.toList ≠ [] := hcons ▸ List.cons_ne_nil c rest
  by_cases hvalue : s.value.toList = []
  · -- the blanks before the value stand at the end of the segment then
    have hsign : Bare ['='] := by decide
    have htrim := Text.trimChars_padded s.before (s.beforeValue.append s.after)
      (hname.enclose hsign hne (List.cons_ne_nil _ _) s.afterName.1)
    refine ⟨[], ?_, by rw [hvalue]; rfl⟩
    rw [← htrim, chars, hvalue, Blanks.append]
    simp only [List.append_assoc, List.nil_append, List.cons_append]
  · have htrim := Text.trimChars_padded s.before s.after
      (hname.enclose s.value_bare hne hvalue (s.afterName.1 ++ '=' :: s.beforeValue.1))
    refine ⟨s.beforeValue.1 ++ s.value.toList, ?_, ?_⟩
    · simp only [chars, List.append_assoc, List.cons_append] at htrim ⊢
      exact htrim
    · rw [← List.append_nil (s.beforeValue.1 ++ s.value.toList)]
      exact Text.trimChars_padded s.beforeValue .none s.value_bare

lemma gives (s : Segment) : Gives (Text.trim (String.ofList s.chars)) s.entry := by
  obtain ⟨tail, htrim, hvalue⟩ := s.exists_trimChars
  obtain ⟨-, hsign, hbare, -⟩ := s.slot.name_plain
  have hbefore : ∀ c ∈ s.slot.name.toList ++ s.afterName.1, (c == '=') = false := by
    intro c hc
    rw [beq_eq_false_iff_ne]
    rintro rfl
    exact (List.mem_append.1 hc).elim hsign (s.afterName.not_mem isBlank_signs.2)
  have hcut : Text.cutOnce? '=' (Text.trim (String.ofList s.chars)) =
      some (String.ofList (s.slot.name.toList ++ s.afterName.1), String.ofList tail) := by
    rw [Text.trim, String.toList_ofList, htrim, Text.cutOnce?, String.toList_ofList,
      Text.cutAt?_append hbefore (beq_self_eq_true '=')]
    rfl
  have hname : Text.trim (String.ofList (s.slot.name.toList ++ s.afterName.1)) = s.slot.name := by
    have hpadded : Text.trimChars (s.slot.name.toList ++ s.afterName.1) = s.slot.name.toList :=
      Text.trimChars_padded .none s.afterName hbare
    rw [Text.trim, String.toList_ofList, hpadded, String.ofList_toList]
  have hentry : s.entry = ⟨s.slot, Text.trim (String.ofList tail)⟩ := by
    rw [entry, Text.trim, String.toList_ofList, hvalue, String.ofList_toList]
  rw [hentry]
  exact .field s.slot hcut hname

lemma trim_ne (s : Segment) : Text.trim (String.ofList s.chars) ≠ "" := by
  obtain ⟨tail, htrim, -⟩ := s.exists_trimChars
  intro h
  rw [Text.trim, String.toList_ofList, htrim] at h
  simpa using congrArg String.toList h

end Segment

lemma Piece.trim_empty (blanks : Blanks) : Text.trim (String.ofList (empty blanks).chars) = "" := by
  rw [Text.trim, String.toList_ofList, chars, blanks.trimChars]

/-- The segments of what was written are the pieces that are not empty. -/
lemma segments_written (pieces : List Piece) :
    segments (written pieces) =
      (pieces.map fun p => Text.trim (String.ofList p.chars)).filter (· ≠ "") := by
  cases pieces with
  | nil => rfl
  | cons p pieces =>
    have hsplit : Text.splitBy (· == ';') (Text.joinWith [';'] ((p :: pieces).map Piece.chars)) =
        (p :: pieces).map Piece.chars := by
      refine Text.splitBy_joinWith (List.cons_ne_nil _ _) fun chars hchars c hc => ?_
      obtain ⟨q, -, rfl⟩ := List.mem_map.1 hchars
      rw [beq_eq_false_iff_ne]
      rintro rfl
      exact q.no_semicolon hc
    rw [segments, written, Text.splitOnChar, String.toList_ofList, hsplit, List.map_map,
      List.map_map]
    rfl

lemma forall₂_gives (pieces : List Piece) :
    List.Forall₂ Gives (segments (written pieces)) (pieces.filterMap Piece.entry?) := by
  rw [segments_written]
  induction pieces with
  | nil => exact .nil
  | cons p pieces ih =>
    rw [List.map_cons]
    cases p with
    | empty blanks =>
      rw [List.filter_cons_of_neg (by rw [Piece.trim_empty]; decide),
        List.filterMap_cons_none (by rfl)]
      exact ih
    | segment s =>
      rw [List.filter_cons_of_pos (by exact decide_eq_true s.trim_ne),
        List.filterMap_cons_some (b := s.entry) (by rfl)]
      exact .cons s.gives ih

/-- Credentials are read back from every connection string in which the last segment of each of
their fields, and of no other, has the value of the field. -/
theorem parse_written {c : SharedAccess} (complete : c.IsComplete) {pieces : List Piece}
    (fields : ∀ slot, lastValue (pieces.filterMap Piece.entry?) slot = c.get slot) :
    parse (written pieces) = .ok c :=
  parse_eq_ok_iff.2 ⟨_, forall₂_gives pieces, fields, complete⟩

/-- A host that is overridden, an empty piece, blanks on all sides, and signs in the values. -/
def scattered : List Piece :=
  [.segment ⟨⟨['\t'], by decide⟩, .hostname, .none, ⟨[' '], by decide⟩, "a=b", .none,
      by decide, by decide⟩,
    .segment ⟨.none, .key, ⟨['\u3000'], by decide⟩, .none, "YQ==", .none, by decide, by decide⟩,
    .empty ⟨[' ', '\n'], by decide⟩,
    .segment ⟨.none, .audience, .none, ⟨[' '], by decide⟩, "", ⟨['\r'], by decide⟩,
      by decide, by decide⟩,
    .segment ⟨.none, .hostname, .none, .none, "h", ⟨[' '], by decide⟩, by decide, by decide⟩,
    .segment ⟨⟨[' '], by decide⟩, .keyName, .none, .none, "key = x", .none, by decide, by decide⟩]

theorem parse_written_of_scattered :
    IsComplete ⟨"h", none, some "key = x", "YQ==", some "", none⟩ ∧
    (∀ slot, lastValue (scattered.filterMap Piece.entry?) slot =
      get ⟨"h", none, some "key = x", "YQ==", some "", none⟩ slot) ∧
    parse (written scattered) = .ok ⟨"h", none, some "key = x", "YQ==", some "", none⟩ := by
  have hcomplete : IsComplete ⟨"h", none, some "key = x", "YQ==", some "", none⟩ :=
    ⟨by decide, by decide, by decide, .inr rfl⟩
  have hfields : ∀ slot, lastValue (scattered.filterMap Piece.entry?) slot =
      get ⟨"h", none, some "key = x", "YQ==", some "", none⟩ slot := by
    intro slot
    cases slot <;> rfl
  exact ⟨hcomplete, hfields, parse_written hcomplete hfields⟩

end SharedAccess
end DeviceHub
