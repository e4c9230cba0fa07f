import DeviceHub.Topic.Properties
import Mathlib.Data.List.Basic

/-!
Queries, as `encode_properties` writes and `parse_query` reads them.  Percent-encoding leaves no
separator in a text and is undone by reading, so a query that was put together from encoded pairs is
read as the map of these pairs, whatever their keys and values are.
-/
namespace DeviceHub

namespace Text

/-! ### Percent-encoding -/

lemma encode_ofList (chars : List Char) :
    encode (String.ofList chars) = chars.flatMap String.utf8EncodeChar := by
  rw [encode, String.toList_ofList]

lemma percentDecodeBytes_cons_of_ne {byte : UInt8} (h : byte.toNat ≠ 0x25) (rest : Bytes) :
    percentDecodeBytes (byte :: rest) = byte :: percentDecodeBytes rest := by
  rw [percentDecodeBytes.eq_def]
  simp only [h, if_false]

lemma percentDecodeBytes_escape {high low : UInt8} {h l : Nat} (hh : hexValue? high.toNat = some h)
    (hl : hexValue? low.toNat = some l) (rest : Bytes) :
    percentDecodeBytes (0x25 :: high :: low :: rest) =
      UInt8.ofNat (h * 16 + l) :: percentDecodeBytes rest := by
  rw [percentDecodeBytes.eq_def]
  simp [hh, hl]

/-- Bytes as they are written in a query: percent signs and ampersands as two hex digits after a
percent sign, in either case; every other character so, byte by byte, or as itself. -/
inductive PercentEncodes : Bytes → List Char → Prop
  | nil : PercentEncodes [] []
  | plain {c : Char} {bytes : Bytes} {chars : List Char} (percent : c ≠ '%') (ampersand : c ≠ '&')
      (rest : PercentEncodes bytes chars) :
      PercentEncodes (String.utf8EncodeChar c ++ bytes) (c :: chars)
  | escape {high low : Char} {h l : Nat} {bytes : Bytes} {chars : List Char}
      (first : hexValue? high.toNat = some h) (second : hexValue? low.toNat = some l)
      (rest : PercentEncodes bytes chars) :
      PercentEncodes (UInt8.ofNat (h * 16 + l) :: bytes) ('%' :: high :: low :: chars)

lemma hexValue?_lt {code h : Nat} (hh : hexValue? code = some h) : code < 0x80 := by
  unfold hexValue? at hh
  split at hh
  next => omega
  next =>
    split at hh
    next => omega
    next =>
      split at hh
      next => omega
      next => cases hh

lemma utf8EncodeChar_of_lt {c : Char} (h : c.toNat < 0x80) :
    String.utf8EncodeChar c = [UInt8.ofNat c.toNat] := by
  have hle : c.val.toNat ≤ 127 := Nat.le_of_lt_succ h
  rw [String.utf8EncodeChar]
  exact if_pos hle

lemma toNat_ofNat_of_lt {c : Char} (h : c.toNat < 0x80) : (UInt8.ofNat c.toNat).toNat = c.toNat :=
  UInt8.toNat_ofNat_of_lt' (Nat.lt_trans h (by decide))

/-- A byte of seven bits in a character is the whole character. -/
lemma eq_of_mem_utf8EncodeChar {c : Char} {byte : UInt8} (h : byte ∈ String.utf8EncodeChar c)
    (hlt : byte.toNat < 0x80) : String.utf8EncodeChar c = [byte] ∧ c.toNat = byte.toNat := by
  by_cases hc : c.toNat < 0x80
  · rw [utf8EncodeChar_of_lt hc] at h ⊢
    obtain rfl := List.mem_singleton.1 h
    exact ⟨rfl, (toNat_ofNat_of_lt hc).symm⟩
  · -- the first of several bytes is 192 or above, the others are 128 or above
    have hmany : ¬ c.val.toNat ≤ 127 := fun hle => hc (Nat.lt_succ_of_le hle)
    rw [String.utf8EncodeChar] at h
    simp only [if_neg hmany] at h
    split at h
    next =>
      simp only [List.mem_cons, List.not_mem_nil, or_false] at h
      obtain rfl | rfl := h <;> simp at hlt <;> omega
    next =>
      split at h
      next =>
        simp only [List.mem_cons, List.not_mem_nil, or_false] at h
        obtain rfl | rfl | rfl := h <;> simp at hlt <;> omega
      next =>
        simp only [List.mem_cons, List.not_mem_nil, or_false] at h
        obtain rfl | rfl | rfl | rfl := h <;> simp at hlt <;> omega

lemma percentDecodeBytes_append {bytes : Bytes} (h : ∀ byte ∈ bytes, byte.toNat ≠ 0x25)
    (rest : Bytes) :
    percentDecodeBytes (bytes ++ rest) = bytes ++ percentDecodeBytes rest := by
  induction bytes with
  | nil => rfl
  | cons byte bytes ih =>
    obtain ⟨hbyte, hbytes⟩ := List.forall_mem_cons.1 h
    rw [List.cons_append, percentDecodeBytes_cons_of_ne hbyte, ih hbytes, List.cons_append]

lemma percentDecodeBytes_utf8EncodeChar {c : Char} (h : c ≠ '%') (rest : Bytes) :
    percentDecodeBytes (String.utf8EncodeChar c ++ rest) =
      String.utf8EncodeChar c ++ percentDecodeBytes rest := by
  apply percentDecodeBytes_append
  intro byte hbyte hpercent
  obtain ⟨-, hc⟩ := eq_of_mem_utf8EncodeChar hbyte (by omega)
  rw [hpercent] at hc
  exact h (Char.toNat_inj.1 hc)

lemma PercentEncodes.decode {bytes : Bytes} {chars : List Char} (h : PercentEncodes bytes chars) :
    percentDecodeBytes (chars.flatMap String.utf8EncodeChar) = bytes := by
  induction h with
  | nil => rw [List.flatMap_nil, percentDecodeBytes]
  | plain percent _ _ ih => rw [List.flatMap_cons, percentDecodeBytes_utf8EncodeChar percent, ih]
  | @escape high low h l bytes chars first second rest ih =>
    have hhigh := hexValue?_lt first
    have hlow := hexValue?_lt second
    have hpercent : String.utf8EncodeChar '%' = [0x25] := by decide
    simp only [List.flatMap_cons, hpercent, utf8EncodeChar_of_lt hhigh, utf8EncodeChar_of_lt hlow,
      List.cons_append, List.nil_append]
    rw [percentDecodeBytes_escape (h := h) (l := l), ih]
    · rwa [toNat_ofNat_of_lt hhigh]
    · rwa [toNat_ofNat_of_lt hlow]

/-- A text that was percent-encoded in any way is read again. -/
theorem percentDecode_of_encodes {s : String} {written : List Char}
    (h : PercentEncodes (encode s) written) : percentDecode (String.ofList written) = s := by
  rw [percentDecode, encode_ofList, h.decode, decode?_encode, Option.getD_some]

lemma PercentEncodes.no_ampersand {bytes : Bytes} {chars : List Char}
    (h : PercentEncodes bytes chars) :
    '&' ∉ chars := by
  have hnone : hexValue? '&'.toNat = none := by decide
  induction h with
  | nil => exact List.not_mem_nil
  | plain _ ampersand _ ih => simp [ampersand.symm, ih]
  | @escape high low h l _ _ first second _ ih =>
    have hhigh : '&' ≠ high := by
      rintro rfl
      cases hnone.symm.trans first
    have hlow : '&' ≠ low := by
      rintro rfl
      cases hnone.symm.trans second
    simp [hhigh, hlow, ih]

lemma percentEncodes_self {chars : List Char} (percent : '%' ∉ chars) (ampersand : '&' ∉ chars) :
    PercentEncodes (chars.flatMap String.utf8EncodeChar) chars := by
  induction chars with
  | nil => exact .nil
  | cons c chars ih =>
    rw [List.mem_cons, not_or] at percent ampersand
    rw [List.flatMap_cons]
    exact .plain (Ne.symm percent.1) (Ne.symm ampersand.1) (ih percent.2 ampersand.2)

lemma percentByte_of_unreserved : ∀ n < 256, isUnreserved (UInt8.ofNat n) = true →
    ∃ c, percentByte (UInt8.ofNat n) = [c] ∧ String.utf8EncodeChar c = [UInt8.ofNat n] ∧
      c ≠ '%' ∧ c ≠ '&' := by
  have hchar : ∀ n < 256, isUnreserved (UInt8.ofNat n) = true →
      percentByte (UInt8.ofNat n) = [Char.ofNat n] ∧
        String.utf8EncodeChar (Char.ofNat n) = [UInt8.ofNat n] ∧ Char.ofNat n ≠ '%' ∧
        Char.ofNat n ≠ '&' := by
    decide +kernel
  exact fun n hn hfree => ⟨_, hchar n hn hfree⟩

lemma percentByte_of_reserved : ∀ n < 256, isUnreserved (UInt8.ofNat n) = false →
    percentByte (UInt8.ofNat n) = ['%', upperHexDigit (n / 16), upperHexDigit (n % 16)] ∧
      hexValue? (upperHexDigit (n / 16)).toNat = some (n / 16) ∧
      hexValue? (upperHexDigit (n % 16)).toNat = some (n % 16) := by
  decide +kernel

/-- Encoding every byte that is not unreserved is one of the ways. -/
theorem percentEncodes_percentEncode (s : String) :
    PercentEncodes (encode s) (percentEncode s).toList := by
  rw [percentEncode, String.toList_ofList]
  induction encode s with
  | nil => exact .nil
  | cons byte bytes ih =>
    have hlt : byte.toNat < 256 := byte.toNat_lt
    have hbyte : UInt8.ofNat byte.toNat = byte := UInt8.ofNat_toNat
    rw [List.flatMap_cons]
    cases hfree : isUnreserved byte with
    | true =>
      obtain ⟨c, hwritten, hread, percent, ampersand⟩ :=
        percentByte_of_unreserved byte.toNat hlt (hbyte.symm ▸ hfree)
      rw [hbyte] at hwritten hread
      have hplain := PercentEncodes.plain percent ampersand ih
      rw [hread] at hplain
      rw [hwritten]
      exact hplain
    | false =>
      obtain ⟨hwritten, hhigh, hlow⟩ :=
        percentByte_of_reserved byte.toNat hlt (hbyte.symm ▸ hfree)
      rw [hbyte] at hwritten
      have hescape := PercentEncodes.escape hhigh hlow ih
      have hvalue : byte.toNat / 16 * 16 + byte.toNat % 16 = byte.toNat := by omega
      rw [hvalue, hbyte] at hescape
      rw [hwritten]
      exact hescape

lemma percentDecode_of_plain {s : String} (percent : '%' ∉ s.toList) (ampersand : '&' ∉ s.toList) :
    percentDecode s = s := by
  have hself : PercentEncodes (encode s) s.toList := percentEncodes_self percent ampersand
  have hread := percentDecode_of_encodes hself
  rwa [String.ofList_toList] at hread

theorem percentDecode_percentEncode (s : String) : percentDecode (percentEncode s) = s := by
  have hread := percentDecode_of_encodes (percentEncodes_percentEncode s)
  rwa [String.ofList_toList] at hread

def isQuerySeparator (c : Char) : Bool :=
  c == '&' || c == '='

lemma percentByte_separator : ∀ n < 256,
    (percentByte (UInt8.ofNat n)).any isQuerySeparator = false := by
  decide +kernel

lemma percentEncode_separator (s : String) :
    ∀ c ∈ (percentEncode s).toList, isQuerySeparator c = false := by
  intro c hc
  rw [percentEncode, String.toList_ofList] at hc
  obtain ⟨byte, -, hbyte⟩ := List.mem_flatMap.1 hc
  have hlt : byte.toNat < 256 := byte.toNat_lt
  have hnone := percentByte_separator byte.toNat hlt
  rw [UInt8.ofNat_toNat] at hnone
  exact Bool.eq_false_iff.2 (List.any_eq_false.1 hnone c hbyte)

/-! ### Cutting and joining -/

section Split

variable {α : Type} {p : α → Bool} {separator : α} {l : List α}

lemma cutAt?_append {before : List α} (h : ∀ a ∈ before, p a = false) (hsep : p separator = true)
    (after : List α) : cutAt? p (before ++ separator :: after) = some (before, after) := by
  induction before with
  | nil => simp [cutAt?, hsep]
  | cons a before ih =>
    simp [cutAt?, h a List.mem_cons_self, ih fun b hb => h b (List.mem_cons_of_mem a hb)]

lemma cutAt?_eq_some {cut : List α × List α} (h : cutAt? p l = some cut) :
    (∀ a ∈ cut.1, p a = false) ∧
      ∃ separator, p separator = true ∧ l = cut.1 ++ separator :: cut.2 := by
  induction l generalizing cut with
  | nil => cases h
  | cons a l ih =>
    rw [cutAt?] at h
    split at h
    next ha =>
      cases h
      exact ⟨by simp, a, ha, rfl⟩
    next ha =>
      obtain ⟨rest, hrest, rfl⟩ := Option.map_eq_some_iff.1 h
      obtain ⟨hbefore, separator, hseparator, rfl⟩ := ih hrest
      exact ⟨List.forall_mem_cons.2 ⟨Bool.eq_false_iff.2 ha, hbefore⟩, separator, hseparator, rfl⟩

lemma cutAt?_eq_none_iff : cutAt? p l = none ↔ ∀ a ∈ l, p a = false := by
  induction l with
  | nil => simp [cutAt?]
  | cons a l ih =>
    rw [cutAt?, List.forall_mem_cons, ← ih]
    cases p a <;> simp

lemma exists_splitBy (p : α → Bool) (l : List α) :
    ∃ piece pieces, splitBy p l = piece :: pieces := by
  cases l with
  | nil => exact ⟨[], [], rfl⟩
  | cons a rest =>
    rw [splitBy]
    split
    · exact ⟨[], splitBy p rest, rfl⟩
    · split
      · exact ⟨[a], [], rfl⟩
      · exact ⟨_, _, rfl⟩

lemma splitBy_of_forall {piece : List α} (h : ∀ a ∈ piece, p a = false) :
    splitBy p piece = [piece] := by
  induction piece with
  | nil => rfl
  | cons a piece ih =>
    simp [splitBy, h a List.mem_cons_self, ih fun b hb => h b (List.mem_cons_of_mem a hb)]

lemma splitBy_append (hsep : p separator = true) (before after : List α) :
    splitBy p (before ++ separator :: after) = splitBy p before ++ splitBy p after := by
  induction before with
  | nil => simp [splitBy, hsep]
  | cons a before ih =>
    obtain ⟨piece, pieces, hbefore⟩ := exists_splitBy p before
    rw [List.cons_append, splitBy, splitBy, ih, hbefore]
    split <;> rfl

end Split

/-- Pieces without a separator that were joined fall apart again. -/
lemma splitBy_joinWith {separator : Char} {pieces : List (List Char)} (hne : pieces ≠ [])
    (h : ∀ piece ∈ pieces, ∀ c ∈ piece, (c == separator) = false) :
    splitBy (· == separator) (joinWith [separator] pieces) = pieces := by
  induction pieces with
  | nil => exact absurd rfl hne
  | cons piece rest ih =>
    have hpiece := splitBy_of_forall (h piece List.mem_cons_self)
    cases rest with
    | nil => exact hpiece
    | cons next rest =>
      have hrest := ih (List.cons_ne_nil _ _) fun p hp => h p (List.mem_cons_of_mem piece hp)
      rw [joinWith, List.append_assoc, List.singleton_append,
        splitBy_append (p := (· == separator)) (beq_self_eq_true _), hpiece, hrest,
        List.singleton_append]
      exact List.cons_ne_nil _ _

end Text

namespace Topic

/-! ### Queries -/

lemma decodePair_encodePair (pair : String × String) :
    decodePair (String.ofList (encodePair pair)) = pair := by
  have hcut : Text.cutOnce? '=' (String.ofList (encodePair pair)) =
      some (Text.percentEncode pair.1, Text.percentEncode pair.2) := by
    have hkey : ∀ c ∈ (Text.percentEncode pair.1).toList, (c == '=') = false := by
      intro c hc
      have := Text.percentEncode_separator pair.1 c hc
      simp_all [Text.isQuerySeparator]
    rw [Text.cutOnce?, String.toList_ofList, encodePair,
      Text.cutAt?_append hkey (beq_self_eq_true '=')]
    simp only [Option.map_some, String.ofList_toList]
  rw [decodePair, hcut]
  simp only [Option.getD_some, Text.percentDecode_percentEncode]

lemma encodePair_no_ampersand (pair : String × String) :
    ∀ c ∈ encodePair pair, (c == '&') = false := by
  intro c hc
  have hpart : ∀ s : String, c ∈ (Text.percentEncode s).toList → (c == '&') = false := by
    intro s hs
    have := Text.percentEncode_separator s c hs
    simp_all [Text.isQuerySeparator]
  obtain hc | hc := List.mem_append.1 hc
  · exact hpart pair.1 hc
  · obtain rfl | hc := List.mem_cons.1 hc
    · rfl
    · exact hpart pair.2 hc

lemma encodePair_ne_empty (pair : String × String) : String.ofList (encodePair pair) ≠ "" := by
  intro h
  have hchars := congrArg String.toList h
  rw [String.toList_ofList] at hchars
  exact List.append_ne_nil_of_right_ne_nil _ (List.cons_ne_nil _ _) hchars

/-- A query of encoded pairs is read as their map. -/
theorem parseQuery_encodePairs (pairs : List (String × String)) :
    parseQuery (String.ofList (Text.joinWith ['&'] (pairs.map encodePair))) =
      KeyMap.ofList pairs := by
  cases pairs with
  | nil => rfl
  | cons first rest =>
    have hsplit : Text.splitOnChar '&'
        (String.ofList (Text.joinWith ['&'] ((first :: rest).map encodePair))) =
        ((first :: rest).map encodePair).map String.ofList := by
      rw [Text.splitOnChar, String.toList_ofList, Text.splitBy_joinWith (by simp)]
      intro piece hpiece
      obtain ⟨pair, -, rfl⟩ := List.mem_map.1 hpiece
      exact encodePair_no_ampersand pair
    have hkept : (((first :: rest).map encodePair).map String.ofList).filter (· ≠ "") =
        ((first :: rest).map encodePair).map String.ofList := by
      refine List.filter_eq_self.2 fun s hs => ?_
      rw [List.map_map] at hs
      obtain ⟨pair, -, rfl⟩ := List.mem_map.1 hs
      exact decide_eq_true (encodePair_ne_empty pair)
    have hread : (((first :: rest).map encodePair).map String.ofList).map decodePair =
        first :: rest := by
      rw [List.map_map, List.map_map]
      exact List.map_id'' decodePair_encodePair _
    rw [parseQuery, hsplit, hkept, hread]

end Topic
end DeviceHub
