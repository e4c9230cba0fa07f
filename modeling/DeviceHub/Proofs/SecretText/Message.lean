import DeviceHub.Proofs.SecretText
import Mathlib.Data.List.TakeWhile
import Mathlib.Data.String.Basic

/-!
`redact`, by what its result shows of a message.  From the left, every secret name with an equals
sign and a value has the value masked, whatever stands around it, and all else is kept; what is too
long then is cut between two characters.
-/
namespace DeviceHub.Redaction

variable {chars chars' spelled spelled' value value' rest rest' name shown : List Char}

/-- How a letter of a name may be written: in either case, the long s and the kelvin sign being
cases of their letters. -/
def IsCaseOf (letter c : Char) : Prop :=
  c = letter ∨ c = letter.toUpper ∨ letter = 's' ∧ c = '\u017F' ∨ letter = 'k' ∧ c = '\u212A'

/-- A name written with each letter in some case. -/
def Spells (name spelled : List Char) : Prop :=
  List.Forall₂ IsCaseOf name spelled

/-- A secret name in some spelling, the value after it, and what follows where the value ends. -/
structure IsSecret (spelled value rest : List Char) : Prop where
  named : ∃ name ∈ secretNames, Spells name spelled
  valued : IsValue value
  ends : Ends rest

/-- What is shown of a text, from the left: of a secret its name and the mask, and every character
at which no secret stands. -/
inductive Shows : List Char → List Char → Prop
  | nil : Shows [] []
  | keep {c : Char} {chars shown : List Char}
    (plain : ∀ spelled value rest, IsSecret spelled value rest →
      c :: chars ≠ spelled ++ '=' :: (value ++ rest))
    (tail : Shows chars shown) : Shows (c :: chars) (c :: shown)
  | hide {spelled value rest shown : List Char} (secret : IsSecret spelled value rest)
    (tail : Shows rest shown) :
      Shows (spelled ++ '=' :: (value ++ rest)) (spelled ++ mask ++ shown)

/-- A text of 500 bytes at most, or as much of its beginning as leaves room for the mark of a
cut. -/
inductive Shortened (shown : List Char) : String → Prop
  | whole (fits : (String.ofList shown).utf8ByteSize ≤ 500) : Shortened shown (String.ofList shown)
  | cut {kept rest : List Char} {c : Char} (long : 500 < (String.ofList shown).utf8ByteSize)
    (split : shown = kept ++ c :: rest) (fits : (String.ofList kept).utf8ByteSize ≤ 486)
    (full : 486 < (String.ofList (kept ++ [c])).utf8ByteSize) :
      Shortened shown (String.ofList kept ++ "...[truncated]")

/-! ### Names -/

lemma toUpper_of_upper {c : Char} (h : 'A' ≤ c ∧ c ≤ 'Z') :
    (Char.ofNat (c.toNat + 32)).toUpper = c := by
  have hlow : 65 ≤ c.toNat := h.1
  have hhigh : c.toNat ≤ 90 := h.2
  have hall : ∀ n < 26, (Char.ofNat (n + 65 + 32)).toUpper = Char.ofNat (n + 65) := by decide
  have hc := hall (c.toNat - 65) (by omega)
  rwa [Nat.sub_add_cancel hlow, Char.ofNat_toNat] at hc

lemma foldCase_eq_iff {letter : Char} (h : letter ∈ nameLetters) (c : Char) :
    foldCase c = letter ↔ IsCaseOf letter c := by
  have hletters : nameLetters.all
      (fun letter => foldCase letter == letter && foldCase letter.toUpper == letter) = true := by
    decide
  have hboth : foldCase letter = letter ∧ foldCase letter.toUpper = letter := by
    simpa using List.all_eq_true.1 hletters letter h
  constructor
  · intro hc
    unfold foldCase at hc
    split at hc
    next hlong => exact .inr (.inr (.inl ⟨hc.symm, hlong⟩))
    split at hc
    next hkelvin => exact .inr (.inr (.inr ⟨hc.symm, hkelvin⟩))
    split at hc
    next hupper =>
      right
      left
      rw [← hc, toUpper_of_upper hupper]
    next => exact .inl hc
  · rintro (rfl | rfl | ⟨rfl, rfl⟩ | ⟨rfl, rfl⟩)
    · exact hboth.1
    · exact hboth.2
    · rfl
    · rfl

lemma splitName?_eq_some_iff (hname : ∀ letter ∈ name, letter ∈ nameLetters) :
    splitName? name chars = some (spelled, rest) ↔
      Spells name spelled ∧ chars = spelled ++ rest := by
  induction name generalizing chars spelled with
  | nil =>
    constructor
    · rintro ⟨⟩
      exact ⟨.nil, rfl⟩
    · rintro ⟨⟨⟩, rfl⟩
      rfl
  | cons letter name ih =>
    obtain ⟨hletter, hname⟩ := List.forall_mem_cons.1 hname
    cases chars with
    | nil =>
      refine iff_of_false (by simp [splitName?]) ?_
      rintro ⟨⟨⟩, ⟨⟩⟩
    | cons c chars =>
      simp only [splitName?, Option.ite_none_right_eq_some, foldCase_eq_iff hletter,
        Option.map_eq_some_iff]
      constructor
      · rintro ⟨hc, ⟨tail, left⟩, htail, hcons⟩
        cases hcons
        obtain ⟨hspells, rfl⟩ := (ih hname).1 htail
        exact ⟨.cons hc hspells, rfl⟩
      · rintro ⟨hspells, hchars⟩
        cases hspells with
        | @cons _ d _ tail hd htail =>
          obtain ⟨rfl, rfl⟩ := List.cons.inj hchars
          exact ⟨hd, (tail, rest), (ih hname).2 ⟨htail, rfl⟩, rfl⟩

lemma IsSecret.sign_not_mem (h : IsSecret spelled value rest) : '=' ∉ spelled := by
  obtain ⟨name, hname, hspells⟩ := h.named
  have hsplit : splitName? name (spelled ++ []) = some (spelled, []) :=
    (splitName?_eq_some_iff fun l => mem_nameLetters hname).2 ⟨hspells, rfl⟩
  exact fun hmem => Redaction.sign_not_mem name hname (splitName?_letters hsplit _ hmem)

/-! ### Secrets -/

/-- A text has one secret at its head at most. -/
lemma IsSecret.unique (h : IsSecret spelled value rest) (h' : IsSecret spelled' value' rest')
    (heq : spelled ++ '=' :: (value ++ rest) = spelled' ++ '=' :: (value' ++ rest')) :
    spelled = spelled' ∧ rest = rest' := by
  have hhead {spelled : List Char} (hsign : '=' ∉ spelled) (tail : List Char) :
      (spelled ++ '=' :: tail).takeWhile (· ≠ '=') = spelled := by
    rw [List.takeWhile_append_of_pos, List.takeWhile_cons_of_neg (by simp), List.append_nil]
    exact fun c hc => decide_eq_true (ne_of_mem_of_not_mem hc hsign)
  have hspelled := congrArg (List.takeWhile (· ≠ '=')) heq
  rw [hhead h.sign_not_mem, hhead h'.sign_not_mem] at hspelled
  subst hspelled
  have htail : value ++ rest = value' ++ rest' := by simpa using heq
  have hrest := congrArg (List.dropWhile isSecretChar) htail
  rw [dropWhile_value h.valued.secret h.ends, dropWhile_value h'.valued.secret h'.ends] at hrest
  exact ⟨rfl, hrest⟩

lemma ends_dropWhile (chars : List Char) : Ends (chars.dropWhile isSecretChar) := by
  intro c hc
  obtain ⟨tail, htail⟩ := List.head?_eq_some_iff.1 hc
  have hnot := List.head_dropWhile_not isSecretChar (l := chars) (by simp [htail])
  simpa [htail] using hnot

lemma afterValue?_eq_some (h : afterValue? chars = some rest) :
    ∃ value, chars = value ++ rest ∧ IsValue value ∧ Ends rest := by
  cases chars with
  | nil => cases h
  | cons c chars =>
    simp only [afterValue?, Option.ite_none_right_eq_some, Option.some.injEq] at h
    obtain ⟨hc, rfl⟩ := h
    refine ⟨c :: chars.takeWhile isSecretChar, ?_, ⟨by simp, ?_⟩, ends_dropWhile chars⟩
    · rw [List.cons_append, List.takeWhile_append_dropWhile]
    · intro d hd
      obtain rfl | hd := List.mem_cons.1 hd
      · exact hc
      · exact List.mem_takeWhile_imp hd

lemma isSecret_of_secret? (h : secret? chars = some (spelled, rest)) :
    ∃ value, chars = spelled ++ '=' :: (value ++ rest) ∧ IsSecret spelled value rest := by
  rw [secret?_eq] at h
  obtain ⟨name, hname, hfound⟩ := List.exists_of_findSome?_eq_some h
  unfold secretOf? at hfound
  split at hfound
  next spelled' left hsplit =>
    obtain ⟨rest', hafter, hpair⟩ := Option.map_eq_some_iff.1 hfound
    cases hpair
    obtain ⟨hspells, rfl⟩ := (splitName?_eq_some_iff fun l => mem_nameLetters hname).1 hsplit
    obtain ⟨value, rfl, hvalue, hends⟩ := afterValue?_eq_some hafter
    exact ⟨value, rfl, ⟨name, hname, hspells⟩, hvalue, hends⟩
  next => cases hfound

lemma IsSecret.isName (h : IsSecret spelled value rest) : IsName spelled := by
  obtain ⟨name, hname, hspells⟩ := h.named
  exact ⟨name, hname, (splitName?_eq_some_iff fun l => mem_nameLetters hname).2
    ⟨hspells, (List.append_nil _).symm⟩⟩

lemma IsSecret.found (h : IsSecret spelled value rest) :
    secret? (spelled ++ '=' :: (value ++ rest)) = some (spelled, rest) := by
  obtain ⟨⟨spelled', rest'⟩, hfound⟩ :=
    Option.ne_none_iff_exists'.1 (secret?_ne_none h.isName h.valued h.ends)
  obtain ⟨value', heq, h'⟩ := isSecret_of_secret? hfound
  obtain ⟨rfl, rfl⟩ := h.unique h' heq
  exact hfound

/-! ### What is shown -/

/-- What is shown of a text is what is left when its secrets are hidden. -/
theorem shows_iff : Shows chars shown ↔ shown = hideSecrets chars := by
  constructor
  · intro h
    induction h with
    | nil => exact hideSecrets_nil.symm
    | @keep c chars shown plain tail ih =>
      have hnone : secret? (c :: chars) = none := by
        refine Option.eq_none_iff_forall_ne_some.2 fun ⟨spelled, rest⟩ hfound => ?_
        obtain ⟨value, heq, hsecret⟩ := isSecret_of_secret? hfound
        exact plain spelled value rest hsecret heq
      rw [hideSecrets_of_none hnone, ih]
    | hide secret tail ih => rw [hideSecrets_of_some secret.found, ih]
  · rintro rfl
    -- on the length, as what follows a secret is no tail one character shorter
    induction hn : chars.length using Nat.strongRecOn generalizing chars with
    | ind n ih =>
      cases h : secret? chars with
      | some found =>
        obtain ⟨spelled, rest⟩ := found
        obtain ⟨value, rfl, hsecret⟩ := isSecret_of_secret? h
        rw [hideSecrets_of_some h]
        exact .hide hsecret (ih _ (hn ▸ secret?_length h) rfl)
      | none =>
        cases chars with
        | nil =>
          rw [hideSecrets_nil]
          exact .nil
        | cons c chars =>
          rw [hideSecrets_of_none h]
          refine .keep (fun spelled value rest hsecret heq => ?_)
            (ih _ (hn ▸ Nat.lt_succ_self _) rfl)
          rw [heq, hsecret.found] at h
          cases h

/-- The most that fits is taken: all, or so much that the next character has no room. -/
lemma takeBytes_cases (room : Nat) (chars : List Char) :
    (String.ofList (takeBytes room chars)).utf8ByteSize ≤ room ∧
      (takeBytes room chars = chars ∨ ∃ c rest, chars = takeBytes room chars ++ c :: rest ∧
        room < (String.ofList (takeBytes room chars ++ [c])).utf8ByteSize) := by
  simp only [String.utf8ByteSize_ofList]
  induction chars generalizing room with
  | nil => exact ⟨Nat.zero_le _, .inl rfl⟩
  | cons c chars ih =>
    obtain ⟨hfits, hrest⟩ := ih (room - c.utf8Size)
    simp only [takeBytes]
    split
    next hc =>
      refine ⟨by simp only [String.utf8Len_cons]; omega, ?_⟩
      obtain hall | ⟨d, rest, hsplit, hfull⟩ := hrest
      · exact .inl (congrArg (c :: ·) hall)
      · refine .inr ⟨d, rest, congrArg (c :: ·) hsplit, ?_⟩
        simp only [List.cons_append, String.utf8Len_cons]
        omega
    next hc =>
      refine ⟨Nat.zero_le _, .inr ⟨c, chars, rfl, ?_⟩⟩
      simp only [List.nil_append, String.utf8Len_cons, String.utf8Len_nil]
      omega

theorem shortened_redact (message : String) :
    Shortened (hideSecrets message.toList) (redact message) := by
  dsimp only [redact]
  split
  next hlong =>
    obtain ⟨hfits, hall | ⟨c, rest, hsplit, hfull⟩⟩ :=
      takeBytes_cases 486 (hideSecrets message.toList)
    · rw [hall] at hfits
      exact absurd hlong (Nat.not_lt.2 (Nat.le_trans hfits (by decide)))
    · rw [String.toList_ofList]
      exact .cut hlong hsplit hfits hfull
  next hshort => exact .whole (Nat.le_of_not_lt hshort)

lemma Shortened.utf8ByteSize_le {text : String} (h : Shortened shown text) :
    text.utf8ByteSize ≤ 500 := by
  cases h with
  | whole fits => exact fits
  | cut long split fits full =>
    rw [String.utf8ByteSize_append]
    exact Nat.add_le_add_right fits 14

/-- Two messages that differ only in the value after a secret name show the same text and are cut
at the same place, whatever stands before the name and after the value; it is never longer than 500
bytes. -/
theorem redact_value {key value value' rest : String} (hname : name ∈ secretNames)
    (hkey : Spells name key.toList) (hvalue : IsValue value.toList)
    (hvalue' : IsValue value'.toList) (hrest : Ends rest.toList) (front : String) :
    redact (front ++ key ++ "=" ++ value ++ rest) =
        redact (front ++ key ++ "=" ++ value' ++ rest) ∧
      (redact (front ++ key ++ "=" ++ value ++ rest)).utf8ByteSize ≤ 500 ∧
      ∃ shown, Shows (front ++ key ++ "=" ++ value ++ rest).toList shown ∧
        Shows (front ++ key ++ "=" ++ value' ++ rest).toList shown ∧
        Shortened shown (redact (front ++ key ++ "=" ++ value ++ rest)) := by
  have htext (value : String) : (front ++ key ++ "=" ++ value ++ rest).toList =
      front.toList ++ key.toList ++ '=' :: (value.toList ++ rest.toList) := by
    simp
  have hhead : IsName key.toList := (IsSecret.mk ⟨name, hname, hkey⟩ hvalue hrest).isName
  have hhidden : hideSecrets (front ++ key ++ "=" ++ value ++ rest).toList =
      hideSecrets (front ++ key ++ "=" ++ value' ++ rest).toList := by
    rw [htext, htext, hideSecrets_value hhead hvalue hvalue' hrest]
  have hshortened := shortened_redact (front ++ key ++ "=" ++ value ++ rest)
  refine ⟨?_, hshortened.utf8ByteSize_le, _, shows_iff.2 rfl, shows_iff.2 hhidden, hshortened⟩
  simp only [redact, hhidden]

/-- The name has a long s in it and stands in the value of another name, one of the values looks
like a secret itself, and a third secret follows. -/
theorem redact_value_of_nested :
    Spells "password".toList "PaſSword".toList ∧ IsValue "sig=1".toList ∧
      IsValue "Ω".toList ∧ Ends " Sig=2".toList ∧
      redact ("at token=x" ++ "PaſSword" ++ "=" ++ "sig=1" ++ " Sig=2") =
        redact ("at token=x" ++ "PaſSword" ++ "=" ++ "Ω" ++ " Sig=2") ∧
      Shows "at token=xPaſSword=Ω Sig=2".toList "at token=*** Sig=***".toList := by
  have hkey : Spells "password".toList "PaſSword".toList := by
    simp [Spells, IsCaseOf]
  have hvalue : IsValue "sig=1".toList := ⟨by decide, List.all_eq_true.1 (by decide)⟩
  have hvalue' : IsValue "Ω".toList := ⟨by decide, List.all_eq_true.1 (by decide)⟩
  have hrest : Ends " Sig=2".toList := by simp [Ends, isSecretChar, Text.isBlank]
  exact ⟨hkey, hvalue, hvalue', hrest,
    (redact_value (by decide) hkey hvalue hvalue' hrest "at token=x").1,
    shows_iff.2 (by decide +kernel)⟩

end DeviceHub.Redaction
