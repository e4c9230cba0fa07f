import DeviceHub.Redaction
import Mathlib.Data.List.Basic

/-!
Which parts of a text `redact` hides.  A character that belongs to no secret value cuts the text:
what stands before it and what stands after it are hidden on their own.  The value after a secret
name and an equals sign makes no difference to the hidden text.
-/
namespace DeviceHub.Redaction

variable {chars spelled rest name : List Char}

lemma hideSecrets_of_some (h : secret? chars = some (spelled, rest)) :
    hideSecrets chars = spelled ++ mask ++ hideSecrets rest := by
  rw [hideSecrets]
  split
  next h' =>
    cases h.symm.trans h'
    rfl
  next h' => cases h.symm.trans h'

lemma hideSecrets_of_none {c : Char} (h : secret? (c :: rest) = none) :
    hideSecrets (c :: rest) = c :: hideSecrets rest := by
  rw [hideSecrets]
  split
  next h' => cases h.symm.trans h'
  next => rfl

@[simp] lemma hideSecrets_nil : hideSecrets [] = [] := by
  rw [hideSecrets]
  split
  next h => cases h
  next => rfl

/-- What follows the value at the head of a text, if there is a value. -/
def afterValue? : List Char → Option (List Char)
  | [] => none
  | c :: rest => if isSecretChar c then some (rest.dropWhile isSecretChar) else none

def secretOf? (chars name : List Char) : Option (List Char × List Char) :=
  match splitName? name chars with
  | some (spelled, '=' :: value) => (afterValue? value).map (spelled, ·)
  | _ => none

lemma secret?_eq (chars : List Char) : secret? chars = secretNames.findSome? (secretOf? chars) := by
  unfold secret?
  congr 1
  funext name
  unfold secretOf?
  cases splitName? name chars with
  | none => rfl
  | some found =>
    obtain ⟨spelled, rest⟩ := found
    cases rest with
    | nil => rfl
    | cons d value =>
      by_cases hd : d = '='
      · subst hd
        cases value with
        | nil => rfl
        | cons c rest => cases h : isSecretChar c <;> simp [afterValue?, h]
      · simp [hd]

/-- A character that is no letter of a name ends the search for the name. -/
lemma splitName?_append {c : Char} (hc : foldCase c ∉ name) (chars rest : List Char) :
    splitName? name (chars ++ c :: rest) =
      (splitName? name chars).map fun (spelled, left) => (spelled, left ++ c :: rest) := by
  induction name generalizing chars with
  | nil => rfl
  | cons n name ih =>
    obtain ⟨hn, hname⟩ : foldCase c ≠ n ∧ foldCase c ∉ name := by simpa using hc
    cases chars with
    | nil => simp [splitName?, hn]
    | cons d chars =>
      simp only [List.cons_append, splitName?]
      split
      · rw [ih hname]
        cases splitName? name chars <;> rfl
      · rfl

lemma splitName?_eq (h : splitName? name chars = some (spelled, rest)) :
    spelled ++ rest = chars := by
  induction name generalizing chars spelled with
  | nil =>
    cases h
    rfl
  | cons n name ih =>
    cases chars with
    | nil => cases h
    | cons c chars =>
      simp only [splitName?, Option.ite_none_right_eq_some] at h
      obtain ⟨⟨spelled, left⟩, hleft, hcons⟩ := Option.map_eq_some_iff.1 h.2
      cases hcons
      exact congrArg (c :: ·) (ih hleft)

lemma splitName?_letters (h : splitName? name chars = some (spelled, rest)) :
    ∀ c ∈ spelled, foldCase c ∈ name := by
  induction name generalizing chars spelled with
  | nil =>
    cases h
    simp
  | cons n name ih =>
    cases chars with
    | nil => cases h
    | cons c chars =>
      simp only [splitName?, Option.ite_none_right_eq_some] at h
      obtain ⟨⟨spelled, left⟩, hleft, hcons⟩ := Option.map_eq_some_iff.1 h.2
      cases hcons
      intro d hd
      obtain rfl | hd := List.mem_cons.1 hd
      · exact h.1 ▸ List.mem_cons_self
      · exact List.mem_cons_of_mem n (ih hleft d hd)

def nameLetters : List Char := secretNames.flatten

lemma mem_nameLetters (hname : name ∈ secretNames) {n : Char} (hn : n ∈ name) : n ∈ nameLetters :=
  List.mem_flatten.2 ⟨name, hname, hn⟩

/-- What can be seen in ASCII belongs to values, but for the two separators. -/
lemma isSecretChar_of_visible {c : Char} (low : 0x21 ≤ c.toNat) (high : c.toNat ≤ 0x7E)
    (semicolon : c.toNat ≠ 0x3B) (ampersand : c.toNat ≠ 0x26) : isSecretChar c = true := by
  have hblank : Text.isBlank c = false := by
    simp only [Text.isBlank, Bool.or_eq_false_iff, Bool.and_eq_false_iff, decide_eq_false_iff_not,
      beq_eq_false_iff_ne]
    omega
  have hsemicolon : c ≠ ';' := fun hc => semicolon (hc ▸ rfl)
  have hampersand : c ≠ '&' := fun hc => ampersand (hc ▸ rfl)
  simp [isSecretChar, hblank, hsemicolon, hampersand]

/-- A spelling of a letter of a name could belong to a value. -/
lemma isSecretChar_of_letter {c : Char} (h : foldCase c ∈ nameLetters) : isSecretChar c = true := by
  unfold foldCase at h
  split at h
  next hc => subst hc; rfl
  split at h
  next hc => subst hc; rfl
  split at h
  next hupper =>
    have hlow : 65 ≤ c.toNat := hupper.1
    have hhigh : c.toNat ≤ 90 := hupper.2
    exact isSecretChar_of_visible (by omega) (by omega) (by omega) (by omega)
  next =>
    have hletters : nameLetters.all isSecretChar = true := by decide
    exact List.all_eq_true.1 hletters c h

/-! ### Cutting a text -/

lemma foldCase_not_mem (hname : name ∈ secretNames) {c : Char} (hc : isSecretChar c = false) :
    foldCase c ∉ name := by
  intro hmem
  rw [isSecretChar_of_letter (mem_nameLetters hname hmem)] at hc
  cases hc

lemma dropWhile_append_of_cut {c : Char} (hc : isSecretChar c = false) (chars rest : List Char) :
    (chars ++ c :: rest).dropWhile isSecretChar = chars.dropWhile isSecretChar ++ c :: rest := by
  rw [List.dropWhile_append]
  split
  next hnone =>
    rw [List.isEmpty_iff.1 hnone, List.nil_append, List.dropWhile_cons_of_neg (by simp [hc])]
  next => rfl

lemma afterValue?_append {c : Char} (hc : isSecretChar c = false) (value rest : List Char) :
    afterValue? (value ++ c :: rest) = (afterValue? value).map (· ++ c :: rest) := by
  cases value with
  | nil => simp [afterValue?, hc]
  | cons d value =>
    simp only [List.cons_append, afterValue?, dropWhile_append_of_cut hc]
    split <;> rfl

/-- A secret before the cut is found whatever stands after the cut, and the other way round. -/
lemma secretOf?_append {c : Char} (hname : name ∈ secretNames) (hc : isSecretChar c = false)
    (chars rest : List Char) :
    secretOf? (chars ++ c :: rest) name =
      (secretOf? chars name).map fun (spelled, left) => (spelled, left ++ c :: rest) := by
  rw [secretOf?, splitName?_append (foldCase_not_mem hname hc), secretOf?]
  have hsign : c ≠ '=' := fun h => by simp [h, isSecretChar, Text.isBlank] at hc
  cases splitName? name chars with
  | none => rfl
  | some found =>
    obtain ⟨spelled, left⟩ := found
    cases left with
    | nil => simp [hsign]
    | cons d value =>
      by_cases hd : d = '='
      · subst hd
        simp only [Option.map_some, List.cons_append, afterValue?_append hc, Option.map_map]
        rfl
      · simp [hd]

lemma findSome?_congr {α β : Type} {f g : α → Option β} {items : List α}
    (h : ∀ a ∈ items, f a = g a) : items.findSome? f = items.findSome? g := by
  induction items with
  | nil => rfl
  | cons a items ih =>
    rw [List.findSome?_cons, List.findSome?_cons, h a List.mem_cons_self,
      ih fun b hb => h b (List.mem_cons_of_mem _ hb)]

lemma secret?_append {c : Char} (hc : isSecretChar c = false) (chars rest : List Char) :
    secret? (chars ++ c :: rest) =
      (secret? chars).map fun (spelled, left) => (spelled, left ++ c :: rest) := by
  rw [secret?_eq, secret?_eq, List.map_findSome?]
  exact findSome?_congr fun name hname => secretOf?_append hname hc chars rest

/-- What stands before a cut and what stands after it are hidden on their own. -/
theorem hideSecrets_append {c : Char} (hc : isSecretChar c = false) (chars rest : List Char) :
    hideSecrets (chars ++ c :: rest) = hideSecrets chars ++ c :: hideSecrets rest := by
  induction hn : chars.length using Nat.strongRecOn generalizing chars with
  | ind n ih =>
    have hsecret := secret?_append hc chars rest
    cases h : secret? chars with
    | some found =>
      obtain ⟨spelled, left⟩ := found
      rw [h, Option.map_some] at hsecret
      rw [hideSecrets_of_some hsecret, hideSecrets_of_some h,
        ih _ (hn ▸ secret?_length h) left rfl]
      simp only [List.append_assoc]
    | none =>
      rw [h, Option.map_none] at hsecret
      cases chars with
      | nil =>
        rw [List.nil_append, hideSecrets_of_none hsecret, hideSecrets_nil, List.nil_append]
      | cons d chars =>
        rw [List.cons_append] at hsecret ⊢
        rw [hideSecrets_of_none hsecret, hideSecrets_of_none h,
          ih _ (hn ▸ Nat.lt_succ_self _) chars rfl, List.cons_append]

lemma secret?_eq_none (h : '=' ∉ chars) : secret? chars = none := by
  rw [secret?_eq, List.findSome?_eq_none_iff]
  intro name _
  unfold secretOf?
  split
  next spelled value hname =>
    rw [← splitName?_eq hname] at h
    simp at h
  next => rfl

lemma hideSecrets_eq_self (h : '=' ∉ chars) : hideSecrets chars = chars := by
  induction chars with
  | nil => exact hideSecrets_nil
  | cons c chars ih =>
    rw [hideSecrets_of_none (secret?_eq_none h), ih fun hmem => h (List.mem_cons_of_mem c hmem)]

lemma sign_not_mem : ∀ name ∈ secretNames, foldCase '=' ∉ name := by
  decide

lemma secret?_sign (chars : List Char) : secret? ('=' :: chars) = none := by
  rw [secret?_eq, List.findSome?_eq_none_iff]
  intro name hname
  have hnil : ∀ name ∈ secretNames, splitName? name [] = none := by decide
  have hsplit := splitName?_append (sign_not_mem name hname) [] chars
  rw [hnil name hname] at hsplit
  simp only [List.nil_append, Option.map_none] at hsplit
  rw [secretOf?, hsplit]

/-! ### Changing a value -/

/-- Where a value ends: at the end of the text, or at a character that belongs to no value. -/
def Ends (rest : List Char) : Prop :=
  ∀ c ∈ rest.head?, isSecretChar c = false

lemma hideSecrets_append_of_ends {rest : List Char} (hrest : Ends rest) (chars : List Char) :
    hideSecrets (chars ++ rest) = hideSecrets chars ++ hideSecrets rest := by
  cases rest with
  | nil => simp
  | cons c rest =>
    have hc := hrest c rfl
    have hhead := hideSecrets_append hc [] rest
    rw [List.nil_append, hideSecrets_nil, List.nil_append] at hhead
    rw [hideSecrets_append hc, hhead]

structure IsValue (value : List Char) : Prop where
  nonempty : value ≠ []
  secret : ∀ c ∈ value, isSecretChar c = true

def IsName (spelled : List Char) : Prop :=
  ∃ name ∈ secretNames, splitName? name spelled = some (spelled, [])

variable {front head value value' rest : List Char}

lemma dropWhile_value (hvalue : ∀ c ∈ value, isSecretChar c = true) (hrest : Ends rest) :
    (value ++ rest).dropWhile isSecretChar = rest := by
  rw [List.dropWhile_append_of_pos hvalue]
  cases rest with
  | nil => rfl
  | cons c rest => exact List.dropWhile_cons_of_neg (by simp [hrest c rfl])

lemma afterValue?_value (hvalue : IsValue value) (hrest : Ends rest) :
    afterValue? (value ++ rest) = some rest := by
  cases value with
  | nil => exact absurd rfl hvalue.nonempty
  | cons c value =>
    rw [List.cons_append, afterValue?, if_pos (hvalue.secret c List.mem_cons_self),
      dropWhile_value (fun d hd => hvalue.secret d (List.mem_cons_of_mem c hd)) hrest]

lemma IsName.secret (h : IsName head) : ∀ c ∈ head, isSecretChar c = true := by
  obtain ⟨name, hname, hsplit⟩ := h
  exact fun c hc => isSecretChar_of_letter (mem_nameLetters hname (splitName?_letters hsplit c hc))

/-- What is left at a cut, before the name in a text, still has the name at its end. -/
lemma exists_front (hhead : IsName head) {left : List Char} (hleft : left <:+ front ++ head)
    (hsome : left.dropWhile isSecretChar ≠ []) :
    ∃ front', left.dropWhile isSecretChar = front' ++ head := by
  have hsuffix : left.dropWhile isSecretChar <:+ front ++ head :=
    (List.dropWhile_suffix isSecretChar).trans hleft
  obtain hshort | ⟨front', h⟩ :=
    List.suffix_or_suffix_of_suffix hsuffix (List.suffix_append front head)
  · -- the first character left is not of a value, but those of the name could be
    have hcut := List.head_dropWhile_not isSecretChar hsome
    have hmem := hshort.subset (List.head_mem hsome)
    rw [hhead.secret _ hmem] at hcut
    cases hcut
  · exact ⟨front', h.symm⟩

/-- Two texts that are the same, or differ in the value after the name. -/
inductive SameBut (head value value' rest : List Char) : List Char → List Char → Prop
  | same (chars : List Char) : SameBut head value value' rest chars chars
  | after (front : List Char) : SameBut head value value' rest
      (front ++ head ++ '=' :: (value ++ rest)) (front ++ head ++ '=' :: (value' ++ rest))

lemma afterValue?_sameBut (hhead : IsName head) (hvalue : IsValue value) (hvalue' : IsValue value')
    (hrest : Ends rest) {left : List Char} (hleft : left <:+ front ++ head) :
    Option.Rel (SameBut head value value' rest) (afterValue? (left ++ '=' :: (value ++ rest)))
      (afterValue? (left ++ '=' :: (value' ++ rest))) := by
  have hsign : isSecretChar '=' = true := rfl
  have hall {value : List Char} (hvalue : IsValue value) :
      ('=' :: (value ++ rest)).dropWhile isSecretChar = rest := by
    rw [List.dropWhile_cons_of_pos hsign, dropWhile_value hvalue.secret hrest]
  cases left with
  | nil =>
    simp only [List.nil_append, afterValue?, hsign, if_true, dropWhile_value hvalue.secret hrest,
      dropWhile_value hvalue'.secret hrest]
    exact .some (.same rest)
  | cons c left =>
    simp only [List.cons_append, afterValue?]
    split
    · simp only [List.dropWhile_append, hall hvalue, hall hvalue']
      split
      next => exact .some (.same rest)
      next hsome =>
        have hleft' : left <:+ front ++ head := (List.suffix_cons c left).trans hleft
        obtain ⟨front', hfront⟩ := exists_front hhead hleft' (by simpa using hsome)
        rw [hfront]
        exact .some (.after front')
    · exact .none

/-- What is found of a secret is the same, but perhaps for the value in what comes after it. -/
lemma secretOf?_sameBut (hhead : IsName head) (hvalue : IsValue value) (hvalue' : IsValue value')
    (hrest : Ends rest) (hname : name ∈ secretNames) :
    Option.Rel (fun a b => a.1 = b.1 ∧ SameBut head value value' rest a.2 b.2)
      (secretOf? (front ++ head ++ '=' :: (value ++ rest)) name)
      (secretOf? (front ++ head ++ '=' :: (value' ++ rest)) name) := by
  have hsign := sign_not_mem name hname
  rw [secretOf?, secretOf?, splitName?_append hsign, splitName?_append hsign]
  cases hsplit : splitName? name (front ++ head) with
  | none => exact .none
  | some found =>
    obtain ⟨spelled, left⟩ := found
    cases left with
    | nil =>
      simp only [Option.map_some, List.nil_append, afterValue?_value hvalue hrest,
        afterValue?_value hvalue' hrest]
      exact .some ⟨rfl, .same rest⟩
    | cons c left =>
      by_cases hc : c = '='
      · subst hc
        have hleft : left <:+ front ++ head :=
          ⟨spelled ++ ['='], by simpa using splitName?_eq hsplit⟩
        have hrel := afterValue?_sameBut hhead hvalue hvalue' hrest hleft
        simp only [Option.map_some, List.cons_append]
        generalize afterValue? (left ++ '=' :: (value ++ rest)) = found at hrel ⊢
        generalize afterValue? (left ++ '=' :: (value' ++ rest)) = found' at hrel ⊢
        cases hrel with
        | none => exact .none
        | some h => exact .some ⟨rfl, h⟩
      · simp only [Option.map_some, List.cons_append]
        split
        next heq =>
          cases heq
          exact absurd rfl hc
        next =>
          split
          next heq =>
            cases heq
            exact absurd rfl hc
          next => exact .none

lemma findSome?_rel {α β γ : Type} {R : β → γ → Prop} {f : α → Option β} {g : α → Option γ}
    {items : List α} (h : ∀ a ∈ items, Option.Rel R (f a) (g a)) :
    Option.Rel R (items.findSome? f) (items.findSome? g) := by
  induction items with
  | nil => exact .none
  | cons a items ih =>
    have hrest := ih fun b hb => h b (List.mem_cons_of_mem _ hb)
    have ha := h a List.mem_cons_self
    rw [List.findSome?_cons, List.findSome?_cons]
    generalize f a = x at ha ⊢
    generalize g a = y at ha ⊢
    cases ha with
    | none => exact hrest
    | some h => exact .some h

lemma secret?_sameBut (hhead : IsName head) (hvalue : IsValue value) (hvalue' : IsValue value')
    (hrest : Ends rest) (front : List Char) :
    Option.Rel (fun a b => a.1 = b.1 ∧ SameBut head value value' rest a.2 b.2)
      (secret? (front ++ head ++ '=' :: (value ++ rest)))
      (secret? (front ++ head ++ '=' :: (value' ++ rest))) := by
  rw [secret?_eq, secret?_eq]
  exact findSome?_rel fun name hname => secretOf?_sameBut hhead hvalue hvalue' hrest hname

lemma secret?_ne_none (hhead : IsName head) (hvalue : IsValue value) (hrest : Ends rest) :
    secret? (head ++ '=' :: (value ++ rest)) ≠ none := by
  obtain ⟨name, hname, hsplit⟩ := hhead
  intro hnone
  rw [secret?_eq, List.findSome?_eq_none_iff] at hnone
  have hfound := hnone name hname
  rw [secretOf?, splitName?_append (sign_not_mem name hname), hsplit] at hfound
  simp [afterValue?_value hvalue hrest] at hfound

/-- The value after a secret name and an equals sign makes no difference. -/
theorem hideSecrets_value (hhead : IsName head) (hvalue : IsValue value) (hvalue' : IsValue value')
    (hrest : Ends rest) (front : List Char) :
    hideSecrets (front ++ head ++ '=' :: (value ++ rest)) =
      hideSecrets (front ++ head ++ '=' :: (value' ++ rest)) := by
  induction hn : front.length using Nat.strongRecOn generalizing front with
  | ind n ih =>
    have hsecret := secret?_sameBut hhead hvalue hvalue' hrest front
    cases h : secret? (front ++ head ++ '=' :: (value ++ rest)) with
    | some found =>
      cases h' : secret? (front ++ head ++ '=' :: (value' ++ rest)) with
      | none =>
        rw [h, h'] at hsecret
        cases hsecret
      | some found' =>
        obtain ⟨spelled, left⟩ := found
        obtain ⟨spelled', left'⟩ := found'
        rw [h, h'] at hsecret
        obtain ⟨rfl, hleft⟩ : spelled = spelled' ∧ SameBut head value value' rest left left' := by
          cases hsecret with
          | some h => exact h
        have hlength := secret?_length h
        rw [hideSecrets_of_some h, hideSecrets_of_some h']
        cases hleft with
        | same => rfl
        | after front' =>
          have hshorter : front'.length < n := by
            simp only [List.length_append, List.length_cons] at hlength
            omega
          rw [ih _ hshorter front' rfl]
    | none =>
      rw [h] at hsecret
      have h' : secret? (front ++ head ++ '=' :: (value' ++ rest)) = none := by
        generalize secret? (front ++ head ++ '=' :: (value' ++ rest)) = found' at hsecret ⊢
        cases hsecret
        rfl
      cases front with
      | nil => exact absurd h (secret?_ne_none hhead hvalue hrest)
      | cons c front =>
        have hshorter : front.length < n := hn ▸ Nat.lt_succ_self _
        simp only [List.cons_append] at h h' ⊢
        rw [hideSecrets_of_none h, hideSecrets_of_none h', ih _ hshorter front rfl]

end DeviceHub.Redaction
