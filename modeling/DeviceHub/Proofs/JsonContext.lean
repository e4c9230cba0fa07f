import DeviceHub.Proofs.JsonText

/-!
JSON text in its surroundings.  What the parser makes of a value at the head of a text does not
depend on what follows the value, as long as that does not go on with a number, nor on how much
deeper and further the parser may go.
-/
namespace DeviceHub.Json

/-! ### Blanks -/

def Blanks (chars : List Char) : Prop :=
  skipBlanks chars = []

lemma skipBlanks_append {chars : List Char} (h : skipBlanks chars ≠ []) (more : List Char) :
    skipBlanks (chars ++ more) = skipBlanks chars ++ more := by
  induction chars with
  | nil => exact absurd rfl h
  | cons c chars ih =>
    rw [skipBlanks] at h
    rw [List.cons_append, skipBlanks, skipBlanks]
    split at h
    next hblank => rw [if_pos hblank, if_pos hblank, ih h]
    next hblank => rw [if_neg hblank, if_neg hblank, List.cons_append]

lemma skipBlanks_append_of_cons {c : Char} {chars tail : List Char}
    (h : skipBlanks chars = c :: tail) (more : List Char) :
    skipBlanks (chars ++ more) = c :: (tail ++ more) := by
  rw [skipBlanks_append (h ▸ List.cons_ne_nil _ _), h, List.cons_append]

lemma Blanks.skip {blanks : List Char} (h : Blanks blanks) (more : List Char) :
    skipBlanks (blanks ++ more) = skipBlanks more := by
  induction blanks with
  | nil => rfl
  | cons c blanks ih =>
    rw [Blanks, skipBlanks] at h
    rw [List.cons_append, skipBlanks]
    split at h
    next hblank => rw [if_pos hblank, ih h]
    next => cases h

lemma skipBlanks_skipBlanks (chars : List Char) :
    skipBlanks (skipBlanks chars) = skipBlanks chars := by
  induction chars with
  | nil => rfl
  | cons c chars ih =>
    rw [skipBlanks]
    split
    next => exact ih
    next hblank => rw [skipBlanks, if_neg hblank]

lemma parseValue_skipBlanks (depth fuel : Nat) (chars : List Char) :
    parseValue depth fuel (skipBlanks chars) = parseValue depth fuel chars := by
  cases fuel with
  | zero => rfl
  | succ fuel => rw [parseValue, parseValue, skipBlanks_skipBlanks]

/-! ### Strings -/

lemma parseStringTail_append {chars cs rest : List Char}
    (h : parseStringTail chars = some (cs, rest)) (more : List Char) :
    parseStringTail (chars ++ more) = some (cs, rest ++ more) := by
  fun_induction parseStringTail chars generalizing cs rest with
  | case1 => cases h
  | case2 rest' =>
    cases h
    rfl
  | case3 a b c d tail ihPair ihTail =>
    obtain ⟨unit, hunit, h⟩ := Option.bind_eq_some_iff.1 h
    simp only [List.cons_append]
    rw [parseStringTail, hunit, Option.bind_some]
    split at h
    next hhigh =>
      rw [if_pos hhigh]
      split at h
      next e f g i after =>
        obtain ⟨low, hlow, h⟩ := Option.bind_eq_some_iff.1 h
        split at h
        next hisLow =>
          obtain ⟨⟨_, _⟩, hafter, heq⟩ := Option.map_eq_some_iff.1 h
          cases heq
          simp only [List.cons_append, hlow, Option.bind_some, if_pos hisLow, ihPair hafter,
            Option.map_some]
        next => cases h
      next => cases h
    next hhigh =>
      rw [if_neg hhigh]
      split at h
      next => cases h
      next hlow =>
        obtain ⟨⟨_, _⟩, htail, heq⟩ := Option.map_eq_some_iff.1 h
        cases heq
        rw [if_neg hlow, ihTail htail, Option.map_some]
  | case4 c tail hunit ih =>
    obtain ⟨escaped, hescaped, h⟩ := Option.bind_eq_some_iff.1 h
    obtain ⟨⟨_, _⟩, htail, heq⟩ := Option.map_eq_some_iff.1 h
    cases heq
    rw [List.cons_append, List.cons_append, parseStringTail, hescaped, Option.bind_some, ih htail,
      Option.map_some]
    -- the letter of an escape that is no pair of hex digits is not `u`
    rintro _ _ _ _ _ rfl
    cases hescaped
  | case5 => cases h
  | case6 c tail hquote hescape hother hplain ih =>
    obtain ⟨⟨_, _⟩, htail, heq⟩ := Option.map_eq_some_iff.1 h
    cases heq
    have hbackslash : c ≠ '\\' := fun heq => hplain (.inr heq)
    rw [List.cons_append, parseStringTail, if_neg hplain, ih htail, Option.map_some]
    · exact hquote
    · exact fun _ _ _ _ _ heq => absurd heq hbackslash
    · exact fun _ _ heq => absurd heq hbackslash

/-! ### Numbers -/

/-- What a number does not go on with. -/
def NumberEnds (more : List Char) : Prop :=
  ∀ c ∈ more.head?, Text.digitValue? c = none ∧ c ≠ '.' ∧ c ≠ 'e' ∧ c ≠ 'E'

lemma Follows.numberEnds {more : List Char} (h : Follows more) : NumberEnds more := by
  intro c hc
  obtain rfl | rfl | rfl := h c hc <;> exact ⟨rfl, by decide, by decide, by decide⟩

lemma Blanks.numberEnds {blanks : List Char} (h : Blanks blanks) : NumberEnds blanks := by
  intro c hc
  cases blanks with
  | nil => cases hc
  | cons d blanks =>
    cases hc
    rw [Blanks, skipBlanks] at h
    split at h
    next hblank =>
      obtain rfl | rfl | rfl | rfl := hblank <;> exact ⟨rfl, by decide, by decide, by decide⟩
    next => cases h

lemma spanDigits_append_of_eq {chars rest more : List Char} {digits : List Nat}
    (h : spanDigits chars = (digits, rest)) (hmore : NumberEnds more) :
    spanDigits (chars ++ more) = (digits, rest ++ more) := by
  induction chars generalizing digits with
  | nil =>
    cases h
    cases more with
    | nil => rfl
    | cons c more => simp [spanDigits, (hmore c rfl).1]
  | cons c chars ih =>
    rw [spanDigits] at h
    rw [List.cons_append, spanDigits]
    split at h
    next d hd =>
      cases hspan : spanDigits chars with
      | mk ds rest' =>
        rw [hspan] at h
        cases h
        simp [ih hspan]
    next hd =>
      cases h
      rfl

lemma wholeDigits?_append_of_eq {chars rest more : List Char} {digits : List Nat}
    (h : wholeDigits? chars = some (digits, rest)) (hmore : NumberEnds more) :
    wholeDigits? (chars ++ more) = some (digits, rest ++ more) := by
  rw [wholeDigits?] at h ⊢
  cases hspan : spanDigits chars with
  | mk ds rest' =>
    rw [hspan] at h
    rw [spanDigits_append_of_eq hspan hmore]
    cases ds with
    | nil => cases h
    | cons d ds => cases ds <;> cases d <;> cases h <;> rfl

lemma fractionDigits?_append_of_eq {chars rest more : List Char} {digits : Option (List Nat)}
    (h : fractionDigits? chars = some (digits, rest)) (hmore : NumberEnds more) :
    fractionDigits? (chars ++ more) = some (digits, rest ++ more) := by
  unfold fractionDigits? at h
  split at h
  next chars =>
    cases hspan : spanDigits chars with
    | mk ds rest' =>
      rw [hspan] at h
      cases ds with
      | nil => cases h
      | cons d ds =>
        cases h
        simp [fractionDigits?, spanDigits_append_of_eq hspan hmore]
  next hpoint =>
    cases h
    cases chars with
    | nil =>
      cases more with
      | nil => rfl
      | cons c more =>
        rw [List.nil_append, fractionDigits?]
        rintro _ ⟨⟩
        exact (hmore '.' rfl).2.1 rfl
    | cons c chars =>
      rw [List.cons_append, fractionDigits?]
      rintro _ ⟨⟩
      exact hpoint _ rfl

/-- The digits of an exponent after its sign, at least one. -/
def exponentAfterSign? (negative : Bool) (chars : List Char) :
    Option (Option (Bool × List Nat) × List Char) :=
  if (spanDigits chars).1 = [] then none
  else some (some (negative, (spanDigits chars).1), (spanDigits chars).2)

lemma exponentDigits?_minus {c : Char} (hc : c = 'e' ∨ c = 'E') (chars : List Char) :
    exponentDigits? (c :: '-' :: chars) = exponentAfterSign? true chars := by
  simp only [exponentDigits?, if_pos hc, exponentAfterSign?]
  cases spanDigits chars with
  | mk digits rest => cases digits <;> rfl

lemma exponentDigits?_plus {c : Char} (hc : c = 'e' ∨ c = 'E') (chars : List Char) :
    exponentDigits? (c :: '+' :: chars) = exponentAfterSign? false chars := by
  simp only [exponentDigits?, if_pos hc, exponentAfterSign?]
  cases spanDigits chars with
  | mk digits rest => cases digits <;> rfl

lemma exponentDigits?_unsigned {c d : Char} (hc : c = 'e' ∨ c = 'E') (hminus : d ≠ '-')
    (hplus : d ≠ '+') (chars : List Char) :
    exponentDigits? (c :: d :: chars) = exponentAfterSign? false (d :: chars) := by
  simp only [exponentDigits?, if_pos hc, exponentAfterSign?]
  split
  next heq => exact absurd (List.cons.inj heq).1 hminus
  next heq => exact absurd (List.cons.inj heq).1 hplus
  next =>
    cases spanDigits (d :: chars) with
    | mk digits rest => cases digits <;> rfl

lemma exponentAfterSign?_append {negative : Bool} {chars rest more : List Char}
    {digits : Option (Bool × List Nat)}
    (h : exponentAfterSign? negative chars = some (digits, rest)) (hmore : NumberEnds more) :
    exponentAfterSign? negative (chars ++ more) = some (digits, rest ++ more) := by
  rw [exponentAfterSign?] at h ⊢
  rw [spanDigits_append_of_eq rfl hmore]
  split at h
  next => cases h
  next hdigits =>
    cases h
    rw [if_neg hdigits]

lemma exponentDigits?_append_of_eq {chars rest more : List Char}
    {digits : Option (Bool × List Nat)}
    (h : exponentDigits? chars = some (digits, rest)) (hmore : NumberEnds more) :
    exponentDigits? (chars ++ more) = some (digits, rest ++ more) := by
  cases chars with
  | nil =>
    cases h
    cases more with
    | nil => rfl
    | cons c more =>
      obtain ⟨-, -, he, hE⟩ := hmore c rfl
      simp [exponentDigits?, he, hE]
  | cons c chars =>
    by_cases hc : c = 'e' ∨ c = 'E'
    · cases chars with
      | nil =>
        simp only [exponentDigits?, if_pos hc] at h
        cases h
      | cons d chars =>
        rw [List.cons_append, List.cons_append]
        by_cases hminus : d = '-'
        · subst hminus
          rw [exponentDigits?_minus hc] at h ⊢
          exact exponentAfterSign?_append h hmore
        · by_cases hplus : d = '+'
          · subst hplus
            rw [exponentDigits?_plus hc] at h ⊢
            exact exponentAfterSign?_append h hmore
          · rw [exponentDigits?_unsigned hc hminus hplus] at h ⊢
            exact exponentAfterSign?_append h hmore
    · simp only [exponentDigits?, if_neg hc] at h
      cases h
      simp only [List.cons_append, exponentDigits?, if_neg hc]

def numberAfterSign (negative : Bool) (chars : List Char) : Option (Value × List Char) :=
  (wholeDigits? chars).bind fun whole =>
    (fractionDigits? whole.2).bind fun fraction =>
      (exponentDigits? fraction.2).bind fun exponent =>
        (NumberText.value? ⟨negative, whole.1, fraction.1, exponent.1⟩).bind fun value =>
          some (value, exponent.2)

lemma parseNumber_minus (chars : List Char) :
    parseNumber ('-' :: chars) = numberAfterSign true chars :=
  rfl

lemma parseNumber_of_ne {chars : List Char} (h : ∀ rest, chars ≠ '-' :: rest) :
    parseNumber chars = numberAfterSign false chars := by
  unfold parseNumber
  split
  next heq =>
    split at heq
    next => exact absurd rfl (h _)
    next =>
      cases heq
      rfl

lemma numberAfterSign_append {negative : Bool} {chars rest more : List Char} {v : Value}
    (h : numberAfterSign negative chars = some (v, rest)) (hmore : NumberEnds more) :
    numberAfterSign negative (chars ++ more) = some (v, rest ++ more) := by
  obtain ⟨whole, hwhole, h⟩ := Option.bind_eq_some_iff.1 h
  obtain ⟨fraction, hfraction, h⟩ := Option.bind_eq_some_iff.1 h
  obtain ⟨exponent, hexponent, h⟩ := Option.bind_eq_some_iff.1 h
  obtain ⟨value, hvalue, h⟩ := Option.bind_eq_some_iff.1 h
  cases h
  rw [numberAfterSign, wholeDigits?_append_of_eq hwhole hmore, Option.bind_some,
    fractionDigits?_append_of_eq hfraction hmore, Option.bind_some,
    exponentDigits?_append_of_eq hexponent hmore, Option.bind_some, hvalue, Option.bind_some]

lemma parseNumber_append {chars rest more : List Char} {v : Value}
    (h : parseNumber chars = some (v, rest)) (hmore : NumberEnds more) :
    parseNumber (chars ++ more) = some (v, rest ++ more) := by
  cases chars with
  | nil => cases h
  | cons c chars =>
    by_cases hminus : c = '-'
    · subst hminus
      exact numberAfterSign_append h hmore
    · have hne (tail rest : List Char) : c :: tail ≠ '-' :: rest := fun heq =>
        hminus (List.cons.inj heq).1
      rw [parseNumber_of_ne (hne _)] at h
      rw [List.cons_append, parseNumber_of_ne (hne _)]
      exact numberAfterSign_append h hmore

lemma mem_number_of_digit {c : Char} (h : '0' ≤ c) (h' : c ≤ '9') : c ∈ "-0123456789".toList := by
  have hdigits : ∀ n < 10, Char.ofNat (0x30 + n) ∈ "-0123456789".toList := by decide
  have hlow : 0x30 ≤ c.toNat := h
  have hhigh : c.toNat ≤ 0x39 := h'
  have hc := hdigits (c.toNat - 0x30) (by omega)
  rwa [Nat.add_sub_cancel' hlow, Char.ofNat_toNat] at hc

lemma exists_cons_of_parseNumber {chars rest : List Char} {v : Value}
    (h : parseNumber chars = some (v, rest)) :
    ∃ c cs, chars = c :: cs ∧ c ∈ "-0123456789".toList := by
  cases chars with
  | nil => cases h
  | cons c chars =>
    refine ⟨c, chars, rfl, ?_⟩
    by_cases hminus : c = '-'
    · simp [hminus]
    · rw [parseNumber_of_ne fun rest heq => hminus (List.cons.inj heq).1] at h
      obtain ⟨whole, hwhole, -⟩ := Option.bind_eq_some_iff.1 h
      cases hd : Text.digitValue? c with
      | none =>
        rw [wholeDigits?, spanDigits, hd] at hwhole
        cases hwhole
      | some d =>
        have hdigit : '0' ≤ c ∧ c ≤ '9' := by
          unfold Text.digitValue? at hd
          split at hd
          next h => exact h
          next => cases hd
        exact mem_number_of_digit hdigit.1 hdigit.2

/-! ### Values -/

lemma parseItems_nil (depth fuel : Nat) : parseItems depth fuel [] = none := by
  cases fuel with
  | zero => rfl
  | succ fuel => cases fuel <;> rfl

lemma parseFields_nil (depth fuel : Nat) (read : Mapping) :
    parseFields depth fuel read [] = none := by
  cases fuel <;> rfl

lemma append_ne_cons {c : Char} {chars : List Char} (hne : chars ≠ [])
    (h : ∀ rest, chars = c :: rest → False) (more rest : List Char) :
    chars ++ more ≠ c :: rest := by
  cases chars with
  | nil => exact absurd rfl hne
  | cons d chars =>
    rintro ⟨⟩
    exact h chars rfl

lemma exists_succ_of_succ_le {n m : Nat} (h : n + 1 ≤ m) : ∃ k, m = k + 1 :=
  Nat.exists_eq_add_of_le' (Nat.le_trans (Nat.le_add_left 1 n) h)

/-- What is read with so much fuel is read in every surroundings. -/
structure Settles (fuel : Nat) : Prop where
  value : ∀ {depth : Nat} {chars rest : List Char} {v : Value},
    parseValue depth fuel chars = some (v, rest) →
    ∀ {more : List Char}, NumberEnds more → ∀ {depth' fuel' : Nat}, depth ≤ depth' → fuel ≤ fuel' →
      parseValue depth' fuel' (chars ++ more) = some (v, rest ++ more)
  items : ∀ {depth : Nat} {chars rest : List Char} {items : List Value},
    parseItems depth fuel chars = some (items, rest) →
    ∀ {more : List Char}, NumberEnds more → ∀ {depth' fuel' : Nat}, depth ≤ depth' → fuel ≤ fuel' →
      parseItems depth' fuel' (chars ++ more) = some (items, rest ++ more)
  fields : ∀ {depth : Nat} {read fields : Mapping} {chars rest : List Char},
    parseFields depth fuel read chars = some (fields, rest) →
    ∀ {more : List Char}, NumberEnds more → ∀ {depth' fuel' : Nat}, depth ≤ depth' → fuel ≤ fuel' →
      parseFields depth' fuel' read (chars ++ more) = some (fields, rest ++ more)

variable {fuel fuel' depth depth' : Nat} {chars rest more : List Char}

lemma Settles.value_succ (ih : Settles fuel) {v : Value}
    (h : parseValue depth (fuel + 1) chars = some (v, rest)) (hmore : NumberEnds more)
    (hdepth : depth ≤ depth') (hfuel : fuel ≤ fuel') :
    parseValue depth' (fuel' + 1) (chars ++ more) = some (v, rest ++ more) := by
  rw [parseValue] at h ⊢
  split at h
  next heq =>
    cases h
    rw [skipBlanks_append_of_cons heq]
    rfl
  next heq =>
    cases h
    rw [skipBlanks_append_of_cons heq]
    rfl
  next heq =>
    cases h
    rw [skipBlanks_append_of_cons heq]
    rfl
  next tail heq =>
    obtain ⟨⟨cs, after⟩, hstring, heq'⟩ := Option.map_eq_some_iff.1 h
    cases heq'
    rw [skipBlanks_append_of_cons heq]
    simp [parseStringTail_append hstring]
  next tail heq =>
    rw [skipBlanks_append_of_cons heq]
    cases depth with
    | zero => cases h
    | succ depth =>
      obtain ⟨depth', rfl⟩ := exists_succ_of_succ_le hdepth
      have hdepth := Nat.le_of_succ_le_succ hdepth
      simp only at h ⊢
      split at h
      next after hclose =>
        cases h
        rw [skipBlanks_append_of_cons hclose]
        rfl
      next hopen =>
        obtain ⟨⟨items, after⟩, hitems, heq'⟩ := Option.map_eq_some_iff.1 h
        cases heq'
        have hne : skipBlanks tail ≠ [] := fun hnil => by
          rw [hnil, parseItems_nil] at hitems
          cases hitems
        rw [skipBlanks_append hne]
        split
        next hclose => exact absurd hclose (append_ne_cons hne hopen _ _)
        next => rw [ih.items hitems hmore hdepth hfuel, Option.map_some]
  next tail heq =>
    rw [skipBlanks_append_of_cons heq]
    cases depth with
    | zero => cases h
    | succ depth =>
      obtain ⟨depth', rfl⟩ := exists_succ_of_succ_le hdepth
      have hdepth := Nat.le_of_succ_le_succ hdepth
      simp only at h ⊢
      split at h
      next after hclose =>
        cases h
        rw [skipBlanks_append_of_cons hclose]
        rfl
      next hopen =>
        obtain ⟨⟨fields, after⟩, hfields, heq'⟩ := Option.map_eq_some_iff.1 h
        cases heq'
        have hne : skipBlanks tail ≠ [] := fun hnil => by
          rw [hnil, parseFields_nil] at hfields
          cases hfields
        rw [skipBlanks_append hne]
        split
        next hclose => exact absurd hclose (append_ne_cons hne hopen _ _)
        next => rw [ih.fields hfields hmore hdepth hfuel, Option.map_some]
  next =>
    obtain ⟨c, cs, hcons, hc⟩ := exists_cons_of_parseNumber h
    rw [hcons] at h
    have hread : parseValue depth' (fuel' + 1) (c :: (cs ++ more)) = some (v, rest ++ more) :=
      (parseValue_of_number hc depth' fuel' (cs ++ more)).trans (parseNumber_append h hmore)
    rwa [← skipBlanks_append_of_cons hcons, parseValue_skipBlanks, parseValue] at hread

lemma Settles.items_succ (ih : Settles fuel) {items : List Value}
    (h : parseItems depth (fuel + 1) chars = some (items, rest)) (hmore : NumberEnds more)
    (hdepth : depth ≤ depth') (hfuel : fuel ≤ fuel') :
    parseItems depth' (fuel' + 1) (chars ++ more) = some (items, rest ++ more) := by
  rw [parseItems] at h ⊢
  obtain ⟨⟨item, after⟩, hitem, h⟩ := Option.bind_eq_some_iff.1 h
  rw [ih.value hitem hmore hdepth hfuel, Option.bind_some]
  dsimp only at h ⊢
  split at h
  next heq =>
    cases h
    rw [skipBlanks_append_of_cons heq]
    rfl
  next heq =>
    obtain ⟨⟨items, after⟩, hitems, heq'⟩ := Option.map_eq_some_iff.1 h
    cases heq'
    rw [skipBlanks_append_of_cons heq]
    simp only [ih.items hitems hmore hdepth hfuel, Option.map_some]
  next => cases h

lemma Settles.fields_succ (ih : Settles fuel) {read fields : Mapping}
    (h : parseFields depth (fuel + 1) read chars = some (fields, rest)) (hmore : NumberEnds more)
    (hdepth : depth ≤ depth') (hfuel : fuel ≤ fuel') :
    parseFields depth' (fuel' + 1) read (chars ++ more) = some (fields, rest ++ more) := by
  rw [parseFields] at h ⊢
  split at h
  next heq =>
    rw [skipBlanks_append_of_cons heq]
    obtain ⟨⟨key, after⟩, hkey, h⟩ := Option.bind_eq_some_iff.1 h
    simp only [parseStringTail_append hkey, Option.bind_some]
    dsimp only at h
    split at h
    next heq =>
      rw [skipBlanks_append_of_cons heq]
      obtain ⟨⟨value, after⟩, hvalue, h⟩ := Option.bind_eq_some_iff.1 h
      simp only [ih.value hvalue hmore hdepth hfuel, Option.bind_some]
      dsimp only at h
      split at h
      next heq =>
        cases h
        rw [skipBlanks_append_of_cons heq]
        rfl
      next heq =>
        rw [skipBlanks_append_of_cons heq]
        exact ih.fields h hmore hdepth hfuel
      next => cases h
    next => cases h
  next => cases h

theorem settles (fuel : Nat) : Settles fuel := by
  induction fuel with
  | zero => exact ⟨nofun, nofun, nofun⟩
  | succ fuel ih =>
    refine ⟨fun h _ hmore _ fuel' hdepth hfuel => ?_, fun h _ hmore _ fuel' hdepth hfuel => ?_,
      fun h _ hmore _ fuel' hdepth hfuel => ?_⟩
    all_goals
      obtain ⟨fuel', rfl⟩ := exists_succ_of_succ_le hfuel
    · exact ih.value_succ h hmore hdepth (Nat.le_of_succ_le_succ hfuel)
    · exact ih.items_succ h hmore hdepth (Nat.le_of_succ_le_succ hfuel)
    · exact ih.fields_succ h hmore hdepth (Nat.le_of_succ_le_succ hfuel)

end DeviceHub.Json
