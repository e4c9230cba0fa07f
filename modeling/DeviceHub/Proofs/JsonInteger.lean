import DeviceHub.Proofs.JsonObject
import DeviceHub.Proofs.ResponseStatus
import DeviceHub.Proofs.Rounding
import DeviceHub.Twin

/-!
Integers of JSON text, with any number of digits, as `as_i64` answers with them.  One that fits 64
bits is read exactly.  A longer one is read as a float, if it is read at all, and the float is
rounded but stays beyond 64 bits, so that `as_i64` answers with the bound on its side.
-/
namespace DeviceHub.Json

/-! ### Gathering and scaling -/

/-- Either every digit is gathered, or the significand is great and some digits are counted. -/
lemma gatherWhole_cases {digits : List Nat} (h : ∀ d ∈ digits, d < 10) (significand : Nat) :
    gatherWhole significand digits =
      ⟨digits.foldl (fun n d => n * 10 + d) significand, 0⟩ ∨
    ∃ great count : Nat, 2 ^ 60 ≤ great ∧
      gatherWhole significand digits = ⟨great, (count + 1 : Nat)⟩ := by
  induction digits generalizing significand with
  | nil => exact .inl rfl
  | cons d digits ih =>
    obtain ⟨hd, hdigits⟩ := List.forall_mem_cons.1 h
    rw [gatherWhole]
    split
    next => exact ih hdigits _
    next hfull =>
      refine .inr ⟨significand, digits.length, ?_, rfl⟩
      rw [maxSignificand, Nat.pow_eq] at hfull
      omega

/-- A great double is scaled up in one step. -/
lemma mul?_of_scale? {fuel count k : Nat} {d scaled : Double} (hd : d.Reaches k)
    (h : scale? (fuel + 1) d count = some scaled) : d.mul? (powerOfTen count) = some scaled := by
  have hne : d.significand ≠ 0 := by
    have := hd.significand
    omega
  rw [scale?] at h
  by_cases hpower : (count : Int).natAbs ≤ maxPower
  · rw [if_pos hpower, if_pos (Int.natCast_nonneg count), Int.toNat_natCast] at h
    exact h
  · rw [if_neg hpower, if_neg hne, if_pos (Int.natCast_nonneg count)] at h
    cases h

lemma reaches_powerOfTen {k count : Nat} (h : 2 ^ k ≤ 10 ^ count) (hk : k ≤ 1024) :
    (powerOfTen count).Reaches k ∧ (powerOfTen count).isNegative = false :=
  Double.reaches_ofNat h hk

/-- A great significand that is scaled up stands for a whole number beyond 64 bits. -/
lemma exists_toInt?_of_scaled {significand count k l : Nat} {negative : Bool} {d : Double}
    (hsignificand : 2 ^ k ≤ significand) (hcount : 2 ^ l ≤ 10 ^ count) (hkl : k + l = 63)
    (h : Gathered.toDouble? ⟨significand, count⟩ negative = some d) :
    ∃ n : Nat, 2 ^ 63 ≤ n ∧ d.toInt? = some (if negative then -(n : Int) else n) := by
  obtain ⟨scaled, hscaled, rfl⟩ := Option.map_eq_some_iff.1 h
  obtain ⟨hfirst, hfirstSign⟩ := Double.reaches_ofNat hsignificand (by omega)
  obtain ⟨hsecond, hsecondSign⟩ := reaches_powerOfTen hcount (by omega)
  obtain ⟨magnitude, rfl, hreach, hfinite⟩ :=
    Double.exists_mul? (mul?_of_scale? hfirst hscaled) hfirst hsecond
  rw [hfirstSign, hsecondSign]
  rw [hkl] at hreach
  obtain ⟨n, hn, hvalue⟩ := Double.toInt?_ofMagnitude hfinite hreach (by decide) negative
  refine ⟨n, hn, ?_⟩
  cases negative with
  | false => exact hvalue
  | true =>
    rw [← Double.neg_ofMagnitude (Double.lt_of_le_infinityBits hfinite.le)] at hvalue
    exact hvalue

/-- Digits that write a number beyond 64 bits write a float beyond them, if they write one. -/
theorem exists_toInt?_of_wide {digits : List Nat} {negative : Bool} {d : Double}
    (hdigits : ∀ d ∈ digits, d < 10) (hwide : 2 ^ 63 ≤ digitsValue digits)
    (h : NumberText.toDouble? ⟨negative, digits, none, none⟩ = some d) :
    ∃ n : Nat, 2 ^ 63 ≤ n ∧ d.toInt? = some (if negative then -(n : Int) else n) := by
  have hgathered : (gatherWhole 0 digits).toDouble? negative = some d := h
  obtain hall | ⟨great, count, hgreat, hsome⟩ := gatherWhole_cases hdigits 0
  · rw [hall] at hgathered
    have hone : 2 ^ 0 ≤ 10 ^ 0 := by decide
    exact exists_toInt?_of_scaled hwide hone rfl hgathered
  · rw [hsome] at hgathered
    -- eight is below ten, so the digits that were counted make up for those three places
    have hcount : 2 ^ 3 ≤ 10 ^ (count + 1) := by
      have := Nat.pow_le_pow_right (show 0 < 10 by decide) (Nat.le_add_left 1 count)
      omega
    exact exists_toInt?_of_scaled hgreat hcount rfl hgathered

/-! ### Literals -/

/-- An integer as JSON writes it, with blanks around it. -/
structure IntegerLiteral where
  lead : List Char
  negative : Bool
  digits : List Nat
  trail : List Char
  blanks_lead : Blanks lead
  isDigits : IsDigits digits
  blanks_trail : Blanks trail

namespace IntegerLiteral

variable (l : IntegerLiteral)

def written : List Char :=
  (if l.negative then ['-'] else []) ++ l.digits.map Nat.digitChar

def chars : List Char :=
  l.lead ++ (l.written ++ l.trail)

def toInt : Int :=
  if l.negative then -(digitsValue l.digits : Int) else digitsValue l.digits

/-- The number lies within 64 bits. -/
def Fits : Prop :=
  -2 ^ 63 ≤ l.toInt ∧ l.toInt < 2 ^ 63

instance : Decidable l.Fits :=
  inferInstanceAs (Decidable (_ ∧ _))

def value? : Option Value :=
  NumberText.value? ⟨l.negative, l.digits, none, none⟩

variable {l}

/-- The integer that stands for the number: itself, or the nearer bound of 64 bits. -/
def Stands (l : IntegerLiteral) (n : Int64) : Prop :=
  n.toInt = max (-2 ^ 63) (min l.toInt (2 ^ 63 - 1))

lemma value?_eq (l : IntegerLiteral) :
    l.value? =
      if l.toInt = 0 ∧ l.negative then some (.float (zero true))
      else if l.Fits then some (.int (Int64.ofInt l.toInt))
      else (NumberText.toDouble? ⟨l.negative, l.digits, none, none⟩).map .float :=
  rfl

lemma value?_of_fits (h : l.Fits) : ∃ v, l.value? = some v := by
  by_cases hzero : l.toInt = 0 ∧ l.negative
  · exact ⟨_, by rw [value?_eq, if_pos hzero]⟩
  · exact ⟨_, by rw [value?_eq, if_neg hzero, if_pos h]⟩

lemma le_digitsValue_of_not_fits (h : ¬ l.Fits) : 2 ^ 63 ≤ digitsValue l.digits := by
  rw [Fits, toInt] at h
  split at h <;> omega

/-- What is read answers with the number or the bound on its side. -/
lemma stands_of_value? {v : Value} (h : l.value? = some v) :
    ∃ n, v.asInt64 = .ok n ∧ l.Stands n := by
  rw [value?_eq] at h
  split at h
  next hzero =>
    cases h
    have hnothing : (zero true).toInt? = some 0 := by decide +kernel
    refine ⟨saturateInt64 0, by rw [Value.asInt64, hnothing], ?_⟩
    rw [Stands, toInt_saturateInt64, hzero.1]
  next =>
    split at h
    next hfits =>
      cases h
      obtain ⟨hlow, hhigh⟩ := hfits
      refine ⟨_, rfl, ?_⟩
      rw [Stands, Int64.toInt_ofInt_of_le hlow hhigh]
      omega
    next hwide =>
      obtain ⟨d, hd, rfl⟩ := Option.map_eq_some_iff.1 h
      have hdigits := le_digitsValue_of_not_fits hwide
      obtain ⟨n, hn, hvalue⟩ := exists_toInt?_of_wide l.isDigits.digit hdigits hd
      refine ⟨saturateInt64 (if l.negative then -(n : Int) else n), ?_, ?_⟩
      · rw [Value.asInt64, hvalue]
      · rw [Stands, toInt_saturateInt64, toInt]
        split <;> omega

/-! ### Reading the characters -/

lemma parseNumber_written (l : IntegerLiteral) {more : List Char} (hmore : NumberEnds more) :
    parseNumber (l.written ++ more) = l.value?.map fun v => (v, more) := by
  have hdigits : wholeDigits? (l.digits.map Nat.digitChar ++ more) = some (l.digits, more) :=
    wholeDigits?_append l.isDigits fun c hc => (hmore c hc).1
  have hfraction : fractionDigits? ([] ++ more) = some (none, [] ++ more) :=
    fractionDigits?_append_of_eq rfl hmore
  have hexponent : exponentDigits? ([] ++ more) = some (none, [] ++ more) :=
    exponentDigits?_append_of_eq rfl hmore
  have hnumber : parseNumber (l.written ++ more) =
      numberAfterSign l.negative (l.digits.map Nat.digitChar ++ more) := by
    rw [written]
    cases l.negative with
    | false => exact parseNumber_of_ne (head_ne_sign l.isDigits more)
    | true => exact parseNumber_minus _
  rw [List.nil_append] at hfraction hexponent
  rw [hnumber, numberAfterSign, hdigits, Option.bind_some, hfraction, Option.bind_some, hexponent,
    Option.bind_some, ← value?]
  cases l.value? <;> rfl

lemma exists_written_cons (l : IntegerLiteral) :
    ∃ c cs, l.written = c :: cs ∧ c ∈ "-0123456789".toList := by
  rw [written]
  cases l.negative with
  | true => exact ⟨'-', l.digits.map Nat.digitChar, rfl, List.mem_cons_self⟩
  | false =>
    cases hdigits : l.digits with
    | nil => exact absurd hdigits l.isDigits.nonempty
    | cons d digits =>
      have hd : ∀ d < 10, d.digitChar ∈ "-0123456789".toList := by decide
      exact ⟨_, _, rfl, hd d (l.isDigits.digit d (hdigits ▸ List.mem_cons_self))⟩

theorem parse?_chars (l : IntegerLiteral) : parse? l.chars = l.value? := by
  obtain ⟨c, cs, hcons, hc⟩ := l.exists_written_cons
  have hread (depth fuel : Nat) : parseValue depth (fuel + 1) l.chars =
      l.value?.map fun v => (v, l.trail) := by
    rw [← parseNumber_written l l.blanks_trail.numberEnds, chars, ← parseValue_skipBlanks,
      l.blanks_lead.skip, parseValue_skipBlanks, hcons]
    exact parseValue_of_number hc depth fuel _
  have htrail : skipBlanks l.trail = [] := l.blanks_trail
  rw [parse?, hread]
  cases l.value? with
  | none => rfl
  | some v => simp only [Option.map_some, htrail, List.isEmpty_nil, if_true]

end IntegerLiteral

/-! ### Documents -/

lemma ofJson_encode {chars : List Char} {v : Value} :
    Value.ofJson (Text.encode (String.ofList chars)) = .ok v ↔ parse? chars = some v := by
  rw [Value.ofJson, Text.decode?_encode, Option.bind_some, String.toList_ofList]
  cases parse? chars <;> simp

lemma twinState_ofJson_encode {chars : List Char} {s : TwinState} :
    TwinState.ofJson (Text.encode (String.ofList chars)) = .ok s ↔
      parse? chars = some (.mapping s.properties) := by
  rw [← ofJson_encode, TwinState.ofJson]
  cases Value.ofJson (Text.encode (String.ofList chars)) with
  | error e => constructor <;> nofun
  | ok v =>
    cases v with
    | mapping fields => exact ⟨by rintro ⟨⟩; rfl, by rintro ⟨⟩; rfl⟩
    | _ => constructor <;> nofun

/-- An object of which the last field under a name was read as a value has that value there. -/
lemma find?_ofList_entries {before after : List FieldText} {field : FieldText}
    (hlast : ∀ f ∈ after, f.name ≠ field.name) :
    (KeyMap.ofList ((before ++ field :: after).map FieldText.entry)).find? field.name =
      some field.content := by
  apply KeyMap.find?_ofList_eq_some_iff.2
  refine ⟨before.map FieldText.entry, after.map FieldText.entry, by simp [FieldText.entry], ?_⟩
  intro entry hentry
  obtain ⟨f, hf, rfl⟩ := List.mem_map.1 hentry
  exact hlast f hf

/-- An integer within 64 bits is accepted; whatever is accepted answers with the number that is
meant, or with the bound on its side when it lies beyond 64 bits.  So does the version of a twin
document of which the last field named `$version` has the integer as its value. -/
theorem literal_saturates (l : IntegerLiteral) :
    (l.Fits → ∃ v, Value.ofJson (Text.encode (String.ofList l.chars)) = .ok v) ∧
    (∀ v, Value.ofJson (Text.encode (String.ofList l.chars)) = .ok v →
      ∃ n, v.asInt64 = .ok n ∧ n.toInt = max (-2 ^ 63) (min l.toInt (2 ^ 63 - 1))) ∧
    ∀ (lead trail : List Char) (before after : List FieldText) (field : FieldText) (s : TwinState),
      Blanks lead → field.name = TwinState.versionKey → field.value = l.chars →
      (∀ f ∈ after, f.name ≠ TwinState.versionKey) →
      TwinState.ofJson (Text.encode (String.ofList
        (lead ++ (objectChars (before ++ field :: after) ++ trail)))) = .ok s →
      ∃ n, s.version = .ok n ∧ n.toInt = max (-2 ^ 63) (min l.toInt (2 ^ 63 - 1)) := by
  refine ⟨?_, ?_, ?_⟩
  · intro hfits
    obtain ⟨v, hv⟩ := IntegerLiteral.value?_of_fits hfits
    exact ⟨v, ofJson_encode.2 (l.parse?_chars.trans hv)⟩
  · intro v hv
    exact IntegerLiteral.stands_of_value? (l.parse?_chars.symm.trans (ofJson_encode.1 hv))
  · intro lead trail before after field s hlead hname hvalue hlast hs
    have hproperties := parse?_objectChars hlead (twinState_ofJson_encode.1 hs)
    rw [Value.mapping.injEq] at hproperties
    have hfind : (KeyMap.ofList ((before ++ field :: after).map FieldText.entry)).find? field.name =
        some field.content := find?_ofList_entries (hname.symm ▸ hlast)
    rw [← hproperties, hname] at hfind
    have hcontent : l.value? = some field.content := by
      rw [← l.parse?_chars, ← hvalue, field.value_read]
    obtain ⟨n, hn, hstands⟩ := IntegerLiteral.stands_of_value? hcontent
    refine ⟨n, ?_, hstands⟩
    rw [TwinState.version, hfind]
    simp only [hn]

/-- The first number beyond 64 bits, or with the other sign the last one within. -/
def edge (negative : Bool) : IntegerLiteral where
  lead := []
  negative := negative
  digits := [9, 2, 2, 3, 3, 7, 2, 0, 3, 6, 8, 5, 4, 7, 7, 5, 8, 0, 8]
  trail := []
  blanks_lead := rfl
  isDigits := ⟨by decide, by decide, by decide⟩
  blanks_trail := rfl

def versionBeyond : FieldText where
  before := []
  key := TwinState.versionKey.toList
  between := []
  value := (edge false).chars
  name := TwinState.versionKey
  content := .float (Double.ofInt (2 ^ 63))
  blanks_before := rfl
  blanks_between := rfl
  key_read := by decide
  value_read := by rfl

theorem literal_saturates_at_edges :
    (edge true).toInt = -2 ^ 63 ∧
    (∃ v n, Value.ofJson (Text.encode "-9223372036854775808") = .ok v ∧ v.asInt64 = .ok n ∧
      n.toInt = -2 ^ 63) ∧
    (edge false).toInt = 2 ^ 63 ∧
    ∃ s n, TwinState.ofJson (Text.encode "\x7b\"$version\":9223372036854775808\x7d") = .ok s ∧
      s.version = .ok n ∧ n.toInt = 2 ^ 63 - 1 := by
  have hwithin : String.ofList (edge true).chars = "-9223372036854775808" := by decide
  have hdocument : String.ofList ([] ++ (objectChars ([] ++ versionBeyond :: []) ++ [])) =
      "\x7b\"$version\":9223372036854775808\x7d" := by decide
  refine ⟨by decide, ?_, by decide, ?_⟩
  · obtain ⟨v, hv⟩ := (literal_saturates (edge true)).1 (by decide)
    obtain ⟨n, hn, hclamped⟩ := (literal_saturates (edge true)).2.1 v hv
    rw [hwithin] at hv
    exact ⟨v, n, hv, hn, hclamped.trans (by decide)⟩
  · have hs : TwinState.ofJson (Text.encode (String.ofList
        ([] ++ (objectChars ([] ++ versionBeyond :: []) ++ [])))) =
        .ok ⟨[(TwinState.versionKey, versionBeyond.content)]⟩ :=
      twinState_ofJson_encode.2 rfl
    obtain ⟨n, hn, hclamped⟩ :=
      (literal_saturates (edge false)).2.2 [] [] [] [] versionBeyond _ rfl rfl rfl (by simp) hs
    rw [hdocument] at hs
    exact ⟨_, n, hs, hn, hclamped.trans (by decide)⟩

/-- A number that does not fit 64 bits is not refused: it answers with the greatest that does. -/
theorem literal_beyond_answered :
    ¬ ∀ (l : IntegerLiteral) (v : Value),
      Value.ofJson (Text.encode (String.ofList l.chars)) = .ok v →
        (l.Fits → v.asInt64 = .ok (Int64.ofInt l.toInt)) ∧
        (¬ l.Fits → ∃ reason, v.asInt64 = .error (.decode reason)) := by
  intro hexact
  have hread : Value.ofJson (Text.encode (String.ofList (edge false).chars)) =
      .ok versionBeyond.content := ofJson_encode.2 versionBeyond.value_read
  obtain ⟨reason, hreason⟩ := (hexact (edge false) _ hread).2 (by decide)
  have hanswer : (versionBeyond.content.asInt64).toOption = some Int64.maxValue := by decide +kernel
  rw [hreason] at hanswer
  cases hanswer

end DeviceHub.Json
