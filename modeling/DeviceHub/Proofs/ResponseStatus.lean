import DeviceHub.Message
import Mathlib.Algebra.Group.Int.Defs
import Mathlib.Tactic.Common

/-!
What `check_correlation` and `check_response` judge a response by: the id it names and its status.
A status is a whole number, written as one or as a float, and counts only within 32 bits.
-/
namespace DeviceHub

def Value.wholeNumber? : Value → Option Int
  | int i => some i.toInt
  | float d => d.toInt?
  | _ => none

def IsInt32 (i : Int) : Prop :=
  -2 ^ 31 ≤ i ∧ i < 2 ^ 31

instance (i : Int) : Decidable (IsInt32 i) :=
  inferInstanceAs (Decidable (_ ∧ _))

lemma toInt_saturateInt64 (i : Int) :
    (saturateInt64 i).toInt = max (-2 ^ 63) (min i (2 ^ 63 - 1)) := by
  have low : -Int.pow 2 63 = -2 ^ 63 := rfl
  have high : Int.pow 2 63 - 1 = 2 ^ 63 - 1 := rfl
  unfold saturateInt64
  rw [low, high]
  split
  next hlow =>
    rw [Int64.toInt_minValue]
    omega
  next hlow =>
    split
    next hhigh =>
      rw [Int64.toInt_maxValue]
      omega
    next hhigh =>
      rw [Int64.toInt_ofInt_of_le (by omega) (by omega)]
      omega

/-- A value read as 64 bits is the whole number it stands for, or both are beyond 32 bits. -/
lemma Value.asInt64_cases (v : Value) :
    (∃ i raw, v.wholeNumber? = some i ∧ v.asInt64 = .ok raw ∧
      (raw.toInt = i ∨ ¬ IsInt32 raw.toInt ∧ ¬ IsInt32 i)) ∨
    v.wholeNumber? = none ∧ ∃ e, v.asInt64 = .error e := by
  cases v with
  | int i => exact .inl ⟨_, i, rfl, rfl, .inl rfl⟩
  | float d =>
    cases hd : d.toInt? with
    | none => exact .inr ⟨hd, _, by rw [asInt64, hd]; rfl⟩
    | some i =>
      refine .inl ⟨i, saturateInt64 i, hd, by rw [asInt64, hd], ?_⟩
      simp only [toInt_saturateInt64, IsInt32]
      omega
  | _ => exact .inr ⟨rfl, _, rfl⟩

namespace Message

/-- The status of a response, if it is a whole number. -/
def statusNumber? (m : Message) : Option Int :=
  (m.applicationProperties.find? statusCodeKey).bind Value.wholeNumber?

/-- A response has the status code its status is, or none when that is no number of 32 bits. -/
lemma statusCode_cases (m : Message) :
    (∃ code, m.statusNumber? = some code ∧ IsInt32 code ∧ m.statusCode = .ok code) ∨
    (∀ code, m.statusNumber? = some code → ¬ IsInt32 code) ∧
      ∃ reason, m.statusCode = .error (.decode reason) := by
  unfold statusNumber? statusCode
  cases m.applicationProperties.find? statusCodeKey with
  | none => exact .inr ⟨by nofun, _, rfl⟩
  | some value =>
    simp only [Option.bind_some]
    obtain ⟨i, raw, hwhole, hraw, hsame⟩ | ⟨hwhole, e, hraw⟩ := value.asInt64_cases
    · have hfits : (-Int.pow 2 31 ≤ raw.toInt ∧ raw.toInt < Int.pow 2 31) ↔ IsInt32 raw.toInt :=
        Iff.rfl
      simp only [hwhole, hraw, hfits]
      by_cases h32 : IsInt32 raw.toInt
      · obtain rfl | ⟨hbeyond, -⟩ := hsame
        · exact .inl ⟨_, rfl, h32, if_pos h32⟩
        · exact absurd h32 hbeyond
      · refine .inr ⟨?_, _, if_neg h32⟩
        rintro _ ⟨⟩
        obtain rfl | ⟨-, hbeyond⟩ := hsame
        · exact h32
        · exact hbeyond
    · simp only [hwhole, hraw]
      exact .inr ⟨by nofun, _, rfl⟩

variable {m : Message} {code : Int}

lemma checkStatus_of_statusNumber? (h : m.statusNumber? = some code) (fits : IsInt32 code) :
    m.checkStatus =
      if code = statusOk then .ok () else .error (.status code m.statusDescription) := by
  obtain ⟨code', h', -, hcode⟩ | ⟨hnone, -⟩ := m.statusCode_cases
  · cases h.symm.trans h'
    rw [checkStatus, hcode]
    rfl
  · exact absurd fits (hnone code h)

/-- Without a status of 32 bits a response cannot be read. -/
lemma checkStatus_of_no_number (h : ∀ code, m.statusNumber? = some code → ¬ IsInt32 code) :
    ∃ reason, m.checkStatus = .error (.decode reason) := by
  obtain ⟨code, hnumber, fits, -⟩ | ⟨-, reason, hcode⟩ := m.statusCode_cases
  · exact absurd fits (h code hnumber)
  · exact ⟨reason, by rw [checkStatus, hcode]; rfl⟩

lemma checkStatus_eq_ok_iff : m.checkStatus = .ok () ↔ m.statusNumber? = some statusOk := by
  constructor
  · intro h
    obtain ⟨code, hnumber, fits, -⟩ | ⟨hnone, -⟩ := m.statusCode_cases
    · rw [checkStatus_of_statusNumber? hnumber fits] at h
      split at h
      next hcode => rw [hnumber, hcode]
      next => cases h
    · obtain ⟨reason, hreason⟩ := checkStatus_of_no_number hnone
      cases h.symm.trans hreason
  · intro h
    rw [checkStatus_of_statusNumber? h (by decide), if_pos rfl]

end Message
end DeviceHub
