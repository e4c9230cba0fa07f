import DeviceHub.Config
import DeviceHub.Proofs.ConnectionText
import DeviceHub.Proofs.SecretText

/-!
Connection strings in the `Debug` text of a `DeviceSection`.  Whether `redact` hides the key there
depends on the blanks around its equals sign, which `parse` passes over: without any the text does
not depend on the key, with some the key stands in it.
-/
namespace DeviceHub

/-! ### Keys -/

namespace Base64

lemma mem_decodeChars {chars : List Char} {bytes : Bytes} (h : decodeChars chars = some bytes) :
    ∀ c ∈ chars, c = '=' ∨ (digitValue? c).isSome = true := by
  fun_induction decodeChars chars generalizing bytes with
  | case1 => simp
  | case2 a b =>
    simp only [Option.bind_eq_bind, Option.bind_eq_some_iff] at h
    obtain ⟨x, hx, y, hy, -⟩ := h
    simp [hx, hy]
  | case3 a b c hc =>
    simp only [Option.bind_eq_bind, Option.bind_eq_some_iff] at h
    obtain ⟨x, hx, y, hy, z, hz, -⟩ := h
    simp [hx, hy, hz]
  | case4 a b c d rest _ _ ih =>
    simp only [Option.bind_eq_bind, Option.bind_eq_some_iff] at h
    obtain ⟨x, hx, y, hy, z, hz, w, hw, more, hmore, -⟩ := h
    have hrest := ih hmore
    simpa [hx, hy, hz, hw] using hrest
  | case5 => cases h

lemma isSecretChar_of_digitValue? {c : Char} (h : (digitValue? c).isSome = true) :
    Redaction.isSecretChar c = true := by
  unfold digitValue? at h
  split at h
  next hrange =>
    have hlow : 65 ≤ c.toNat := hrange.1
    have hhigh : c.toNat ≤ 90 := hrange.2
    exact Redaction.isSecretChar_of_visible (by omega) (by omega) (by omega) (by omega)
  split at h
  next hrange =>
    have hlow : 97 ≤ c.toNat := hrange.1
    have hhigh : c.toNat ≤ 122 := hrange.2
    exact Redaction.isSecretChar_of_visible (by omega) (by omega) (by omega) (by omega)
  split at h
  next hrange =>
    have hlow : 48 ≤ c.toNat := hrange.1
    have hhigh : c.toNat ≤ 57 := hrange.2
    exact Redaction.isSecretChar_of_visible (by omega) (by omega) (by omega) (by omega)
  split at h
  next hc => subst hc; rfl
  split at h
  next hc => subst hc; rfl
  next => cases h

end Base64

namespace SharedAccess

/-- A key that was read is hidden as a whole where it stands after a secret name. -/
lemma isValue_of_parse {text : String} {c : SharedAccess} (h : parse text = .ok c) :
    Redaction.IsValue c.key.toList := by
  obtain ⟨-, -, -, hcomplete⟩ := parse_eq_ok_iff.1 h
  obtain ⟨bytes, hbytes⟩ := Option.isSome_iff_exists.1 hcomplete.key_decodes
  refine ⟨by simpa using hcomplete.key_ne, fun d hd => ?_⟩
  obtain rfl | hdigit := Base64.mem_decodeChars hbytes d hd
  · rfl
  · exact Base64.isSecretChar_of_digitValue? hdigit

/-- A connection string around the text of its key: what stands before the name of the key, blanks
before and after the equals sign, and what stands after the key. -/
structure KeyFrame where
  before : List Char
  afterName : List Char
  beforeKey : List Char
  after : List Char
  afterName_blank : ∀ c ∈ afterName, Text.isBlank c = true
  beforeKey_blank : ∀ c ∈ beforeKey, Text.isBlank c = true
  /-- The key ends at the end of the string, at a blank or with its segment. -/
  after_head : ∀ c ∈ after.head?, c = ';' ∨ Text.isBlank c = true

namespace KeyFrame

def text (f : KeyFrame) (key : String) : String :=
  String.ofList (f.before ++ "SharedAccessKey".toList ++ f.afterName ++
    '=' :: (f.beforeKey ++ key.toList ++ f.after))

/-- No blank stands around the equals sign. -/
def Tight (f : KeyFrame) : Prop :=
  f.afterName = [] ∧ f.beforeKey = []

variable {f : KeyFrame}

lemma isName : Redaction.IsName "SharedAccessKey".toList :=
  ⟨"sharedaccesskey".toList, by decide, by decide⟩

lemma isSecretChar_of_isBlank {c : Char} (h : Text.isBlank c = true) :
    Redaction.isSecretChar c = false := by
  simp [Redaction.isSecretChar, h]

lemma after_ends (f : KeyFrame) : Redaction.Ends f.after := by
  intro c hc
  obtain rfl | hblank := f.after_head c hc
  · rfl
  · exact isSecretChar_of_isBlank hblank

lemma redact_text (tight : f.Tight) {key key' : String} (hkey : Redaction.IsValue key.toList)
    (hkey' : Redaction.IsValue key'.toList) :
    Redaction.redact (f.text key) = Redaction.redact (f.text key') := by
  have hhidden := Redaction.hideSecrets_value isName hkey hkey' f.after_ends f.before
  have htext (key : String) : (f.text key).toList =
      f.before ++ "SharedAccessKey".toList ++ '=' :: (key.toList ++ f.after) := by
    simp [text, tight.1, tight.2]
  simp only [Redaction.redact, htext, hhidden]

/-- With a blank there, the key stands in the hidden text; a key with padding may be taken for a
secret name and its value. -/
lemma exists_hideSecrets (loose : ¬f.Tight) {key : String} (hkey : '=' ∉ key.toList) :
    ∃ front, Redaction.hideSecrets (f.text key).toList =
      front ++ key.toList ++ Redaction.hideSecrets f.after := by
  have hkeyText : Redaction.hideSecrets (key.toList ++ f.after) =
      key.toList ++ Redaction.hideSecrets f.after := by
    rw [Redaction.hideSecrets_append_of_ends f.after_ends, Redaction.hideSecrets_eq_self hkey]
  obtain hnil | ⟨init, b, hsplit⟩ := List.eq_nil_or_concat f.beforeKey
  · obtain hnil' | ⟨init, b, hsplit⟩ := List.eq_nil_or_concat f.afterName
    · exact absurd ⟨hnil', hnil⟩ loose
    · have hb := isSecretChar_of_isBlank (f.afterName_blank b (by simp [hsplit]))
      have htext : (f.text key).toList = (f.before ++ "SharedAccessKey".toList ++ init) ++
          b :: ('=' :: (key.toList ++ f.after)) := by
        simp [text, hsplit, hnil]
      rw [htext, Redaction.hideSecrets_append hb,
        Redaction.hideSecrets_of_none (Redaction.secret?_sign _), hkeyText]
      generalize Redaction.hideSecrets (f.before ++ _ ++ init) = front
      exact ⟨front ++ [b, '='], by simp⟩
  · have hb := isSecretChar_of_isBlank (f.beforeKey_blank b (by simp [hsplit]))
    have htext : (f.text key).toList = (f.before ++ "SharedAccessKey".toList ++ f.afterName ++
        '=' :: init) ++ b :: (key.toList ++ f.after) := by
      simp [text, hsplit]
    rw [htext, Redaction.hideSecrets_append hb, hkeyText]
    generalize Redaction.hideSecrets (f.before ++ _ ++ _ ++ _) = front
    exact ⟨front ++ [b], by simp⟩

end KeyFrame

/-- The text of a device section does not depend on the key of its connection string if no blank
stands around the equals sign of the key.  If one does, a key without padding stands in what is
hidden of the string. -/
theorem key_hidden_of_tight (f : KeyFrame) {c c' : SharedAccess} {key key' : String}
    (read : parse (f.text key) = .ok c) (hkey : c.key = key)
    (read' : parse (f.text key') = .ok c') (hkey' : c'.key = key') :
    (f.Tight → ∀ s : DeviceSection,
      ({ s with connectionString := some (f.text key) } : DeviceSection).outline.oneLine =
        ({ s with connectionString := some (f.text key') } : DeviceSection).outline.oneLine ∧
      ({ s with connectionString := some (f.text key) } : DeviceSection).outline.pretty =
        ({ s with connectionString := some (f.text key') } : DeviceSection).outline.pretty) ∧
    (¬f.Tight → '=' ∉ key.toList →
      (String.ofList (Redaction.hideSecrets (f.text key).toList)).utf8ByteSize ≤
        Redaction.maxBytes →
      key.toList <:+: (Redaction.redact (f.text key)).toList) := by
  refine ⟨fun tight s => ?_, fun loose hsign short => ?_⟩
  · have hredact := KeyFrame.redact_text tight (hkey ▸ isValue_of_parse read)
      (hkey' ▸ isValue_of_parse read')
    have houtline : ({ s with connectionString := some (f.text key) } : DeviceSection).outline =
        ({ s with connectionString := some (f.text key') } : DeviceSection).outline := by
      simp only [DeviceSection.outline, Option.map_some, hredact]
    exact ⟨congrArg Outline.oneLine houtline, congrArg Outline.pretty houtline⟩
  · obtain ⟨front, hhidden⟩ := KeyFrame.exists_hideSecrets loose hsign
    rw [Redaction.redact, if_neg (Nat.not_lt.2 short), String.toList_ofList]
    exact ⟨front, _, hhidden.symm⟩

/-- The key in the middle of the string, and the name in front of it spelled as it is read. -/
def middleKey : KeyFrame where
  before := "HostName=h; SharedAccessKeyName=token;".toList
  afterName := []
  beforeKey := []
  after := " ;DeviceId=d".toList
  afterName_blank := by simp
  beforeKey_blank := by simp
  after_head := by simp [Text.isBlank]

theorem key_hidden_of_tight_of_middle :
    ∃ c c', parse (middleKey.text "YWJj") = .ok c ∧ c.key = "YWJj" ∧
      parse (middleKey.text "YQ==") = .ok c' ∧ c'.key = "YQ==" ∧ middleKey.Tight ∧
      ∀ s : DeviceSection,
        ({ s with connectionString := some (middleKey.text "YWJj") } :
            DeviceSection).outline.oneLine =
          ({ s with connectionString := some (middleKey.text "YQ==") } :
            DeviceSection).outline.oneLine ∧
        ({ s with connectionString := some (middleKey.text "YWJj") } :
            DeviceSection).outline.pretty =
          ({ s with connectionString := some (middleKey.text "YQ==") } :
            DeviceSection).outline.pretty := by
  have read : parse (middleKey.text "YWJj") =
      .ok ⟨"h", some "d", some "token", "YWJj", none, none⟩ := rfl
  have read' : parse (middleKey.text "YQ==") =
      .ok ⟨"h", some "d", some "token", "YQ==", none, none⟩ := rfl
  exact ⟨_, _, read, rfl, read', rfl, ⟨rfl, rfl⟩,
    (key_hidden_of_tight middleKey read rfl read' rfl).1 ⟨rfl, rfl⟩⟩

/-- With a blank before the key the text does depend on it. -/
theorem key_shown_after_blank :
    ∃ c c', parse "HostName=h;DeviceId=d;SharedAccessKey= YWJj" = .ok c ∧ c.key = "YWJj" ∧
      parse "HostName=h;DeviceId=d;SharedAccessKey= YWJk" = .ok c' ∧ c'.key = "YWJk" ∧
      ({ connectionString := some "HostName=h;DeviceId=d;SharedAccessKey= YWJj" } :
          DeviceSection).outline.oneLine ≠
        ({ connectionString := some "HostName=h;DeviceId=d;SharedAccessKey= YWJk" } :
          DeviceSection).outline.oneLine :=
  ⟨⟨"h", some "d", none, "YWJj", none, none⟩, ⟨"h", some "d", none, "YWJk", none, none⟩, rfl, rfl,
    rfl, rfl, by decide +kernel⟩

end SharedAccess

end DeviceHub
