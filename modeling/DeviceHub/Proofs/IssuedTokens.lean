import DeviceHub.Config.Resolve
import DeviceHub.Proofs.ConnectionText
import Mathlib.Algebra.Group.Int.Defs
import Mathlib.Algebra.Group.Nat.Defs

/-!
Tokens from credentials that `parse` has read.  The key always decodes, so `token` of `SharedAccess`
refuses only a lifetime that no signed number holds; it panics when the clock and the lifetime add
up to more.  The password that `configure_mqtt_options` sets for a device is such a token.
-/
namespace DeviceHub

lemma Signature.isExpired_iff {now : Int64} {s : Signature} :
    s.isExpired now = true ↔ s.expiry.toInt ≤ now.toInt := by
  rw [isExpired, decide_eq_true_iff, Int64.le_iff_toInt_le]

namespace SharedAccess

variable {c : SharedAccess} {now : Int64} {lifetime : UInt64}

/-! ### Tokens -/

lemma expiry_of_generate {resource key : String} {keyName : Option String}
    {expiry : Int64} {t : Signature} (h : Signature.generate resource key keyName expiry = .ok t) :
    t.expiry = expiry := by
  unfold Signature.generate at h
  split at h
  next => cases h
  next =>
    cases h
    rfl

/-- The lifetime is refused, or the expiry overflows, or there is one to sign a token with. -/
lemma token_cases (c : SharedAccess) (now : Int64) (audience : String) (lifetime : UInt64) :
    (2 ^ 63 ≤ lifetime.toNat ∧ c.token now audience lifetime =
      .error (.error (.invalidInput "token lifetime is too long"))) ∨
    (lifetime.toNat < 2 ^ 63 ∧ 2 ^ 63 ≤ now.toInt + lifetime.toNat ∧
      c.token now audience lifetime = .error .panic) ∨
    (lifetime.toNat < 2 ^ 63 ∧ now.toInt + lifetime.toNat < 2 ^ 63 ∧
      ∃ expiry : Int64, expiry.toInt = now.toInt + lifetime.toNat ∧
        c.token now audience lifetime = .ofResult
          (Signature.generate (c.audience.getD audience) c.key c.keyName expiry)) := by
  obtain hshort | hlong := Nat.lt_or_ge lifetime.toNat (2 ^ 63)
  · right
    have htoken : c.token now audience lifetime =
        (Checked.add now (Int64.ofNat lifetime.toNat)).bind fun expiry => Checked.ofResult
          (Signature.generate (c.audience.getD audience) c.key c.keyName expiry) :=
      if_neg (Nat.not_le.2 hshort)
    have hlifetime : (Int64.ofNat lifetime.toNat).toInt = lifetime.toNat :=
      Int64.toInt_ofNat_of_lt hshort
    obtain ⟨expiry, hadd⟩ | hadd := Checked.add_cases now (Int64.ofNat lifetime.toNat)
    · have hsum := Checked.add_eq_ok_iff.1 hadd
      rw [hlifetime] at hsum
      have hhigh := expiry.toInt_lt
      exact .inr ⟨hshort, by omega, expiry, hsum, by rw [htoken, hadd]; rfl⟩
    · have hout := Checked.add_eq_panic_iff.1 hadd
      have hlow := now.le_toInt
      rw [hlifetime, Int64.toInt_minValue, Int64.toInt_maxValue] at hout
      exact .inl ⟨hshort, by omega, by rw [htoken, hadd]; rfl⟩
  · exact .inl ⟨hlong, if_pos hlong⟩

lemma expiry_of_token {audience : String} {t : Signature}
    (h : c.token now audience lifetime = .ok t) :
    lifetime.toNat < 2 ^ 63 ∧ now.toInt + lifetime.toNat < 2 ^ 63 ∧
      t.expiry.toInt = now.toInt + lifetime.toNat := by
  obtain ⟨-, htoken⟩ | ⟨-, -, htoken⟩ | ⟨hshort, hfits, expiry, hexpiry, htoken⟩ :=
    token_cases c now audience lifetime
  · rw [htoken] at h
    cases h
  · rw [htoken] at h
    cases h
  · rw [htoken, Checked.ofResult_eq_ok_iff] at h
    rw [expiry_of_generate h]
    exact ⟨hshort, hfits, hexpiry⟩

/-- With a key that decodes, a token is issued exactly if the expiry fits a signed number. -/
lemma exists_token_iff (decodes : (Base64.decode? c.key).isSome = true) (now : Int64)
    (audience : String) :
    (∃ t, c.token now audience lifetime = .ok t) ↔
      lifetime.toNat < 2 ^ 63 ∧ now.toInt + lifetime.toNat < 2 ^ 63 := by
  constructor
  · rintro ⟨t, ht⟩
    obtain ⟨hshort, hfits, -⟩ := expiry_of_token ht
    exact ⟨hshort, hfits⟩
  · rintro ⟨hshort, hfits⟩
    obtain ⟨hlong, -⟩ | ⟨-, hover, -⟩ | ⟨-, -, expiry, -, htoken⟩ :=
      token_cases c now audience lifetime
    · exact absurd hshort (Nat.not_lt.2 hlong)
    · exact absurd hfits (Int.not_lt.2 hover)
    · obtain ⟨bytes, hbytes⟩ := Option.isSome_iff_exists.1 decodes
      rw [htoken, Signature.generate, hbytes]
      exact ⟨_, rfl⟩

lemma token_eq_panic_iff (audience : String) : c.token now audience lifetime = .error .panic ↔
    lifetime.toNat < 2 ^ 63 ∧ 2 ^ 63 ≤ now.toInt + lifetime.toNat := by
  obtain ⟨hlong, htoken⟩ | ⟨hshort, hover, htoken⟩ | ⟨-, hfits, expiry, -, htoken⟩ :=
    token_cases c now audience lifetime
  · rw [htoken]
    exact iff_of_false (by simp) fun h => absurd h.1 (Nat.not_lt.2 hlong)
  · rw [htoken]
    exact iff_of_true rfl ⟨hshort, hover⟩
  · rw [htoken]
    exact iff_of_false (Checked.ofResult_ne_panic _) fun h => absurd hfits (Int.not_lt.2 h.2)

/-! ### Who the credentials are for -/

def IsGiven (value : Option String) : Prop :=
  ∃ text, value = some text ∧ text ≠ ""

/-- Credentials that were read have a host, a key that decodes, and at least one of the names; one
of them is not empty exactly if one of their last segments has a value that is not.  The credentials
issue a token for every audience exactly if the lifetime and the expiry fit a signed number, and its
expiry is the clock and the lifetime together. -/
theorem usable_of_parse {text : String} (read : parse text = .ok c) :
    c.hostname ≠ "" ∧ (Base64.decode? c.key).isSome = true ∧
    (c.deviceId ≠ none ∨ c.keyName ≠ none) ∧
    (∃ entries, List.Forall₂ Gives (segments text) entries ∧
      (IsGiven c.deviceId ∨ IsGiven c.keyName ↔
        IsGiven (lastValue entries .deviceId) ∨ IsGiven (lastValue entries .keyName))) ∧
    ∀ (now : Int64) (audience : String) (lifetime : UInt64),
      ((∃ t, c.token now audience lifetime = .ok t) ↔
        lifetime.toNat < 2 ^ 63 ∧ now.toInt + lifetime.toNat < 2 ^ 63) ∧
      (0 ≤ now.toInt → now.toInt + lifetime.toNat < 2 ^ 63 →
        ∃ t, c.token now audience lifetime = .ok t ∧
          t.expiry.toInt = now.toInt + lifetime.toNat) := by
  obtain ⟨entries, hentries, hfields, hcomplete⟩ := parse_eq_ok_iff.1 read
  have hdecodes := hcomplete.key_decodes
  refine ⟨hcomplete.hostname_ne, hdecodes,
    hcomplete.named.imp Option.isSome_iff_ne_none.1 Option.isSome_iff_ne_none.1,
    ⟨entries, hentries, ?_⟩, fun now audience lifetime =>
      ⟨exists_token_iff hdecodes now audience, fun clock fits => ?_⟩⟩
  · rw [hfields .deviceId, hfields .keyName, get, get]
  · have hshort : lifetime.toNat < 2 ^ 63 := by omega
    obtain ⟨t, ht⟩ := (exists_token_iff hdecodes now audience).2 ⟨hshort, fits⟩
    exact ⟨t, ht, (expiry_of_token ht).2.2⟩

/-- An empty name of a device beside the name of a key. -/
theorem usable_of_parse_of_empty_device :
    ∃ c, parse "HostName=h;DeviceId=;SharedAccessKeyName=k;SharedAccessKey=YWJj" = .ok c ∧
      c.hostname ≠ "" ∧ (Base64.decode? c.key).isSome = true ∧
      (c.deviceId ≠ none ∨ c.keyName ≠ none) ∧
      (∃ entries, List.Forall₂ Gives
          (segments "HostName=h;DeviceId=;SharedAccessKeyName=k;SharedAccessKey=YWJj") entries ∧
        (IsGiven c.deviceId ∨ IsGiven c.keyName ↔
          IsGiven (lastValue entries .deviceId) ∨ IsGiven (lastValue entries .keyName))) ∧
      ∃ t, c.token 5 "a" 60 = .ok t ∧ t.expiry.toInt = 65 := by
  have read : parse "HostName=h;DeviceId=;SharedAccessKeyName=k;SharedAccessKey=YWJj" =
      .ok ⟨"h", some "", some "k", "YWJj", none, none⟩ := rfl
  obtain ⟨hhost, hdecodes, hnamed, hgiven, htokens⟩ := usable_of_parse read
  exact ⟨_, read, hhost, hdecodes, hnamed, hgiven, (htokens 5 "a" 60).2 (by decide) (by decide)⟩

/-- An empty name passes for a name. -/
theorem nameless_accepted :
    ∃ c, parse "HostName=h;DeviceId=;SharedAccessKey=YWJj" = .ok c ∧
      ¬(IsGiven c.deviceId ∨ IsGiven c.keyName) := by
  refine ⟨⟨"h", some "", none, "YWJj", none, none⟩, rfl, ?_⟩
  rintro (⟨text, hsome, hne⟩ | ⟨text, hsome, -⟩)
  · cases hsome
    exact hne rfl
  · cases hsome

end SharedAccess

/-! ### Passwords -/

lemma ConfigError.unless_bind_eq_ok {α : Type} {holds : Bool} {reason : String}
    {next : Unit → Except ConfigError α} {a : α}
    (h : (ConfigError.unless holds reason >>= next) = .ok a) : holds = true ∧ next () = .ok a := by
  cases holds with
  | true => exact ⟨rfl, h⟩
  | false => cases h

lemma MqttSection.tokenLifetime_pos {s : MqttSection} (valid : s.validate = .ok ()) :
    0 < s.tokenLifetime.toNat := by
  obtain ⟨-, valid⟩ := ConfigError.unless_bind_eq_ok valid
  obtain ⟨-, valid⟩ := ConfigError.unless_bind_eq_ok valid
  obtain ⟨-, valid⟩ := ConfigError.unless_bind_eq_ok valid
  obtain ⟨hlifetime, -⟩ := ConfigError.unless_bind_eq_ok valid
  have hne : s.tokenLifetime ≠ 0 := of_decide_eq_true hlifetime
  exact Nat.pos_of_ne_zero fun h => hne (UInt64.toNat_inj.1 h)

namespace Mqtt

variable {surroundings : Surroundings} {s : MqttSection} {settings : Settings} {c : SharedAccess}
  {now : Int64}

lemma Settings.tokenLifetime_ofSection (h : Settings.ofSection surroundings s = .ok settings) :
    settings.tokenLifetime = s.tokenLifetime := by
  unfold ofSection at h
  cases hfile : s.caFile with
  | none =>
    rw [hfile] at h
    cases h
    rfl
  | some path =>
    cases hread : readRoots surroundings path with
    | error e =>
      simp only [hfile, hread] at h
      cases h
    | ok roots =>
      simp only [hfile, hread] at h
      cases h
      rfl

namespace BrokerOptions

lemma ofCredentials_of_nameless (h : c.deviceId.getD "" = "") :
    ofCredentials now (.sharedAccess c) settings =
      .error (.error (.credentials "MQTT connections need device credentials with a DeviceId")) :=
  if_pos h

/-- A device's options fail as its token does. -/
lemma ofCredentials_of_error (h : c.deviceId.getD "" ≠ "") {e : Failure}
    (token : c.token now (Topic.deviceAudience c.hostname (c.deviceId.getD ""))
      settings.tokenLifetime = .error e) :
    ofCredentials now (.sharedAccess c) settings = .error e := by
  simp only [ofCredentials, Credentials.deviceId, Credentials.hostname, Credentials.token, if_neg h,
    token]
  rfl

lemma ofCredentials_of_token (h : c.deviceId.getD "" ≠ "") {t : Signature}
    (token : c.token now (Topic.deviceAudience c.hostname (c.deviceId.getD ""))
      settings.tokenLifetime = .ok t) :
    ∃ options, ofCredentials now (.sharedAccess c) settings = .ok options ∧
      options.password = t.text := by
  simp only [ofCredentials, Credentials.deviceId, Credentials.hostname, Credentials.token, if_neg h,
    token]
  cases settings.roots <;> exact ⟨_, rfl, rfl⟩

lemma ofCredentials_eq_ok {options : BrokerOptions}
    (h : ofCredentials now (.sharedAccess c) settings = .ok options) :
    c.deviceId.getD "" ≠ "" ∧ ∃ t : Signature,
      c.token now (Topic.deviceAudience c.hostname (c.deviceId.getD "")) settings.tokenLifetime =
        .ok t ∧ options.password = t.text := by
  by_cases hdevice : c.deviceId.getD "" = ""
  · rw [ofCredentials_of_nameless hdevice] at h
    cases h
  cases htoken : c.token now (Topic.deviceAudience c.hostname (c.deviceId.getD ""))
      settings.tokenLifetime with
  | error e =>
    rw [ofCredentials_of_error hdevice htoken] at h
    cases h
  | ok t =>
    obtain ⟨made, hmade, hpassword⟩ := ofCredentials_of_token hdevice htoken
    cases hmade.symm.trans h
    exact ⟨hdevice, t, rfl, hpassword⟩

lemma ofCredentials_eq_panic_iff : ofCredentials now (.sharedAccess c) settings = .error .panic ↔
    c.deviceId.getD "" ≠ "" ∧ settings.tokenLifetime.toNat < 2 ^ 63 ∧
      2 ^ 63 ≤ now.toInt + settings.tokenLifetime.toNat := by
  by_cases hdevice : c.deviceId.getD "" = ""
  · rw [ofCredentials_of_nameless hdevice]
    exact iff_of_false (by simp) fun h => h.1 hdevice
  rw [← c.token_eq_panic_iff (Topic.deviceAudience c.hostname (c.deviceId.getD ""))]
  cases htoken : c.token now (Topic.deviceAudience c.hostname (c.deviceId.getD ""))
      settings.tokenLifetime with
  | error failure =>
    rw [ofCredentials_of_error hdevice htoken]
    simp [hdevice]
  | ok t =>
    obtain ⟨options, hoptions, -⟩ := ofCredentials_of_token hdevice htoken
    rw [hoptions]
    simp

end BrokerOptions

open SharedAccess in
/-- Options for a section that is valid and for credentials that were read, as
`configure_mqtt_options` makes them: there are some exactly for a device whose lifetime and expiry
fit a signed number.  The password is a token then, good for the lifetime.  When the expiry does not
fit, the addition panics. -/
theorem password_expiry (valid : s.validate = .ok ())
    (resolved : Settings.ofSection surroundings s = .ok settings) {text : String}
    (read : parse text = .ok c) (now : Int64) :
    ((∃ options, BrokerOptions.ofCredentials now (.sharedAccess c) settings = .ok options) ↔
      c.deviceId.getD "" ≠ "" ∧ s.tokenLifetime.toNat < 2 ^ 63 ∧
        now.toInt + s.tokenLifetime.toNat < 2 ^ 63) ∧
    (BrokerOptions.ofCredentials now (.sharedAccess c) settings = .error .panic ↔
      c.deviceId.getD "" ≠ "" ∧ s.tokenLifetime.toNat < 2 ^ 63 ∧
        2 ^ 63 ≤ now.toInt + s.tokenLifetime.toNat) ∧
    ∀ options, BrokerOptions.ofCredentials now (.sharedAccess c) settings = .ok options →
      ∃ t : Signature, options.password = t.text ∧
        c.token now (Topic.deviceAudience c.hostname (c.deviceId.getD "")) s.tokenLifetime =
          .ok t ∧
        t.expiry.toInt = now.toInt + s.tokenLifetime.toNat ∧ t.isExpired now = false := by
  obtain ⟨-, -, -, hcomplete⟩ := parse_eq_ok_iff.1 read
  have hdecodes := hcomplete.key_decodes
  have hpos := MqttSection.tokenLifetime_pos valid
  rw [← Settings.tokenLifetime_ofSection resolved] at hpos ⊢
  refine ⟨⟨?_, ?_⟩, BrokerOptions.ofCredentials_eq_panic_iff, ?_⟩
  · rintro ⟨options, h⟩
    obtain ⟨hdevice, t, ht, -⟩ := BrokerOptions.ofCredentials_eq_ok h
    exact ⟨hdevice, (exists_token_iff hdecodes now _).1 ⟨t, ht⟩⟩
  · rintro ⟨hdevice, hfits⟩
    obtain ⟨t, ht⟩ := (exists_token_iff hdecodes now _).2 hfits
    obtain ⟨options, h, -⟩ := BrokerOptions.ofCredentials_of_token hdevice ht
    exact ⟨options, h⟩
  · intro options h
    obtain ⟨-, t, ht, hpassword⟩ := BrokerOptions.ofCredentials_eq_ok h
    obtain ⟨-, -, hexpiry⟩ := expiry_of_token ht
    refine ⟨t, hpassword, ht, hexpiry, Bool.eq_false_iff.2 fun hexpired => ?_⟩
    rw [Signature.isExpired_iff] at hexpired
    omega

def bare : Surroundings := ⟨fun _ => .error .notFound, fun _ => none⟩

/-- The longest lifetime at the first second of the clock. -/
theorem password_expiry_of_longest :
    ∃ settings c options, ∃ t : Signature,
      ({ tokenLifetime := 9223372036854775806 } : MqttSection).validate = .ok () ∧
      Settings.ofSection bare { tokenLifetime := 9223372036854775806 } = .ok settings ∧
      SharedAccess.parse "HostName=h;DeviceId=d;SharedAccessKey=YWJj" = .ok c ∧
      BrokerOptions.ofCredentials 1 (.sharedAccess c) settings = .ok options ∧
      options.password = t.text ∧ t.expiry.toInt = 9223372036854775807 ∧
      t.isExpired 1 = false := by
  have hvalid : ({ tokenLifetime := 9223372036854775806 } : MqttSection).validate = .ok () := rfl
  have hresolved : Settings.ofSection bare { tokenLifetime := 9223372036854775806 } =
      .ok ⟨8883, 60, "2020-09-30", 30, 9223372036854775806, none⟩ := rfl
  have hread : SharedAccess.parse "HostName=h;DeviceId=d;SharedAccessKey=YWJj" =
      .ok ⟨"h", some "d", none, "YWJj", none, none⟩ := rfl
  obtain ⟨hoptions, -, htokens⟩ := password_expiry hvalid hresolved hread 1
  obtain ⟨options, h⟩ := hoptions.2 ⟨by decide, by decide, by decide⟩
  obtain ⟨t, hpassword, -, hexpiry, hlive⟩ := htokens options h
  exact ⟨_, _, options, t, hvalid, hresolved, hread, h, hpassword, hexpiry, hlive⟩

/-- One second more, and the addition overflows. -/
theorem expiry_overflows :
    ∃ settings c,
      ({ tokenLifetime := 9223372036854775807 } : MqttSection).validate = .ok () ∧
      Settings.ofSection bare { tokenLifetime := 9223372036854775807 } = .ok settings ∧
      SharedAccess.parse "HostName=h;DeviceId=d;SharedAccessKey=YWJj" = .ok c ∧
      BrokerOptions.ofCredentials 1 (.sharedAccess c) settings = .error .panic := by
  have hresolved : Settings.ofSection bare { tokenLifetime := 9223372036854775807 } =
      .ok ⟨8883, 60, "2020-09-30", 30, 9223372036854775807, none⟩ := rfl
  have hread : SharedAccess.parse "HostName=h;DeviceId=d;SharedAccessKey=YWJj" =
      .ok ⟨"h", some "d", none, "YWJj", none, none⟩ := rfl
  exact ⟨_, _, rfl, hresolved, hread,
    BrokerOptions.ofCredentials_eq_panic_iff.2 ⟨by decide, by decide, by decide⟩⟩

end Mqtt
end DeviceHub
