import DeviceHub.Credentials.SharedAccess
import Mathlib.Data.List.Forall2

/-!
What `parse` of `SasCredentials` makes of a connection string.  Every segment gives a value to one
field, and the last value of a field counts.  A string is accepted exactly when each of its segments
gives a value and the fields are complete in the end; the credentials are made of these last values.
-/
namespace DeviceHub.SharedAccess

/-- The fields of a connection string. -/
inductive Slot where
  | hostname
  | deviceId
  | keyName
  | key
  | audience
  | entityPath
  deriving DecidableEq

def Slot.name : Slot → String
  | hostname => "HostName"
  | deviceId => "DeviceId"
  | keyName => "SharedAccessKeyName"
  | key => "SharedAccessKey"
  | audience => "Audience"
  | entityPath => "EntityPath"

structure Entry where
  slot : Slot
  value : String
  deriving DecidableEq

/-- What a segment gives: a value for the field it names, or the host that an address names. -/
inductive Gives (segment : String) : Entry → Prop
  | field {name value : String} (slot : Slot)
      (cut : Text.cutOnce? '=' segment = some (name, value)) (named : Text.trim name = slot.name) :
      Gives segment ⟨slot, Text.trim value⟩
  | endpoint {name value host : String} (cut : Text.cutOnce? '=' segment = some (name, value))
      (named : Text.trim name = "Endpoint")
      (host_eq : Endpoint.host? (Text.trim value) = some (some host)) :
      Gives segment ⟨.hostname, host⟩

def lastValue (entries : List Entry) (slot : Slot) : Option String :=
  (entries.filterMap fun e => if e.slot = slot then some e.value else none).getLast?

lemma lastValue_cons (e : Entry) (entries : List Entry) (slot : Slot) :
    lastValue (e :: entries) slot =
      (lastValue entries slot).or (if e.slot = slot then some e.value else none) := by
  unfold lastValue
  by_cases h : e.slot = slot
  · rw [List.filterMap_cons_some (b := e.value) (by rw [if_pos h]), List.getLast?_cons, if_pos h]
    cases List.getLast? _ <;> rfl
  · rw [List.filterMap_cons_none (by rw [if_neg h]), if_neg h, Option.or_none]

/-! ### Fields -/

namespace Fields

def get (fields : Fields) : Slot → Option String
  | .hostname => fields.hostname
  | .deviceId => fields.deviceId
  | .keyName => fields.keyName
  | .key => fields.key
  | .audience => fields.audience
  | .entityPath => fields.entityPath

def put (fields : Fields) (e : Entry) : Fields :=
  match e.slot with
  | .hostname => { fields with hostname := some e.value }
  | .deviceId => { fields with deviceId := some e.value }
  | .keyName => { fields with keyName := some e.value }
  | .key => { fields with key := some e.value }
  | .audience => { fields with audience := some e.value }
  | .entityPath => { fields with entityPath := some e.value }

@[simp] lemma get_put (fields : Fields) (e : Entry) (slot : Slot) :
    (fields.put e).get slot = if e.slot = slot then some e.value else fields.get slot := by
  obtain ⟨own, value⟩ := e
  cases own <;> cases slot <;> rfl

@[simp] lemma get_empty (slot : Slot) : ({} : Fields).get slot = none := by
  cases slot <;> rfl

/-- After some entries a field has its last value, else the one it had before. -/
lemma get_foldl_put (entries : List Entry) (fields : Fields) (slot : Slot) :
    (entries.foldl put fields).get slot = (lastValue entries slot).or (fields.get slot) := by
  induction entries generalizing fields with
  | nil => rfl
  | cons e entries ih =>
    rw [List.foldl_cons, ih, get_put, lastValue_cons, Option.or_assoc]
    congr 1
    split <;> rfl

lemma set_name (fields : Fields) (slot : Slot) (value : String) :
    fields.set slot.name value = .ok (fields.put ⟨slot, value⟩) := by
  cases slot <;> rfl

lemma set_endpoint (fields : Fields) (value : String) :
    fields.set "Endpoint" value =
      (endpointHost value).map fun host => fields.put ⟨.hostname, host⟩ :=
  rfl

lemma set_of_unknown {name : String} (hslot : ∀ slot, name ≠ Slot.name slot)
    (hendpoint : name ≠ "Endpoint") (fields : Fields) (value : String) :
    fields.set name value =
      .error (.credentials ("unsupported connection string key " ++ Text.quoted name)) :=
  (if_neg (hslot .hostname)).trans <| (if_neg hendpoint).trans <|
    (if_neg (hslot .deviceId)).trans <| (if_neg (hslot .keyName)).trans <|
    (if_neg (hslot .key)).trans <| (if_neg (hslot .audience)).trans <| if_neg (hslot .entityPath)

lemma endpointHost_eq_ok_iff {value host : String} :
    endpointHost value = .ok host ↔ Endpoint.host? value = some (some host) := by
  rw [endpointHost]
  split
  next hvalue => simp [hvalue]
  next hvalue => simp [hvalue]
  next hvalue => simp [hvalue]

/-- A value is put into the field of its name, and only known names are taken. -/
lemma set_eq_ok {fields fields' : Fields} {name value : String}
    (h : fields.set name value = .ok fields') :
    (∃ slot, name = Slot.name slot ∧ fields' = fields.put ⟨slot, value⟩) ∨
      ∃ host, name = "Endpoint" ∧ Endpoint.host? value = some (some host) ∧
        fields' = fields.put ⟨.hostname, host⟩ := by
  by_cases hslot : ∃ slot, name = Slot.name slot
  · obtain ⟨slot, rfl⟩ := hslot
    rw [set_name] at h
    cases h
    exact .inl ⟨slot, rfl, rfl⟩
  by_cases hendpoint : name = "Endpoint"
  · subst hendpoint
    rw [set_endpoint] at h
    cases hhost : endpointHost value with
    | error e =>
      rw [hhost] at h
      cases h
    | ok host =>
      rw [hhost] at h
      cases h
      exact .inr ⟨host, rfl, endpointHost_eq_ok_iff.1 hhost, rfl⟩
  · rw [set_of_unknown (not_exists.1 hslot) hendpoint] at h
    cases h

lemma read_eq_ok_iff {fields fields' : Fields} {segment : String} :
    fields.read segment = .ok fields' ↔ ∃ e, Gives segment e ∧ fields' = fields.put e := by
  constructor
  · intro h
    unfold read at h
    split at h
    next => cases h
    next name value hcut =>
      obtain ⟨slot, hname, rfl⟩ | ⟨host, hname, hhost, rfl⟩ := set_eq_ok h
      · exact ⟨_, .field slot hcut hname, rfl⟩
      · exact ⟨_, .endpoint hcut hname hhost, rfl⟩
  · rintro ⟨e, hgives, rfl⟩
    cases hgives with
    | field slot hcut hname =>
      simp only [read, hcut]
      rw [hname, set_name]
    | endpoint hcut hname hhost =>
      simp only [read, hcut]
      rw [hname, set_endpoint, endpointHost_eq_ok_iff.2 hhost]
      rfl

/-- Reading segments takes over what they give, one after the other. -/
lemma foldlM_read_eq_ok_iff {segments : List String} {fields fields' : Fields} :
    segments.foldlM read fields = .ok fields' ↔
      ∃ entries, List.Forall₂ Gives segments entries ∧ fields' = entries.foldl put fields := by
  induction segments generalizing fields with
  | nil =>
    constructor
    · rintro ⟨⟩
      exact ⟨[], .nil, rfl⟩
    · rintro ⟨entries, ⟨⟩, rfl⟩
      rfl
  | cons segment segments ih =>
    rw [List.foldlM_cons]
    constructor
    · intro h
      cases hread : fields.read segment with
      | error e =>
        rw [hread] at h
        cases h
      | ok next =>
        rw [hread] at h
        obtain ⟨e, hgives, rfl⟩ := read_eq_ok_iff.1 hread
        obtain ⟨entries, hentries, rfl⟩ := ih.1 h
        exact ⟨e :: entries, .cons hgives hentries, rfl⟩
    · rintro ⟨entries, hentries, rfl⟩
      cases hentries with
      | cons hgives hrest =>
        rw [read_eq_ok_iff.2 ⟨_, hgives, rfl⟩]
        exact ih.2 ⟨_, hrest, rfl⟩

end Fields

/-! ### Credentials -/

def get (c : SharedAccess) : Slot → Option String
  | .hostname => some c.hostname
  | .deviceId => c.deviceId
  | .keyName => c.keyName
  | .key => some c.key
  | .audience => c.audience
  | .entityPath => c.entityPath

/-- The fields that a connection string must give: a host, a key in base64, and a device or the name
of the key. -/
structure IsComplete (c : SharedAccess) : Prop where
  hostname_ne : c.hostname ≠ ""
  key_ne : c.key ≠ ""
  key_decodes : (Base64.decode? c.key).isSome = true
  named : c.deviceId.isSome = true ∨ c.keyName.isSome = true

lemma Fields.finish_eq_ok_iff {fields : Fields} {c : SharedAccess} :
    fields.finish = .ok c ↔ (∀ slot, fields.get slot = c.get slot) ∧ c.IsComplete := by
  constructor
  · intro h
    unfold finish at h
    split at h
    next => cases h
    next hostname hhost =>
      split at h
      next => cases h
      next key hkey =>
        split at h
        next => cases h
        next hnamed =>
          split at h
          next => cases h
          next hdecodes =>
            cases h
            obtain ⟨hhost, hhostne⟩ := Option.filter_eq_some_iff.1 hhost
            obtain ⟨hkey, hkeyne⟩ := Option.filter_eq_some_iff.1 hkey
            simp only [Option.isNone_iff_eq_none, not_and_or] at hnamed hdecodes
            refine ⟨fun slot => ?_, of_decide_eq_true hhostne, of_decide_eq_true hkeyne,
              Option.isSome_iff_ne_none.2 hdecodes,
              hnamed.imp Option.isSome_iff_ne_none.2 Option.isSome_iff_ne_none.2⟩
            cases slot
            exacts [hhost, rfl, rfl, hkey, rfl, rfl]
  · rintro ⟨hfields, hcomplete⟩
    have hhost : fields.hostname.filter (· ≠ "") = some c.hostname :=
      Option.filter_eq_some_iff.2 ⟨hfields .hostname, decide_eq_true hcomplete.hostname_ne⟩
    have hkey : fields.key.filter (· ≠ "") = some c.key :=
      Option.filter_eq_some_iff.2 ⟨hfields .key, decide_eq_true hcomplete.key_ne⟩
    have hdevice : fields.deviceId = c.deviceId := hfields .deviceId
    have hkeyName : fields.keyName = c.keyName := hfields .keyName
    have haudience : fields.audience = c.audience := hfields .audience
    have hpath : fields.entityPath = c.entityPath := hfields .entityPath
    have hnamed : ¬(c.deviceId.isNone = true ∧ c.keyName.isNone = true) := by
      simp only [Option.isNone_iff_eq_none, not_and_or]
      exact hcomplete.named.imp Option.isSome_iff_ne_none.1 Option.isSome_iff_ne_none.1
    have hdecodes : ¬(Base64.decode? c.key).isNone = true := by
      rw [Option.isNone_iff_eq_none]
      exact Option.isSome_iff_ne_none.1 hcomplete.key_decodes
    simp only [finish, hhost, hkey, hdevice, hkeyName, haudience, hpath]
    rw [if_neg hnamed, if_neg hdecodes]

/-- A connection string is accepted when every segment gives a value and the last values make
complete credentials. -/
theorem parse_eq_ok_iff {text : String} {c : SharedAccess} :
    parse text = .ok c ↔
      ∃ entries, List.Forall₂ Gives (segments text) entries ∧
        (∀ slot, lastValue entries slot = c.get slot) ∧ c.IsComplete := by
  have hget (entries : List Entry) (slot : Slot) :
      (entries.foldl Fields.put {}).get slot = lastValue entries slot := by
    rw [Fields.get_foldl_put, Fields.get_empty, Option.or_none]
  constructor
  · intro h
    unfold parse at h
    cases hread : (segments text).foldlM Fields.read {} with
    | error e =>
      rw [hread] at h
      cases h
    | ok fields =>
      rw [hread] at h
      obtain ⟨entries, hentries, rfl⟩ := Fields.foldlM_read_eq_ok_iff.1 hread
      obtain ⟨hfields, hcomplete⟩ := Fields.finish_eq_ok_iff.1 h
      exact ⟨entries, hentries, fun slot => (hget entries slot).symm.trans (hfields slot),
        hcomplete⟩
  · rintro ⟨entries, hentries, hfields, hcomplete⟩
    rw [parse, Fields.foldlM_read_eq_ok_iff.2 ⟨entries, hentries, rfl⟩]
    exact Fields.finish_eq_ok_iff.2
      ⟨fun slot => (hget entries slot).trans (hfields slot), hcomplete⟩

end DeviceHub.SharedAccess
