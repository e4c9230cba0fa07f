import DeviceHub.Config
import DeviceHub.Toml.Parser

/-!
`from_toml` and `load_from_file`: configurations from TOML documents.  Fields that are not known are
passed over.  A section may also be written as an array of its fields in order; then only fields at
its end that have a default may be left out.
-/
namespace DeviceHub.Config

def text? : Toml → Option String
  | .string s => some s
  | _ => none

def nat? (bound : Nat) : Toml → Option Nat
  | .integer i => if 0 ≤ i ∧ i ≤ bound then some i.toNat else none
  | _ => none

def uint16? (t : Toml) : Option UInt16 :=
  (nat? (Nat.pow 2 16 - 1) t).map UInt16.ofNat

def uint64? (t : Toml) : Option UInt64 :=
  (nat? (Nat.pow 2 64 - 1) t).map UInt64.ofNat

/-- The fields of a section, by name or by place. -/
inductive Fields where
  | named (fields : KeyMap Toml)
  | placed (items : List Toml)

/-- A date is a table of nothing that is known. -/
def Fields.of? : Toml → Option Fields
  | .inline fields | .table _ _ fields => some (named fields)
  | .array items => some (placed items)
  | .tables items => some (placed items.reverse)
  | .datetime => some (named [])
  | _ => none

def Fields.find? : Fields → String → Nat → Option Toml
  | named fields, name, _ => KeyMap.find? name fields
  | placed items, _, place => items[place]?

def Fields.required {α : Type} (f : Fields) (name : String) (place : Nat)
    (read? : Toml → Option α) : Option α :=
  (f.find? name place).bind read?

def Fields.orDefault {α : Type} (f : Fields) (name : String) (place : Nat)
    (read? : Toml → Option α) (default : α) : Option α :=
  match f.find? name place with
  | none => some default
  | some t => read? t

/-- A field that may be missing, though not from an array. -/
def Fields.optional {α : Type} (f : Fields) (name : String) (place : Nat)
    (read? : Toml → Option α) : Option (Option α) :=
  match f, f.find? name place with
  | named _, none => some none
  | placed _, none => none
  | _, some t => (read? t).map some

def certificate? (t : Toml) : Option CertificateFiles := do
  let f ← Fields.of? t
  let deviceId ← f.required "device_id" 0 text?
  let hostname ← f.required "hostname" 1 text?
  let certificate ← f.required "cert_file" 2 text?
  let privateKey ← f.required "key_file" 3 text?
  return ⟨deviceId, hostname, certificate, privateKey⟩

def device? (t : Toml) : Option DeviceSection := do
  let f ← Fields.of? t
  let blank : DeviceSection := {}
  let connectionString ← f.optional "connection_string" 0 text?
  let fallback ← f.orDefault "connection_string_env" 1 text? blank.connectionVariable
  let certificate ← f.optional "x509" 2 certificate?
  return ⟨connectionString, fallback, certificate⟩

def mqtt? (t : Toml) : Option MqttSection := do
  let f ← Fields.of? t
  let blank : MqttSection := {}
  let port ← f.orDefault "port" 0 uint16? blank.port
  let keepAlive ← f.orDefault "keep_alive_secs" 1 uint64? blank.keepAlive
  let apiVersion ← f.orDefault "api_version" 2 text? blank.apiVersion
  let caFile ← f.optional "ca_file" 3 text?
  let connectTimeout ← f.orDefault "connect_timeout_secs" 4 uint64? blank.connectTimeout
  let tokenLifetime ← f.orDefault "token_lifetime_secs" 5 uint64? blank.tokenLifetime
  return ⟨port, keepAlive, apiVersion, caFile, connectTimeout, tokenLifetime⟩

def eventHub? (t : Toml) : Option EventHubSection := do
  let f ← Fields.of? t
  let hostname ← f.required "hostname" 0 text?
  let name ← f.required "name" 1 text?
  let consumerGroup ← f.orDefault "consumer_group" 2 text? defaultConsumerGroup
  return ⟨hostname, name, consumerGroup⟩

def tokens? (t : Toml) : Option TokenSection := do
  let f ← Fields.of? t
  let blank : TokenSection := {}
  let renewalInterval ← f.orDefault "renewal_interval_secs" 0 uint64? blank.renewalInterval
  let tokenType ← f.orDefault "token_type" 1 text? blank.tokenType
  return ⟨renewalInterval, tokenType⟩

def sections? (t : Toml) : Option HubConfig := do
  let f ← Fields.of? t
  let device ← f.orDefault "device" 0 device? {}
  let mqtt ← f.orDefault "mqtt" 1 mqtt? {}
  let eventhub ← f.optional "eventhub" 2 eventHub?
  let tokens ← f.orDefault "tokens" 3 tokens? {}
  return ⟨device, mqtt, eventhub, tokens⟩

def ofToml (source : String) : Except ConfigError HubConfig :=
  match (Toml.parse? source).bind sections? with
  | none => .error (.malformed Toml.malformed)
  | some config => config.validate.map fun _ => config

def load (surroundings : Surroundings) (path : String) : Except ConfigError HubConfig :=
  match surroundings.readText path with
  | .error reason => .error (.unreadable reason)
  | .ok source => ofToml source

end DeviceHub.Config
