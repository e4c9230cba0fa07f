import DeviceHub.Config
import DeviceHub.Credentials
import DeviceHub.Topic.Address

/-!
What a configuration stands for: the credentials of `resolve_credentials`, the `MqttSettings` with
the roots they trust, and the options that `configure_mqtt_options` makes of both.
-/
namespace DeviceHub

/-- A blank variable counts as missing. -/
def Credentials.ofVariable (surroundings : Surroundings) (name : String) : HubResult Credentials :=
  match (surroundings.variableNamed? name).filter fun text => !Text.isBlankText text with
  | none => .error (ConfigError.variableNotFound name).toHubError
  | some text => (SharedAccess.parse text).map .sharedAccess

def ClientIdentity.readFile (surroundings : Surroundings) (path : String) : HubResult Bytes :=
  match surroundings.readFile path with
  | .ok bytes => .ok bytes
  | .error reason =>
    .error (.credentials ("failed to read " ++ path ++ ": " ++ reason.message))

def CertificateFiles.credentials (surroundings : Surroundings) (f : CertificateFiles) :
    HubResult CertificateCredentials := do
  let certificate ← ClientIdentity.readFile surroundings f.certificate
  let privateKey ← ClientIdentity.readFile surroundings f.privateKey
  let identity ← ClientIdentity.ofPem certificate privateKey
  CertificateCredentials.ofIdentity f.deviceId f.hostname identity

/-- The connection string, else the certificate, else the variable. -/
def DeviceSection.credentials (surroundings : Surroundings) (s : DeviceSection) :
    HubResult Credentials :=
  match s.connectionString, s.certificate with
  | some text, _ => (SharedAccess.parse text).map .sharedAccess
  | none, some files => (files.credentials surroundings).map .certificate
  | none, none => Credentials.ofVariable surroundings s.connectionVariable

/-- Credentials of its own, else those of a variable. -/
structure ClientOptions where
  credentials : Option Credentials := none
  connectionVariable : String := ({} : DeviceSection).connectionVariable

def ClientOptions.resolve (surroundings : Surroundings) (o : ClientOptions) :
    HubResult Credentials :=
  match o.credentials with
  | some credentials => .ok credentials
  | none => Credentials.ofVariable surroundings o.connectionVariable

namespace Mqtt

/-- The roots are read; times are in seconds. -/
structure Settings where
  port : UInt16
  keepAlive : UInt64
  apiVersion : String
  connectTimeout : UInt64
  tokenLifetime : UInt64
  roots : Option Bytes
  deriving DecidableEq

def readRoots (surroundings : Surroundings) (path : String) : HubResult Bytes :=
  match surroundings.readFile path with
  | .ok bytes => .ok bytes
  | .error reason => .error (.config ("failed to read CA file " ++ path ++ ": " ++ reason.message))

def Settings.ofSection (surroundings : Surroundings) (s : MqttSection) : HubResult Settings := do
  let roots ←
    match s.caFile with
    | none => .ok none
    | some path => (readRoots surroundings path).map some
  return ⟨s.port, s.keepAlive, s.apiVersion, s.connectTimeout, s.tokenLifetime, roots⟩

inductive Security where
  | systemRoots
  /-- The given roots, with a certificate to show if there is one. -/
  | ownRoots (roots : Bytes) (identity : Option ClientIdentity)
  deriving DecidableEq

structure BrokerOptions where
  clientId : String
  hostname : String
  port : UInt16
  username : String
  password : String
  keepAlive : UInt64
  security : Security
  deriving DecidableEq

def maxPacket : Nat := 256 * 1024

/-- What `configure_mqtt_options` makes at a clock reading in seconds: the client goes by the
device's id, and its password is a token for the device, empty when a certificate proves who it is.
-/
def BrokerOptions.ofCredentials (now : Int64) (credentials : Credentials) (settings : Settings) :
    Checked BrokerOptions := do
  let device := credentials.deviceId
  let host := credentials.hostname
  if device = "" then
    .error (.error (.credentials "MQTT connections need device credentials with a DeviceId"))
  else
    let token ← credentials.token now (Topic.deviceAudience host device) settings.tokenLifetime
    let security ←
      match credentials.identity?, settings.roots with
      | none, none => Except.ok Security.systemRoots
      | identity, some roots => .ok (.ownRoots roots identity)
      | some _, none =>
        .error (.error (.config "certificate authentication over MQTT requires mqtt.ca_file"))
    return {
      clientId := device
      hostname := host
      port := settings.port
      username := Topic.username host device settings.apiVersion
      password := (token.map Signature.text).getD ""
      keepAlive := settings.keepAlive
      security }

end Mqtt
end DeviceHub
