import DeviceHub.Link
import DeviceHub.Redaction
import DeviceHub.Surroundings
import DeviceHub.Text.Outline

/-!
`HubConfig` and its sections: their defaults, what `validate` asks of each, and their debug texts,
in which the secrets of a connection string do not show.
-/
namespace DeviceHub

/-- Why there is no configuration. -/
inductive ConfigError where
  | unreadable (reason : FileError)
  | malformed (reason : String)
  | variableNotFound (name : String)
  | invalid (reason : String)
  deriving DecidableEq

def ConfigError.message : ConfigError → String
  | unreadable reason => "Failed to read config file: " ++ reason.message
  | malformed reason => "Failed to parse TOML: " ++ reason
  | variableNotFound name => "Environment variable not found: " ++ name
  | invalid reason => "Invalid configuration: " ++ reason

def ConfigError.toHubError (e : ConfigError) : HubError :=
  .config e.message

/-- Passes when a condition holds. -/
def ConfigError.unless (holds : Bool) (reason : String) : Except ConfigError Unit :=
  if holds then .ok () else .error (.invalid reason)

structure CertificateFiles where
  deviceId : String
  hostname : String
  certificate : String
  privateKey : String
  deriving DecidableEq

structure DeviceSection where
  /-- Comes before every other source. -/
  connectionString : Option String := none
  /-- The variable looked at when nothing else is given. -/
  connectionVariable : String := "IOTHUB_DEVICE_CONNECTION_STRING"
  certificate : Option CertificateFiles := none
  deriving DecidableEq

/-- Times are in seconds. -/
structure MqttSection where
  port : UInt16 := 8883
  keepAlive : UInt64 := 60
  apiVersion : String := "2020-09-30"
  /-- Without a file the roots of the system are trusted. -/
  caFile : Option String := none
  connectTimeout : UInt64 := 30
  /-- How long the token that is the password is good for. -/
  tokenLifetime : UInt64 := 3600
  deriving DecidableEq

structure EventHubSection where
  hostname : String
  name : String
  consumerGroup : String := defaultConsumerGroup
  deriving DecidableEq

structure TokenSection where
  /-- In seconds. -/
  renewalInterval : UInt64 := 3600
  tokenType : String := "servicebus.windows.net:sastoken"
  deriving DecidableEq

structure HubConfig where
  device : DeviceSection := {}
  mqtt : MqttSection := {}
  eventhub : Option EventHubSection := none
  tokens : TokenSection := {}
  deriving DecidableEq

/-! ### Conditions -/

def MqttSection.validate (s : MqttSection) : Except ConfigError Unit := do
  ConfigError.unless (s.port ≠ 0) "mqtt.port must be non-zero"
  ConfigError.unless (5 ≤ s.keepAlive) "mqtt.keep_alive_secs must be at least 5"
  ConfigError.unless (s.connectTimeout ≠ 0) "mqtt.connect_timeout_secs must be positive"
  ConfigError.unless (s.tokenLifetime ≠ 0) "mqtt.token_lifetime_secs must be positive"
  ConfigError.unless (!Text.isBlankText s.apiVersion) "mqtt.api_version is empty"

def EventHubSection.validate (s : EventHubSection) : Except ConfigError Unit := do
  ConfigError.unless (!Text.isBlankText s.hostname) "eventhub.hostname is empty"
  ConfigError.unless (!Text.isBlankText s.name) "eventhub.name is empty"
  ConfigError.unless (!Text.isBlankText s.consumerGroup) "eventhub.consumer_group is empty"

def TokenSection.validate (s : TokenSection) : Except ConfigError Unit := do
  ConfigError.unless (s.renewalInterval ≠ 0) "tokens.renewal_interval_secs must be positive"
  ConfigError.unless (!Text.isBlankText s.tokenType) "tokens.token_type is empty"

/-- The first section that does not meet its conditions is reported. -/
def HubConfig.validate (c : HubConfig) : Except ConfigError Unit := do
  c.mqtt.validate
  c.tokens.validate
  match c.eventhub with
  | some eventhub => eventhub.validate
  | none => .ok ()
  ConfigError.unless (!Text.isBlankText c.device.connectionVariable)
    "device.connection_string_env is empty"

/-! ### Texts for logs -/

def CertificateFiles.outline (f : CertificateFiles) : Outline :=
  .record "X509Section"
    [("device_id", .text f.deviceId), ("hostname", .text f.hostname),
      ("cert_file", .path f.certificate), ("key_file", .path f.privateKey)]

/-- The secrets of the connection string are hidden. -/
def DeviceSection.outline (s : DeviceSection) : Outline :=
  .record "DeviceSection"
    [("connection_string",
        .optional (s.connectionString.map fun text => .text (Redaction.redact text))),
      ("connection_string_env", .text s.connectionVariable),
      ("x509", .optional (s.certificate.map CertificateFiles.outline))]

def MqttSection.outline (s : MqttSection) : Outline :=
  .record "MqttSection"
    [("port", .nat s.port.toNat), ("keep_alive_secs", .nat s.keepAlive.toNat),
      ("api_version", .text s.apiVersion), ("ca_file", .optional (s.caFile.map .path)),
      ("connect_timeout_secs", .nat s.connectTimeout.toNat),
      ("token_lifetime_secs", .nat s.tokenLifetime.toNat)]

def EventHubSection.outline (s : EventHubSection) : Outline :=
  .record "EventHubSection"
    [("hostname", .text s.hostname), ("name", .text s.name),
      ("consumer_group", .text s.consumerGroup)]

def TokenSection.outline (s : TokenSection) : Outline :=
  .record "TokenSection"
    [("renewal_interval_secs", .nat s.renewalInterval.toNat), ("token_type", .text s.tokenType)]

def HubConfig.outline (c : HubConfig) : Outline :=
  .record "HubConfig"
    [("device", c.device.outline), ("mqtt", c.mqtt.outline),
      ("eventhub", .optional (c.eventhub.map EventHubSection.outline)),
      ("tokens", c.tokens.outline)]

end DeviceHub
