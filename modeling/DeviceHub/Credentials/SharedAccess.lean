import DeviceHub.Credentials.Endpoint
import DeviceHub.Credentials.Signature
import DeviceHub.Text.Blank
import DeviceHub.Text.Split

/-!
`SasCredentials` and the connection strings that carry them: `Name=Value` segments between
semicolons, blanks around segments, names and values ignored, later segments of a name winning.
-/
namespace DeviceHub

structure SharedAccess where
  hostname : String
  deviceId : Option String
  keyName : Option String
  /-- In base64. -/
  key : String
  audience : Option String
  entityPath : Option String
  deriving DecidableEq

namespace SharedAccess

structure Fields where
  hostname : Option String := none
  deviceId : Option String := none
  keyName : Option String := none
  key : Option String := none
  audience : Option String := none
  entityPath : Option String := none

def endpointHost (endpoint : String) : HubResult String :=
  match Endpoint.host? endpoint with
  | none =>
    .error (.credentials
      ("invalid Endpoint " ++ Text.quoted endpoint ++ ": " ++ Endpoint.malformed))
  | some none => .error (.credentials ("Endpoint " ++ Text.quoted endpoint ++ " has no host"))
  | some (some host) => .ok host

def Fields.set (fields : Fields) (name value : String) : HubResult Fields :=
  if name = "HostName" then .ok { fields with hostname := some value }
  else if name = "Endpoint" then
    (endpointHost value).map fun host => { fields with hostname := some host }
  else if name = "DeviceId" then .ok { fields with deviceId := some value }
  else if name = "SharedAccessKeyName" then .ok { fields with keyName := some value }
  else if name = "SharedAccessKey" then .ok { fields with key := some value }
  else if name = "Audience" then .ok { fields with audience := some value }
  else if name = "EntityPath" then .ok { fields with entityPath := some value }
  else .error (.credentials ("unsupported connection string key " ++ Text.quoted name))

def Fields.read (fields : Fields) (segment : String) : HubResult Fields :=
  match Text.cutOnce? '=' segment with
  | none => .error (.credentials ("malformed connection string segment " ++ Text.quoted segment))
  | some (name, value) => fields.set (Text.trim name) (Text.trim value)

/-- The credentials, when the fields that are needed are there. -/
def Fields.finish (fields : Fields) : HubResult SharedAccess :=
  match fields.hostname.filter (· ≠ "") with
  | none => .error (.credentials "connection string has no HostName or Endpoint")
  | some hostname =>
    match fields.key.filter (· ≠ "") with
    | none => .error (.credentials "connection string has no SharedAccessKey")
    | some key =>
      if fields.deviceId.isNone ∧ fields.keyName.isNone then
        .error (.credentials "connection string needs a DeviceId or a SharedAccessKeyName")
      else if (Base64.decode? key).isNone then .error Signature.badKey
      else
        .ok ⟨hostname, fields.deviceId, fields.keyName, key, fields.audience, fields.entityPath⟩

def segments (connectionString : String) : List String :=
  ((Text.splitOnChar ';' connectionString).map Text.trim).filter (· ≠ "")

def parse (connectionString : String) : HubResult SharedAccess :=
  ((segments connectionString).foldlM Fields.read {}).bind Fields.finish

def withAudience (c : SharedAccess) (audience : String) : SharedAccess :=
  { c with audience := some audience }

/-- The clock is read in seconds.  Only the lifetime is checked to be a signed number; the
sum of both may still overflow. -/
def token (c : SharedAccess) (now : Int64) (audience : String) (lifetime : UInt64) :
    Checked Signature :=
  if Nat.pow 2 63 ≤ lifetime.toNat then
    .error (.error (.invalidInput "token lifetime is too long"))
  else do
    let expiry ← Checked.add now (Int64.ofNat lifetime.toNat)
    Checked.ofResult (Signature.generate (c.audience.getD audience) c.key c.keyName expiry)

/-- The key does not show. -/
def debugText (c : SharedAccess) : String :=
  "SasCredentials \x7b hostname: " ++ Text.quoted c.hostname ++
    ", device_id: " ++ Text.quotedOption c.deviceId ++
    ", key_name: " ++ Text.quotedOption c.keyName ++
    ", audience: " ++ Text.quotedOption c.audience ++ ", .. \x7d"

end SharedAccess
end DeviceHub
