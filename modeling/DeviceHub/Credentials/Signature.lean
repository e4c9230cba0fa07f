import DeviceHub.Digest.Sha256
import DeviceHub.Error
import DeviceHub.Text.Base64
import DeviceHub.Text.Percent

/-!
`SharedAccessSignature`: a token that grants a resource until an expiry, proved by a keyed digest of
both.
-/
namespace DeviceHub

/-- The expiry counts seconds of Unix time. -/
structure Signature where
  resource : String
  signature : String
  expiry : Int64
  keyName : Option String
  deriving DecidableEq

namespace Signature

/-- The resource and the expiry, on a line each. -/
def stringToSign (resource : String) (expiry : Int64) : String :=
  Text.percentEncode resource ++ "\n" ++ toString expiry.toInt

def badKey : HubError :=
  .credentials ("shared access key is not base64: " ++ Base64.malformed)

def generate (resource key : String) (keyName : Option String) (expiry : Int64) :
    HubResult Signature :=
  match Base64.decode? key with
  | none => .error badKey
  | some keyBytes =>
    let digest := Digest.hmacSha256 keyBytes (Text.encode (stringToSign resource expiry))
    .ok ⟨resource, Base64.encode digest, expiry, keyName⟩

def isExpired (now : Int64) (s : Signature) : Bool :=
  s.expiry ≤ now

def text (s : Signature) : String :=
  "SharedAccessSignature sr=" ++ Text.percentEncode s.resource ++
    "&sig=" ++ Text.percentEncode s.signature ++
    "&se=" ++ toString s.expiry.toInt ++
    match s.keyName with
    | none => ""
    | some name => "&skn=" ++ Text.percentEncode name

/-- The secret part does not show. -/
def debugText (s : Signature) : String :=
  "SharedAccessSignature \x7b resource: " ++ Text.quoted s.resource ++
    ", expiry: " ++ toString s.expiry.toInt ++
    ", key_name: " ++ Text.quotedOption s.keyName ++ ", .. \x7d"

end Signature
end DeviceHub
