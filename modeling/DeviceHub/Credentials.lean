import DeviceHub.Credentials.Certificate
import DeviceHub.Credentials.SharedAccess

/-!
`Credentials` of either kind.  A client asks them for a device id, a hostname, a token and a client
identity and does not look at the kind.
-/
namespace DeviceHub

inductive Credentials where
  | sharedAccess (c : SharedAccess)
  | certificate (c : CertificateCredentials)
  deriving DecidableEq

namespace Credentials

/-- Empty for the credentials of a service. -/
def deviceId : Credentials → String
  | sharedAccess c => c.deviceId.getD ""
  | certificate c => c.deviceId

def hostname : Credentials → String
  | sharedAccess c => c.hostname
  | certificate c => c.hostname

/-- Certificates issue none. -/
def token (c : Credentials) (now : Int64) (audience : String) (lifetime : UInt64) :
    Checked (Option Signature) :=
  match c with
  | sharedAccess c => (c.token now audience lifetime).map some
  | certificate _ => .ok none

def identity? : Credentials → Option ClientIdentity
  | sharedAccess _ => none
  | certificate c => some c.identity

end Credentials
end DeviceHub
