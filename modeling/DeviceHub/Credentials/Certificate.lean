import DeviceHub.Error
import DeviceHub.Text.Split
import DeviceHub.Text.Utf8

/-!
`X509Credentials` and `ClientIdentity`: a certificate chain and a private key that a device shows
when its connection is set up, both as PEM text.
-/
namespace DeviceHub

structure ClientIdentity where
  certificate : Bytes
  privateKey : Bytes
  deriving DecidableEq

namespace ClientIdentity

def pemMark : List Char := "-----BEGIN ".toList

def looksLikePem (bytes : Bytes) : Bool :=
  Text.occursIn pemMark (Text.decodeLossyChars bytes)

/-- The certificate is looked at first. -/
def ofPem (certificate privateKey : Bytes) : HubResult ClientIdentity :=
  if !looksLikePem certificate then .error (.credentials "certificate is not PEM encoded")
  else if !looksLikePem privateKey then .error (.credentials "private key is not PEM encoded")
  else .ok ⟨certificate, privateKey⟩

def debugText (i : ClientIdentity) : String :=
  "ClientIdentity \x7b cert_len: " ++ toString i.certificate.length ++ ", .. \x7d"

end ClientIdentity

structure CertificateCredentials where
  deviceId : String
  hostname : String
  identity : ClientIdentity
  deriving DecidableEq

namespace CertificateCredentials

def ofIdentity (deviceId hostname : String) (identity : ClientIdentity) :
    HubResult CertificateCredentials :=
  if deviceId = "" then .error (.credentials "device id is empty")
  else if hostname = "" then .error (.credentials "hostname is empty")
  else .ok ⟨deviceId, hostname, identity⟩

def debugText (c : CertificateCredentials) : String :=
  "X509Credentials \x7b device_id: " ++ Text.quoted c.deviceId ++
    ", hostname: " ++ Text.quoted c.hostname ++
    ", identity: " ++ c.identity.debugText ++ " \x7d"

end CertificateCredentials
end DeviceHub
