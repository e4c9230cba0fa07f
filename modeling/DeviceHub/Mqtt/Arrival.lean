import DeviceHub.Text.Utf8

/-!
What is polled from the event loop of a connection, and how `route_event` sorts it.
-/
namespace DeviceHub.Mqtt

/-- The return codes of a connection acknowledgement. -/
inductive ConnectCode where
  | success
  | refusedProtocolVersion
  | badClientId
  | serviceUnavailable
  | badUserNamePassword
  | notAuthorized
  deriving DecidableEq

def ConnectCode.name : ConnectCode → String
  | success => "Success"
  | refusedProtocolVersion => "RefusedProtocolVersion"
  | badClientId => "BadClientId"
  | serviceUnavailable => "ServiceUnavailable"
  | badUserNamePassword => "BadUserNamePassword"
  | notAuthorized => "NotAuthorized"

def ConnectCode.all : List ConnectCode :=
  [success, refusedProtocolVersion, badClientId, serviceUnavailable, badUserNamePassword,
    notAuthorized]

def ConnectCode.ofName? (name : String) : Option ConnectCode :=
  all.find? fun code => code.name == name

inductive Report where
  | acknowledged (code : ConnectCode)
  | published (topic : String) (payload : Bytes)
  /-- The broker ends the connection. -/
  | disconnect
  | pingRequest
  | pingResponse
  /-- This side ended the connection. -/
  | sentDisconnect
  | sentPing
  | sentPublish
  | sentSubscribe
  deriving DecidableEq

inductive Arrival where
  | acknowledged (code : ConnectCode)
  | published (topic : String) (payload : Bytes)
  | disconnected
  | other
  deriving DecidableEq

def Arrival.ofReport : Report → Arrival
  | .acknowledged code => acknowledged code
  | .published topic payload => published topic payload
  | .disconnect | .sentDisconnect => disconnected
  | _ => other

end DeviceHub.Mqtt
