import DeviceHub.Value

/-!
`Message`, what travels over the links of a session, and what every response carries: a numeric
status code, a description, and the id of the request it answers.
-/
namespace DeviceHub

/-- In nanoseconds of Unix time. -/
structure Instant where
  nanos : Int
  deriving DecidableEq, Inhabited

/-- Rounded down. -/
def Instant.millis (t : Instant) : Int :=
  t.nanos.fdiv 1000000

structure Message where
  value : Value := .null
  messageId : Option String := none
  correlationId : Option String := none
  destination : Option String := none
  replyTo : Option String := none
  applicationProperties : Mapping := []
  /-- When the broker enqueued it; only messages of partitions have it. -/
  enqueued : Option Instant := none
  deriving Inhabited

namespace Message

def statusCodeKey : String := "status-code"

def statusDescriptionKey : String := "status-description"

def statusOk : Int := 200

def withProperty (m : Message) (key : String) (value : Value) : Message :=
  { m with applicationProperties := m.applicationProperties.insert key value }

def responseTo (request : Message) (code : Int) (description : String) : Message :=
  { applicationProperties := KeyMap.ofList
      [(statusCodeKey, .int (Int64.ofInt code)), (statusDescriptionKey, .string description)]
    correlationId := request.messageId
    destination := request.replyTo }

/-- A number of 32 bits. -/
def statusCode (m : Message) : HubResult Int :=
  match m.applicationProperties.find? statusCodeKey with
  | none => .error (.decode "response has no status-code")
  | some value =>
    match value.asInt64 with
    | .error e => .error (.decode ("status-code: " ++ e.message))
    | .ok raw =>
      let code := raw.toInt
      if -Int.pow 2 31 ≤ code ∧ code < Int.pow 2 31 then .ok code
      else .error (.decode ("status-code " ++ toString code ++ " out of range"))

/-- Empty when there is none. -/
def statusDescription (m : Message) : String :=
  match m.applicationProperties.find? statusDescriptionKey with
  | some (.string s) => s
  | _ => ""

/-- Passes a response with status 200, as `check_response` does. -/
def checkStatus (m : Message) : HubResult Unit :=
  m.statusCode.bind fun code =>
    if code = statusOk then .ok () else .error (.status code m.statusDescription)

def checkCorrelation (expected : String) (m : Message) : HubResult Unit :=
  if m.correlationId = some expected then .ok ()
  else .error (.correlationMismatch expected m.correlationId)

end Message
end DeviceHub
