import DeviceHub.Error
import DeviceHub.KeyMap
import DeviceHub.Text.Utf8

/-!
`Event`, what a device and its hub exchange, and the `SendOptions` of one.
-/
namespace DeviceHub

inductive Qos where
  | atMostOnce
  | atLeastOnce
  deriving DecidableEq, Inhabited

namespace Qos

/-- The hub knows two levels. -/
def ofLevel (level : Nat) : HubResult Qos :=
  match level with
  | 0 => .ok atMostOnce
  | 1 => .ok atLeastOnce
  | n =>
    .error (.invalidInput ("unsupported quality of service " ++ toString n ++
      ", only 0 and 1 are allowed"))

def level : Qos → Nat
  | atMostOnce => 0
  | atLeastOnce => 1

end Qos

structure Event where
  payload : Bytes
  messageId : Option String := none
  correlationId : Option String := none
  /-- Set on events that come in. -/
  destination : Option String := none
  properties : KeyMap String := []
  qos : Qos := .atLeastOnce
  deriving DecidableEq, Inhabited

def Event.text (e : Event) : String :=
  Text.decodeLossy e.payload

structure SendOptions where
  messageId : Option String := none
  correlationId : Option String := none
  properties : KeyMap String := []
  qos : Qos := .atLeastOnce
  deriving DecidableEq, Inhabited

namespace SendOptions

def isReserved (key : String) : Bool :=
  key.isEmpty || key.toList.head? == some '$'

def validate (o : SendOptions) : HubResult Unit :=
  if o.messageId = some "" then .error (.invalidInput "message id is empty")
  else if o.correlationId = some "" then .error (.invalidInput "correlation id is empty")
  else
    match (o.properties.map Prod.fst).find? isReserved with
    | some key =>
      .error (.invalidInput ("property name " ++ Text.quoted key ++ " is empty or reserved"))
    | none => .ok ()

def toEvent (o : SendOptions) (payload : Bytes) : HubResult Event :=
  o.validate.map fun _ =>
    { payload, messageId := o.messageId, correlationId := o.correlationId
      properties := o.properties, qos := o.qos }

end SendOptions
end DeviceHub
