import DeviceHub.Json.Parser
import DeviceHub.Json.Printer
import DeviceHub.Multiplexer

/-!
`Registry`: one handler per method name.  `invoke` encodes the outcome of a handler as a status and
a JSON body.
-/
namespace DeviceHub

abbrev Handler := Mapping → HubResult Mapping

abbrev Registry := KeyMap Handler

structure MethodReply where
  status : Int
  body : Bytes
  deriving DecidableEq

namespace MethodReply

def failure (status : Int) (reason : String) : MethodReply :=
  ⟨status, (Value.mapping [("error", .string reason)]).toJson⟩

def notFound : MethodReply :=
  failure 404 "method not found"

end MethodReply

namespace Registry

def isAsciiBlank (b : UInt8) : Bool :=
  b == 0x20 || b == 0x09 || b == 0x0A || b == 0x0C || b == 0x0D

/-- Blanks and null are an empty request. -/
def decodeRequest (payload : Bytes) : HubResult Mapping :=
  if payload.all isAsciiBlank then .ok []
  else
    (Value.ofJson payload).bind fun
      | .null => .ok []
      | other => other.asMapping

def invoke (method : String) (payload : Bytes) (r : Registry) : MethodReply :=
  match r.find? method with
  | none => .notFound
  | some handler =>
    match decodeRequest payload with
    | .error e => .failure 400 e.message
    | .ok request =>
      match handler request with
      | .ok response => ⟨200, (Value.mapping response).toJson⟩
      | .error e => .failure 500 e.message

instance : Dispatch Registry where
  closeAll _ _ := []

end Registry

namespace Multiplexer

/-- A name can be registered once. -/
def handle (name : String) (handler : Handler) (m : Multiplexer Registry) :
    HubResult (Multiplexer Registry) :=
  match m.closed with
  | some e => .error e
  | none =>
    match m.dispatch.find? name with
    | some _ => .error (.duplicateMethod name)
    | none => .ok { m with dispatch := m.dispatch.insert name handler }

def remove (name : String) (m : Multiplexer Registry) : Multiplexer Registry :=
  { m with dispatch := m.dispatch.erase name }

def isRegistered (name : String) (m : Multiplexer Registry) : Bool :=
  (m.dispatch.find? name).isSome

end Multiplexer
end DeviceHub
