import DeviceHub.Json.Parser
import DeviceHub.Json.Printer

/-!
The twin of a device: the desired and the reported state, each stamped with a `$version` by the hub.
-/
namespace DeviceHub

/-- A snapshot of the desired or the reported half. -/
structure TwinState where
  properties : Mapping
  deriving Inhabited

namespace TwinState

def versionKey : String := "$version"

def ofJson (payload : Bytes) : HubResult TwinState :=
  ((Value.ofJson payload).bind Value.asMapping).map TwinState.mk

def toJson (s : TwinState) : Bytes :=
  (Value.mapping s.properties).toJson

def version (s : TwinState) : HubResult Int64 :=
  match s.properties.find? versionKey with
  | none => .error (.decode "twin state has no $version")
  | some value =>
    match value.asInt64 with
    | .ok i => .ok i
    | .error e => .error (.decode ("$version: " ++ e.message))

/-- A null marks the key for removal on update. -/
def withProperty (s : TwinState) (key : String) (value : Value) : TwinState :=
  ⟨s.properties.insert key value⟩

end TwinState

namespace Twin

/-- A half that is missing is empty. -/
def half (root : Mapping) (name : String) : HubResult TwinState :=
  match root.find? name with
  | none => .ok ⟨[]⟩
  | some value =>
    match value.asMapping with
    | .ok fields => .ok ⟨fields⟩
    | .error e => .error (.decode (name ++ ": " ++ e.message))

/-- The desired and the reported half. -/
def splitDocument (document : Bytes) : HubResult (TwinState × TwinState) := do
  let root ← (← Value.ofJson document).asMapping
  let desired ← half root "desired"
  let reported ← half root "reported"
  return (desired, reported)

def document (desired reported : Mapping) : Bytes :=
  (Value.mapping (KeyMap.ofList
    [("desired", .mapping desired), ("reported", .mapping reported)])).toJson

/-- A null removes the key, anything else replaces its value. -/
def mergeEntry (state : Mapping) (entry : String × Value) : Mapping :=
  if entry.2.isNull then state.erase entry.1 else state.insert entry.1 entry.2

def merge (state patch : Mapping) : Mapping :=
  patch.foldl mergeEntry state

end Twin
end DeviceHub
