import DeviceHub.Text.Integer
import DeviceHub.Topic.Address
import DeviceHub.Topic.Properties

/-!
`route_publish`: what an inbound publish means, told by its topic alone.
-/
namespace DeviceHub

structure TwinResponse where
  requestId : String
  /-- A number of 32 bits. -/
  status : Int
  version : Option Int64
  payload : Bytes
  deriving DecidableEq

inductive Inbound where
  | cloudToDevice (event : Event)
  | methodCall (method requestId : String) (payload : Bytes)
  | twinResponse (response : TwinResponse)
  | twinDesired (payload : Bytes)
  | unknown
  deriving DecidableEq

namespace Topic

def trimSlashes (s : String) : String :=
  String.ofList ((s.toList.reverse.dropWhile (· == '/')).reverse)

/-- The path before the first question mark and the query after it. -/
def splitQuery (s : String) : String × String :=
  let (path, query) := (Text.cutOnce? '?' s).getD (s, "")
  (trimSlashes path, query)

def requestIdKey : String := "$rid"

def versionKey : String := "$version"

/-- From what follows the prefix of its topic. -/
def routeMethod (rest : String) (payload : Bytes) : Inbound :=
  let (method, query) := splitQuery rest
  match (parseQuery query).find? requestIdKey with
  | some requestId => if method = "" then .unknown else .methodCall method requestId payload
  | none => .unknown

/-- From what follows the prefix of its topic. -/
def routeTwinResponse (rest : String) (payload : Bytes) : Inbound :=
  let (status, query) := splitQuery rest
  let query := parseQuery query
  match Text.readInt32? status, query.find? requestIdKey with
  | some status, some requestId =>
    .twinResponse ⟨requestId, status, (query.find? versionKey).bind Text.readInt64?, payload⟩
  | _, _ => .unknown

def route (deviceId topic : String) (payload : Bytes) : Inbound :=
  match Text.after? (deviceboundPrefix deviceId) topic with
  | some encoded => .cloudToDevice (decodeEvent encoded payload)
  | none =>
    match Text.after? methodPrefix topic with
    | some rest => routeMethod rest payload
    | none =>
      match Text.after? twinResponsePrefix topic with
      | some rest => routeTwinResponse rest payload
      | none => if Text.startsWith twinDesiredPrefix topic then .twinDesired payload else .unknown

end Topic
end DeviceHub
