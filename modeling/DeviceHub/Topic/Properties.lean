import DeviceHub.Event
import DeviceHub.Text.Percent
import DeviceHub.Text.Split

/-!
`encode_properties` and `decode_event`: ids and properties of an event at the end of its topic, as
`key=value` pairs between ampersands, both sides percent-encoded.  The ids travel under names that
start with `$.`; other names of the hub are dropped when an event is decoded.
-/
namespace DeviceHub.Topic

def messageIdKey : String := "$.mid"

def correlationIdKey : String := "$.cid"

def destinationKey : String := "$.to"

def encodePair (pair : String × String) : List Char :=
  (Text.percentEncode pair.1).toList ++ '=' :: (Text.percentEncode pair.2).toList

/-- The ids, then the properties in ascending order. -/
def propertyPairs (e : Event) : List (String × String) :=
  (e.messageId.map fun id => (messageIdKey, id)).toList ++
    (e.correlationId.map fun id => (correlationIdKey, id)).toList ++ e.properties

def encodeProperties (e : Event) : String :=
  String.ofList (Text.joinWith ['&'] ((propertyPairs e).map encodePair))

/-- A text without an equals sign is a key without a value. -/
def decodePair (pair : String) : String × String :=
  let (key, value) := (Text.cutOnce? '=' pair).getD (pair, "")
  (Text.percentDecode key, Text.percentDecode value)

/-- The last pair with a key wins. -/
def parseQuery (query : String) : KeyMap String :=
  KeyMap.ofList (((Text.splitOnChar '&' query).filter (· ≠ "")).map decodePair)

/-- A name the hub keeps for itself. -/
def isSystemKey (key : String) : Bool :=
  Text.startsWith "$." key || Text.startsWith "iothub-" key

def addProperty (e : Event) (pair : String × String) : Event :=
  let (key, value) := pair
  if key = messageIdKey then { e with messageId := some value }
  else if key = correlationIdKey then { e with correlationId := some value }
  else if key = destinationKey then { e with destination := some value }
  else if isSystemKey key then e
  else { e with properties := e.properties.insert key value }

def decodeEvent (encoded : String) (payload : Bytes) : Event :=
  (parseQuery encoded).foldl addProperty { payload }

end DeviceHub.Topic
