/-!
The topics between a device and its hub, as `TopicBuilder` writes them.
-/
namespace DeviceHub.Topic

def deviceAudience (hostname deviceId : String) : String :=
  hostname ++ "/devices/" ++ deviceId

def username (hostname deviceId apiVersion : String) : String :=
  hostname ++ "/" ++ deviceId ++ "/?api-version=" ++ apiVersion

/-- The encoded properties end the topic. -/
def events (deviceId encodedProperties : String) : String :=
  "devices/" ++ deviceId ++ "/messages/events/" ++ encodedProperties

def deviceboundPrefix (deviceId : String) : String :=
  "devices/" ++ deviceId ++ "/messages/devicebound/"

def deviceboundFilter (deviceId : String) : String :=
  deviceboundPrefix deviceId ++ "#"

def methodPrefix : String := "$iothub/methods/POST/"

def methodFilter : String := methodPrefix ++ "#"

def twinResponsePrefix : String := "$iothub/twin/res/"

def twinResponseFilter : String := twinResponsePrefix ++ "#"

/-- Where updates of the desired state come in. -/
def twinDesiredPrefix : String := "$iothub/twin/PATCH/properties/desired/"

def twinDesiredFilter : String := twinDesiredPrefix ++ "#"

def methodResponse (status : Int) (requestId : String) : String :=
  "$iothub/methods/res/" ++ toString status ++ "/?$rid=" ++ requestId

def twinGet (requestId : String) : String :=
  "$iothub/twin/GET/?$rid=" ++ requestId

/-- Where the reported state is patched. -/
def twinPatch (requestId : String) : String :=
  "$iothub/twin/PATCH/properties/reported/?$rid=" ++ requestId

end DeviceHub.Topic
