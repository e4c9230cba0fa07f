import DeviceHub.EventHub.Exchange

/-!
`get_partition_ids`: the READ request to the management node, and the partition ids in its response.
-/
namespace DeviceHub.EventHub

def partitionsRequest (name replyTo messageId : String) : Message :=
  { messageId := some messageId
    replyTo := some replyTo
    applicationProperties := KeyMap.ofList
      [("operation", .string "READ"), ("name", .string name), ("type", .string eventHubEntity)] }

def partitionsExchange (name replyTo messageId : String) (token : Token) : Exchange :=
  .start { source := some managementNode, target := some replyTo }
    { target := some managementNode, source := some replyTo }
    (partitionsRequest name replyTo messageId) token

def readPartitions (response : Message) : HubResult (List String) :=
  (response.value.get "partition_ids").bind Value.toStringList

end DeviceHub.EventHub
