import DeviceHub.EventHub.Client

/-!
`MockBroker`, a broker without a network.  It answers the requests to the management node and to
`$cbs`, sending each response to the receiver that was opened last for its address; it feeds the
receivers of partitions from queues, one for each address.
-/
namespace DeviceHub.Rehearsal

open EventHub

/-- An answer now, nothing yet, or nothing ever. -/
inductive Reaction where
  | now (outcome : HubResult PeerAnswer)
  | later
  | never

structure BrokerLink where
  options : LinkOptions
  isReceiver : Bool
  inbound : List (HubResult Message) := []
  /-- More may come. -/
  connected : Bool := true
  closed : Bool := false

/-- Messages wait for a receiver, or a receiver gets them. -/
inductive Feed where
  | waiting (messages : List (HubResult Message))
  | linked (link : Nat)

structure Broker where
  partitions : List String := ["0", "1"]
  managementStatus : Int × String := (200, "OK")
  tokenStatus : Int × String := (200, "OK")
  wrongCorrelation : Bool := false
  silent : Bool := false
  failsDial : Bool := false
  failsSessions : Bool := false
  failingPartition : Option String := none
  links : List BrokerLink := []
  /-- The receiver opened last for an address of responses. -/
  replies : KeyMap Nat := []
  feeds : KeyMap Feed := []
  granted : List (String × String) := []
  accepted : Nat := 0
  sessionsClosed : Nat := 0
  connectionsClosed : Nat := 0

namespace Broker

def modifyLink (link : Nat) (change : BrokerLink → BrokerLink) (b : Broker) : Broker :=
  { b with links := b.links.modify link change }

def disconnect (link : Nat) (b : Broker) : Broker :=
  b.modifyLink link fun l => { l with connected := false }

def deliver (link : Nat) (item : HubResult Message) (b : Broker) : Broker :=
  b.modifyLink link fun l => { l with inbound := l.inbound ++ [item] }

def openLinks (b : Broker) : Nat :=
  b.links.countP fun l => !l.closed

def response (node : String) (request : Message) (b : Broker) : Broker × Message :=
  let (b, response) :=
    if node = managementNode then
      let (code, description) := b.managementStatus
      (b, { request.responseTo code description with
        value := .mapping [("partition_ids", .sequence (b.partitions.map .string))] })
    else
      let (code, description) := b.tokenStatus
      let audience :=
        ((request.applicationProperties.find? "name").bind fun v => v.asString.toOption).getD ""
      let token := request.value.asString.toOption.getD ""
      let b := if code = 200 then { b with granted := b.granted ++ [(audience, token)] } else b
      (b, request.responseTo code description)
  if b.wrongCorrelation then (b, { response with correlationId := some "unrelated" })
  else (b, response)

def respond (node : String) (request : Message) (b : Broker) : Broker × HubResult PeerAnswer :=
  if b.silent then (b, .ok .done)
  else
    let (b, response) := b.response node request
    let replyTo := request.replyTo.getD ""
    match b.replies.find? replyTo with
    | some link => (b.deliver link (.ok response), .ok .done)
    | none => (b, .error (.transport ("no receiver for " ++ replyTo)))

/-- The receiver before it gets no more. -/
def linkReplies (address : String) (options : LinkOptions) (b : Broker) : Broker :=
  let link := b.links.length
  let b := match b.replies.find? address with
    | some before => b.disconnect before
    | none => b
  { b with
    links := b.links ++ [{ options, isReceiver := true }]
    replies := b.replies.insert address link }

/-- It takes what waits for its address and what comes; the receiver before it gets no more. -/
def linkFeed (address : String) (options : LinkOptions) (b : Broker) : Broker :=
  let link := b.links.length
  let (b, inbound) := match b.feeds.find? address with
    | some (.waiting messages) => (b, messages)
    | some (.linked before) => (b.disconnect before, [])
    | none => (b, [])
  { b with
    links := b.links ++ [{ options, isReceiver := true, inbound }]
    feeds := b.feeds.insert address (.linked link) }

def failsPartition (address : String) (b : Broker) : Bool :=
  b.failingPartition.any fun id =>
    ("/Partitions/" ++ id).toList.isSuffixOf address.toList

def openReceiver (options : LinkOptions) (b : Broker) : Broker × HubResult PeerAnswer :=
  let source := options.source.getD ""
  let link := b.links.length
  if source = managementNode ∨ source = tokenNode then
    (b.linkReplies (options.target.getD tokenReplyTo) options, .ok (.opened link))
  else if b.failsPartition source then
    (b, .error (.linkSetup source "mock partition failure"))
  else (b.linkFeed source options, .ok (.opened link))

def BrokerLink.passes (l : BrokerLink) (m : Message) : Bool :=
  l.options.filter.all fun filter => filter.accepts m.enqueued

/-- What the filter holds back is passed over. -/
def BrokerLink.next? (l : BrokerLink) :
    List (HubResult Message) → Option (HubResult Message × List (HubResult Message))
  | [] => none
  | .error e :: rest => some (.error e, rest)
  | .ok m :: rest => if BrokerLink.passes l m then some (.ok m, rest) else next? l rest

def receive (link : Nat) (b : Broker) : Broker × Reaction :=
  match b.links[link]? with
  | none => (b, .now (.error .closed))
  | some l =>
    if l.closed then (b, .now (.error .closed))
    else
      match BrokerLink.next? l l.inbound with
      | some (item, inbound) =>
        (b.modifyLink link fun l => { l with inbound }, .now (item.map .received))
      | none =>
        (b.modifyLink link fun l => { l with inbound := [] },
          if l.connected then .later else .now (.error .closed))

def send (link : Nat) (m : Message) (b : Broker) : Broker × HubResult PeerAnswer :=
  match b.links[link]? with
  | none => (b, .error .closed)
  | some l => if l.closed then (b, .error .closed) else b.respond (l.options.target.getD "") m

def perform (request : PeerRequest) (b : Broker) : Broker × Reaction :=
  let done (r : Broker × HubResult PeerAnswer) : Broker × Reaction := (r.1, .now r.2)
  match request with
  | .dial hostname =>
    done (b, if b.failsDial then .error (.transport ("cannot reach " ++ hostname)) else .ok .done)
  | .openSession =>
    done (b, if b.failsSessions then .error (.transport "mock session failure") else .ok .done)
  | .closeSession => done ({ b with sessionsClosed := b.sessionsClosed + 1 }, .ok .done)
  | .closeConnection => done ({ b with connectionsClosed := b.connectionsClosed + 1 }, .ok .done)
  | .openReceiver options => done (b.openReceiver options)
  | .openSender options =>
    done ({ b with links := b.links ++ [{ options, isReceiver := false }] },
      .ok (.opened b.links.length))
  | .send link m => done (b.send link m)
  | .receive link => b.receive link
  | .accept _ _ => done ({ b with accepted := b.accepted + 1 }, .ok .done)
  | .closeLink link => done (b.modifyLink link fun l => { l with closed := true }, .ok .done)

/-- Refused when the receiver that takes it is not held any more. -/
def feed (isHeld : Nat → Bool) (address : String) (item : HubResult Message) (b : Broker) :
    Broker × Bool :=
  match b.feeds.find? address with
  | none => ({ b with feeds := b.feeds.insert address (.waiting [item]) }, true)
  | some (.waiting messages) =>
    ({ b with feeds := b.feeds.insert address (.waiting (messages ++ [item])) }, true)
  | some (.linked link) => if isHeld link then (b.deliver link item, true) else (b, false)

def feedAll (isHeld : Nat → Bool) (address : String) (items : List (HubResult Message))
    (b : Broker) : Broker × List Bool :=
  items.foldl (fun (b, taken) item =>
    let (b, ok) := b.feed isHeld address item
    (b, taken ++ [ok])) (b, [])

end Broker
end DeviceHub.Rehearsal
