import DeviceHub.Client
import DeviceHub.Config.Resolve
import DeviceHub.Mqtt.Connection
import DeviceHub.Topic.Route

/-!
`MqttTransport`, a device transport over MQTT.  Every operation runs as a call of its own; what can
happen is an event, to a call or to the event loop of a connection, and events may come in any
order.  The awaits of `connect`, `close`, `subscribe` and `twin_request` are the phases of a call.

`twin_request` enters its call in `pending` under a request id before it publishes, and
`PendingGuard` removes the entry when the call ends, whichever way it ends.  Inbound publishes go to
the dispatcher that has the slot of their kind.
-/
namespace DeviceHub.Mqtt

/-- The operations of the transport; `δ` is a dispatcher of inbound traffic. -/
inductive Request (δ : Type) where
  /-- With the options that `configure_mqtt_options` has made of settings and credentials. -/
  | connect (options : Checked BrokerOptions)
  | close
  | send (event : Event)
  /-- One of `subscribe_events`, `subscribe_twin_updates` and `register_direct_methods`. -/
  | setup (link : SharedLink) (dispatcher : δ)
  | retrieve
  | update (patch : Bytes)

inductive Phase where
  | starting
  /-- In `wait_for_connection_confirmation`. -/
  | confirming (connection : Nat)
  /-- Waits for the event loop to stop; what it returns then is certain. -/
  | ending (connection : Nat) (outcome : HubResult Answer)
  /-- Publishes or subscribes: waits for room in the request channel. -/
  | handing (connection : Nat) (packet : Packet)
  /-- Has disconnected and gives the event loop `SHUTDOWN_GRACE` to stop. -/
  | grace (connection : Nat)
  /-- In `ensure_twin_responses`. -/
  | subscribing (connection : Nat)
  /-- The request id is generated in the next step. -/
  | entering (connection : Nat)
  /-- Entered in `pending`, not published yet. -/
  | asking (connection : Nat) (id : String)
  | awaiting (id : String)
  | returned (outcome : HubResult Answer)
  /-- Also a call that panicked. -/
  | dropped

structure Call (δ : Type) where
  request : Request δ
  phase : Phase := .starting
  response : Option (HubResult TwinResponse) := none

inductive Delivery (δ : Type) where
  | event (dispatcher : δ) (event : Event)
  | twin (dispatcher : δ) (payload : Bytes)
  /-- Its response is published over the connection it came over. -/
  | method (dispatcher : δ) (connection : Nat) (method requestId : String) (payload : Bytes)

/-- The slots of the dispatchers, the twin requests that are pending, and everything else by number.
-/
structure Transport (δ : Type) where
  slots : SharedLink → Option δ := fun _ => none
  pending : KeyMap Nat := []
  connections : List Connection := []
  /-- Which connection is stored in `connected`. -/
  current : Option Nat := none
  calls : List (Call δ) := []
  deliveries : List (Delivery δ) := []

inductive TransportEvent (δ : Type) where
  | start (request : Request δ)
  /-- The id is new; only a twin request takes it. -/
  | resume (call : Nat) (id : String)
  | timeout (call : Nat)
  | drop (call : Nat)
  | report (connection : Nat) (report : Report)
  | fail (connection : Nat) (reason : String)
  /-- An event loop notices that `shutdown` is cancelled. -/
  | stop (connection : Nat)
  /-- An event loop that was left takes its next step: `fail_pending`, then its end. -/
  | unwind (connection : Nat)
  | transmit (connection : Nat)
  | reply (connection : Nat) (status : Int) (requestId : String) (body : Bytes)

def filterOf (deviceId : String) : SharedLink → String × Qos
  | .events => (Topic.deviceboundFilter deviceId, .atLeastOnce)
  | .twinUpdates => (Topic.twinDesiredFilter, .atMostOnce)
  | .methods => (Topic.methodFilter, .atMostOnce)

def Request.twinPacket {δ : Type} (id : String) : Request δ → Packet
  | .update patch => .publish (Topic.twinPatch id) patch .atMostOnce
  | _ => .publish (Topic.twinGet id) [] .atMostOnce

/-- Only 200 to 299 is a success, and an update needs the version. -/
def Request.answer {δ : Type} (request : Request δ) (r : TwinResponse) : HubResult Answer :=
  if 200 ≤ r.status ∧ r.status < 300 then
    match request with
    | .update _ =>
      match r.version with
      | some version => .ok (.version version)
      | none => .error (.decode "twin update response carries no $version")
    | _ => .ok (.document r.payload)
  else .error (.status r.status (Text.decodeLossy r.payload))

def Packet.refusal : Packet → HubError
  | .subscribe filter _ => .linkSetup filter Connection.gone
  | _ => .transport Connection.gone

namespace Transport

variable {δ : Type}

def setPhase (call : Nat) (phase : Phase) (t : Transport δ) : Transport δ :=
  { t with calls := t.calls.modify call fun c => { c with phase } }

def finish (call : Nat) (outcome : HubResult Answer) (t : Transport δ) : Transport δ :=
  t.setPhase call (.returned outcome)

def modifyConnection (n : Nat) (change : Connection → Connection) (t : Transport δ) : Transport δ :=
  { t with connections := t.connections.modify n change }

def session? (t : Transport δ) : Option (Nat × Connection) :=
  t.current.bind fun n => t.connections[n]?.map fun c => (n, c)

def setSlot (link : SharedLink) (dispatcher : δ) (t : Transport δ) : Transport δ :=
  { t with slots := fun l => if l = link then some dispatcher else t.slots l }

/-- The events slot is stored after the session check, the other slots before it. -/
def beginSetup (call : Nat) (link : SharedLink) (dispatcher : δ) (t : Transport δ) : Transport δ :=
  match t.session? with
  | some (n, c) =>
    let (filter, qos) := filterOf c.deviceId link
    (t.setSlot link dispatcher).setPhase call (.handing n (.subscribe filter qos))
  | none =>
    (if link = .events then t else t.setSlot link dispatcher).finish call (.error .notReady)

/-- The start of `twin_request`: the session, and then a turn at `ensure_twin_responses`. -/
def beginTwin (call : Nat) (t : Transport δ) : Transport δ :=
  match t.session? with
  | none => t.finish call (.error .notReady)
  | some (n, _) =>
    (t.modifyConnection n fun c =>
      if c.hearsTwin then c else { c with subscribers := c.subscribers.ask call }).setPhase call
        (.subscribing n)

def beginConnect (call : Nat) (options : Checked BrokerOptions) (t : Transport δ) : Transport δ :=
  match t.current, options with
  | some _, _ => t.finish call (.error .alreadyConnected)
  | none, .error (.error e) => t.finish call (.error e)
  | none, .error .panic => t.setPhase call .dropped
  | none, .ok options =>
    let connections := t.connections ++ [{ deviceId := options.clientId }]
    { t with connections }.setPhase call (.confirming t.connections.length)

def begin (call : Nat) (request : Request δ) (t : Transport δ) : Transport δ :=
  match request with
  | .connect options => t.beginConnect call options
  | .close =>
    match t.current with
    | none => t.finish call (.ok .done)
    | some n => { t with current := none }.setPhase call (.handing n .disconnect)
  | .send event =>
    match t.session? with
    | none => t.finish call (.error .notReady)
    | some (n, c) =>
      let topic := Topic.events c.deviceId (Topic.encodeProperties event)
      t.setPhase call (.handing n (.publish topic event.payload event.qos))
  | .setup link dispatcher => t.beginSetup call link dispatcher
  | .retrieve | .update _ => t.beginTwin call

/-- Sends into the request channel: whether it was taken, `none` while the channel is full. -/
def hand? (n : Nat) (p : Packet) (t : Transport δ) : Option (Transport δ × Bool) :=
  t.connections[n]?.bind fun c =>
    c.takes?.map fun taken => (if taken then t.modifyConnection n (·.push p) else t, taken)

def handed (call n : Nat) (p : Packet) (taken : Bool) (t : Transport δ) : Transport δ :=
  match p with
  | .disconnect => t.setPhase call (.grace n)
  | p => t.finish call (if taken then .ok .done else .error p.refusal)

/-- One caller at a time subscribes in `ensure_twin_responses`, and nobody once one has succeeded.
-/
def subscribe? (call n : Nat) (t : Transport δ) : Option (Transport δ) :=
  let filter : Packet := .subscribe Topic.twinResponseFilter .atMostOnce
  t.connections[n]?.bind fun c =>
    if c.hearsTwin then some (t.setPhase call (.entering n))
    else if c.subscribers.holder = some call then
      (t.hand? n filter).map fun (t, taken) =>
        let t := t.modifyConnection n fun c =>
          { c with hearsTwin := taken, subscribers := c.subscribers.leave call }
        if taken then t.setPhase call (.entering n) else t.finish call (.error filter.refusal)
    else none

/-- When a twin request ends, `PendingGuard` removes its entry. -/
def settle (call : Nat) (id : String) (outcome : HubResult Answer) (t : Transport δ) :
    Transport δ :=
  { t with pending := t.pending.erase id }.finish call outcome

/-- The one-shot channel has a response, or it was dropped. -/
def respond? (call : Nat) (id : String) (c : Call δ) (t : Transport δ) : Option (Transport δ) :=
  match c.response with
  | some response => some (t.settle call id (response.bind c.request.answer))
  | none =>
    if t.pending.find? id = some call then none
    else some (t.settle call id (.error (.transport "connection closed before twin response")))

def confirm? (call n : Nat) (t : Transport δ) : Option (Transport δ) :=
  t.connections[n]?.bind fun c =>
    match c.standing with
    | .connecting => none
    | .connected => some ({ t with current := some n }.finish call (.ok .done))
    | .lost reason =>
      some ((t.modifyConnection n Connection.stop).setPhase call
        (.ending n (.error (.transport reason))))

def isFinished (n : Nat) (t : Transport δ) : Bool :=
  t.connections[n]?.all fun c => c.loop = .finished

def resume? (call : Nat) (id : String) (t : Transport δ) : Option (Transport δ) :=
  t.calls[call]?.bind fun c =>
    match c.phase with
    | .starting => some (t.begin call c.request)
    | .confirming n => t.confirm? call n
    | .ending n outcome => if t.isFinished n then some (t.finish call outcome) else none
    | .handing n p => (t.hand? n p).map fun (t, taken) => t.handed call n p taken
    | .grace n => if t.isFinished n then some (t.finish call (.ok .done)) else none
    | .subscribing n => t.subscribe? call n
    | .entering n =>
      some ({ t with pending := t.pending.insert id call }.setPhase call (.asking n id))
    | .asking n id =>
      (t.hand? n (c.request.twinPacket id)).map fun (t, taken) =>
        if taken then t.setPhase call (.awaiting id)
        else t.settle call id (.error (.transport Connection.gone))
    | .awaiting id => t.respond? call id c
    | .returned _ | .dropped => none

/-- The timeout of a connect, or the end of the grace of a close: `shutdown` is cancelled. -/
def timeout (call : Nat) (t : Transport δ) : Transport δ :=
  let giveUp (n : Nat) (outcome : HubResult Answer) :=
    (t.modifyConnection n Connection.stop).setPhase call (.ending n outcome)
  match t.calls[call]?.map Call.phase with
  | some (.confirming n) =>
    giveUp n (.error (.transport "ConnAck timeout - no connection confirmation received"))
  | some (.grace n) => giveUp n (.ok .done)
  | _ => t

/-- What the guards of a call undo when its caller goes away. -/
def release (call : Nat) (phase : Phase) (t : Transport δ) : Transport δ :=
  match phase with
  | .confirming n => t.modifyConnection n Connection.stop
  | .subscribing n =>
    t.modifyConnection n fun c => { c with subscribers := c.subscribers.leave call }
  | .asking _ id | .awaiting id => { t with pending := t.pending.erase id }
  | _ => t

def drop (call : Nat) (t : Transport δ) : Transport δ :=
  match t.calls[call]?.map Call.phase with
  | none | some (.returned _) | some .dropped => t
  | some phase => (t.release call phase).setPhase call .dropped

/-- A twin response is sent to the pending call of its request id. -/
def complete (r : TwinResponse) (t : Transport δ) : Transport δ :=
  match t.pending.find? r.requestId with
  | none => t
  | some call =>
    { t with
      pending := t.pending.erase r.requestId
      calls := t.calls.modify call fun c => { c with response := some (.ok r) } }

def failPending (reason : String) (t : Transport δ) : Transport δ :=
  { t with
    pending := []
    calls := t.pending.foldl (fun calls (_, call) =>
      calls.modify call fun c => { c with response := some (.error (.transport reason)) }) t.calls }

def deliver (link : SharedLink) (delivery : δ → Delivery δ) (t : Transport δ) : Transport δ :=
  match t.slots link with
  | none => t
  | some dispatcher => { t with deliveries := t.deliveries ++ [delivery dispatcher] }

def publish (n : Nat) (deviceId topic : String) (payload : Bytes) (t : Transport δ) :
    Transport δ :=
  match Topic.route deviceId topic payload with
  | .cloudToDevice event => t.deliver .events (.event · event)
  | .methodCall method requestId payload =>
    t.deliver .methods (.method · n method requestId payload)
  | .twinResponse r => t.complete r
  | .twinDesired payload => t.deliver .twinUpdates (.twin · payload)
  | .unknown => t

def report (n : Nat) (report : Report) (t : Transport δ) : Transport δ :=
  match t.connections[n]? with
  | none => t
  | some c =>
    if c.loop ≠ .running then t
    else
      match Arrival.ofReport report with
      | .acknowledged .success => t.modifyConnection n fun c => { c with standing := .connected }
      | .acknowledged code =>
        t.modifyConnection n (Connection.leave ("connection refused: " ++ code.name))
      | .published topic payload => t.publish n c.deviceId topic payload
      | .disconnected => t.modifyConnection n (Connection.leave "disconnected")
      | .other => t

def leave (n : Nat) (reason : String) (t : Transport δ) : Transport δ :=
  t.modifyConnection n fun c => if c.loop = .running then c.leave reason else c

def unwind (n : Nat) (t : Transport δ) : Transport δ :=
  match t.connections[n]?.map Connection.loop with
  | some (.left reason) =>
    (t.failPending reason).modifyConnection n fun c => { c with loop := .drained }
  | some .drained => t.modifyConnection n fun c => { c with loop := .finished }
  | _ => t

/-- What cannot happen changes nothing. -/
def step (t : Transport δ) : TransportEvent δ → Transport δ
  | .start request => { t with calls := t.calls ++ [{ request }] }
  | .resume call id => (t.resume? call id).getD t
  | .timeout call => t.timeout call
  | .drop call => t.drop call
  | .report n r => t.report n r
  | .fail n reason => t.leave n reason
  | .stop n =>
    if t.connections[n]?.any Connection.stopped then t.leave n "transport closed" else t
  | .unwind n => t.unwind n
  | .transmit n =>
    t.modifyConnection n fun c =>
      if c.loop = .running then { c with outbound := c.outbound.tail } else c
  | .reply n status requestId body =>
    let packet : Packet := .publish (Topic.methodResponse status requestId) body .atMostOnce
    ((t.hand? n packet).map Prod.fst).getD t

end Transport
end DeviceHub.Mqtt
