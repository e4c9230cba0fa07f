import DeviceHub.EventHub.Peer
import DeviceHub.Lifecycle

/-!
`exchange`: one request and its response over two links of their own.  The response has to echo the
message id and carry status 200, and is accepted only then; `release` closes the links that were
opened on every way out, the sender first.
-/
namespace DeviceHub.EventHub

/-- The links that are open, and what is awaited. -/
inductive ExchangePhase where
  | openingReceiver
  | openingSender (receiver : Nat)
  | sending (receiver sender : Nat)
  | receiving (receiver sender : Nat)
  | accepting (receiver sender : Nat) (response : Message)
  | closingSender (receiver sender : Nat) (outcome : HubResult Message)
  | closingReceiver (receiver : Nat) (outcome : HubResult Message)
  | returned (outcome : HubResult Message)
  | dropped

structure Exchange where
  receiver : LinkOptions
  sender : LinkOptions
  request : Message
  token : Token
  phase : ExchangePhase

namespace Exchange

/-- A request without a message id comes to nothing. -/
def start (receiver sender : LinkOptions) (request : Message) (token : Token) : Exchange :=
  { receiver, sender, request, token
    phase := match request.messageId with
      | some _ => .openingReceiver
      | none => .returned (.error (.invalidInput "request has no message id")) }

def request? (x : Exchange) : Option PeerRequest :=
  match x.phase with
  | .openingReceiver => some (.openReceiver x.receiver)
  | .openingSender _ => some (.openSender x.sender)
  | .sending _ s => some (.send s x.request)
  | .receiving r _ => some (.receive r)
  | .accepting r _ m => some (.accept r m)
  | .closingSender _ s _ => some (.closeLink s)
  | .closingReceiver r _ => some (.closeLink r)
  | .returned _ | .dropped => none

/-- First `check_correlation`, then `check_response`. -/
def check (x : Exchange) (response : Message) : HubResult Unit := do
  response.checkCorrelation (x.request.messageId.getD "")
  response.checkStatus

def next? (x : Exchange) (outcome : HubResult PeerAnswer) : Option ExchangePhase :=
  match x.phase, outcome with
  | .openingReceiver, .ok (.opened r) => some (.openingSender r)
  | .openingReceiver, .error e => some (.returned (.error e))
  | .openingSender r, .ok (.opened s) => some (.sending r s)
  | .openingSender r, .error e => some (.closingReceiver r (.error e))
  | .sending r s, .ok .done => some (.receiving r s)
  | .sending r s, .error e => some (.closingSender r s (.error e))
  | .receiving r s, .ok (.received m) =>
    some <|
      match x.check m with
      | .ok () => .accepting r s m
      | .error e => .closingSender r s (.error e)
  | .receiving r s, .error e => some (.closingSender r s (.error e))
  | .accepting r s m, .ok .done => some (.closingSender r s (.ok m))
  | .accepting r s _, .error e => some (.closingSender r s (.error e))
  | .closingSender r _ outcome, _ => some (.closingReceiver r outcome)
  | .closingReceiver _ outcome, _ => some (.returned outcome)
  | _, _ => none

def answer? (x : Exchange) (outcome : HubResult PeerAnswer) : Option Exchange :=
  (x.next? outcome).map fun phase => { x with phase }

/-- Once `run_cancellable` sees that the token fired; `release` does not look at it. -/
def cancelled? (phase : ExchangePhase) : Option ExchangePhase :=
  match phase with
  | .openingReceiver => some (.returned (.error .cancelled))
  | .openingSender r => some (.closingReceiver r (.error .cancelled))
  | .sending r s | .receiving r s | .accepting r s _ =>
    some (.closingSender r s (.error .cancelled))
  | _ => none

def cancel? (x : Exchange) (fired : List Token) : Option Exchange :=
  if fired.contains x.token then (cancelled? x.phase).map fun phase => { x with phase } else none

/-- Links stay open. -/
def drop (x : Exchange) : Exchange :=
  match x.phase with
  | .returned _ => x
  | _ => { x with phase := .dropped }

def outcome? (x : Exchange) : Option (HubResult Message) :=
  match x.phase with
  | .returned outcome => some outcome
  | _ => none

end Exchange
end DeviceHub.EventHub
