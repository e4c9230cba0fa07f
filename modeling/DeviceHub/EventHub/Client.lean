import DeviceHub.EventHub.Consumer
import DeviceHub.EventHub.Grant

/-!
`EventHubClient`: one connection with one session.  Everything that is asked of it runs as a call,
beside any number of others, on the session it found as it began.  `close` takes the session once,
closes it and then the connection.
-/
namespace DeviceHub.EventHub

inductive ClientPhase where
  | dialing
  | openingSession
  /-- There is no session; the connection is being closed. -/
  | abandoning (e : HubError)
  | failed (e : HubError)
  | live
  | closed
  deriving DecidableEq

inductive ClientRequest where
  | exchange (receiver sender : LinkOptions) (request : Message)
  | partitions (name replyTo messageId : String)
  | putToken (tokenType audience token messageId : String)
  | putTokenContinuously (plan : GrantPlan) (messageId : String)
  | consume (name group replyTo messageId : String) (since : Instant)
  | close

inductive ClientReply where
  | done
  | response (m : Message)
  | partitions (ids : List String)

/-- What a call is at: an `exchange` of its caller, `get_partition_ids`, `put_token`,
`put_token_continuously`, `subscribe_partitions` or `close`. -/
inductive Activity where
  | exchanging (x : Exchange)
  | discovering (x : Exchange)
  | granting (x : Exchange)
  | renewing (g : Grant)
  | consuming (c : Consumer)
  | closingSession
  | closingConnection
  | returned (outcome : HubResult ClientReply)
  | dropped

/-- The clock is in milliseconds; all calls so far go by number. -/
structure Client where
  hostname : String
  phase : ClientPhase := .dialing
  fired : List Token := []
  clock : Nat := 0
  calls : List Activity := []

/-- What can happen to a client.  A call has parts: part 0 is the call itself, part `i + 1` the
worker `i` of a consumer. -/
inductive ClientEvent where
  | dialed (outcome : HubResult PeerAnswer)
  | start (request : ClientRequest) (token : Token)
  | answer (call part : Nat) (outcome : HubResult PeerAnswer)
  /-- What the call sends then has the given message id. -/
  | resume (call part : Nat) (messageId : String)
  | cancel (call part : Nat)
  | fire (token : Token)
  | clock (now : Nat)
  | drop (call : Nat)

namespace Activity

def ofExchange (reply : Message → HubResult ClientReply) (wrap : Exchange → Activity)
    (x : Exchange) : Activity :=
  match x.outcome? with
  | none => wrap x
  | some outcome => returned (outcome.bind reply)

def ofExchanging : Exchange → Activity :=
  ofExchange (fun m => .ok (.response m)) exchanging

def ofDiscovering : Exchange → Activity :=
  ofExchange (fun m => (readPartitions m).map .partitions) discovering

def ofGranting : Exchange → Activity :=
  ofExchange (fun _ => .ok .done) granting

def start (clock : Nat) (token : Token) : ClientRequest → Activity
  | .exchange receiver sender request => ofExchanging (.start receiver sender request token)
  | .partitions name replyTo messageId =>
    ofDiscovering (partitionsExchange name replyTo messageId token)
  | .putToken tokenType audience value messageId =>
    ofGranting (tokenExchange tokenType audience value messageId token)
  | .putTokenContinuously plan messageId => renewing (Grant.start plan clock messageId token)
  | .consume name group replyTo messageId since =>
    consuming (Consumer.start name group replyTo messageId since token)
  | .close => closingSession

def request? (part : Nat) (a : Activity) : Option PeerRequest :=
  match a, part with
  | exchanging x, 0 | discovering x, 0 | granting x, 0 => x.request?
  | renewing g, 0 => g.request?
  | consuming c, 0 => c.request?
  | consuming c, i + 1 => c.workers[i]?.bind Worker.request?
  | closingSession, 0 => some .closeSession
  | closingConnection, 0 => some .closeConnection
  | _, _ => none

def answer? (clock : Nat) (fired : List Token) (part : Nat) (outcome : HubResult PeerAnswer)
    (a : Activity) : Option Activity :=
  match a, part with
  | exchanging x, 0 => (x.answer? outcome).map ofExchanging
  | discovering x, 0 => (x.answer? outcome).map ofDiscovering
  | granting x, 0 => (x.answer? outcome).map ofGranting
  | renewing g, 0 => (g.answer? clock outcome).map renewing
  | consuming c, 0 => (c.answer? outcome).map consuming
  | consuming c, i + 1 => (c.answerWorker? fired i outcome).map consuming
  | closingSession, 0 => some closingConnection
  | closingConnection, 0 => some (returned (outcome.map fun _ => .done))
  | _, _ => none

def resume? (clock : Nat) (fired : List Token) (messageId : String) (part : Nat) (a : Activity) :
    Option Activity :=
  match a, part with
  | renewing g, 0 => (g.tick? clock messageId).map renewing
  | consuming c, 0 => (c.turn? fired).map consuming
  | consuming c, i + 1 => (c.deliver? i).map consuming
  | _, _ => none

def cancel? (clock : Nat) (fired : List Token) (part : Nat) (a : Activity) : Option Activity :=
  match a, part with
  | exchanging x, 0 => (x.cancel? fired).map ofExchanging
  | discovering x, 0 => (x.cancel? fired).map ofDiscovering
  | granting x, 0 => (x.cancel? fired).map ofGranting
  | renewing g, 0 => (g.cancel? clock fired).map renewing
  | consuming c, 0 => (c.cancel? fired).map consuming
  | consuming c, i + 1 => (c.stopWorker? fired i).map consuming
  | _, _ => none

/-- The renewals of `put_token_continuously` run in a task of their own and need no caller. -/
def drop : Activity → Activity
  | renewing g => renewing g.drop
  | consuming c => consuming c.drop
  | returned outcome => returned outcome
  | _ => dropped

def outcome? : Activity → Option (Checked ClientReply)
  | returned outcome => some (.ofResult outcome)
  | renewing g => g.outcome?.map fun outcome => outcome.map fun _ => .done
  | consuming c => c.outcome?.map fun e => .error (.error e)
  | _ => none

def parts : Activity → Nat
  | consuming c => c.workers.length + 1
  | _ => 1

end Activity

namespace Client

def dialRequest? (s : Client) : Option PeerRequest :=
  match s.phase with
  | .dialing => some (.dial s.hostname)
  | .openingSession => some .openSession
  | .abandoning _ => some .closeConnection
  | _ => none

/-- Without a session the connection is closed, whatever comes of that. -/
def dialed? (outcome : HubResult PeerAnswer) : ClientPhase → Option ClientPhase
  | .dialing =>
    some <|
      match outcome with
      | .ok _ => .openingSession
      | .error e => .failed e
  | .openingSession =>
    some <|
      match outcome with
      | .ok _ => .live
      | .error e => .abandoning e
  | .abandoning e => some (.failed e)
  | _ => none

/-- Once the client is closed `session` fails; closing again does nothing. -/
def start (request : ClientRequest) (token : Token) (s : Client) : Client :=
  match s.phase, request with
  | .live, .close => { s with phase := .closed, calls := s.calls ++ [.closingSession] }
  | .live, request => { s with calls := s.calls ++ [.start s.clock token request] }
  | _, .close => { s with calls := s.calls ++ [.returned (.ok .done)] }
  | _, _ => { s with calls := s.calls ++ [.returned (.error .closed)] }

def change? (call : Nat) (f : Activity → Option Activity) (s : Client) : Option Client :=
  (s.calls[call]?.bind f).map fun a => { s with calls := s.calls.set call a }

def answer? (call part : Nat) (outcome : HubResult PeerAnswer) (s : Client) : Option Client :=
  s.change? call (Activity.answer? s.clock s.fired part outcome)

def resume? (call part : Nat) (messageId : String) (s : Client) : Option Client :=
  s.change? call (Activity.resume? s.clock s.fired messageId part)

def cancel? (call part : Nat) (s : Client) : Option Client :=
  s.change? call (Activity.cancel? s.clock s.fired part)

/-- What cannot happen changes nothing. -/
def step (s : Client) : ClientEvent → Client
  | .dialed outcome => { s with phase := (dialed? outcome s.phase).getD s.phase }
  | .start request token => s.start request token
  | .answer call part outcome => (s.answer? call part outcome).getD s
  | .resume call part messageId => (s.resume? call part messageId).getD s
  | .cancel call part => (s.cancel? call part).getD s
  | .fire token => { s with fired := token :: s.fired }
  | .clock now => { s with clock := Nat.max s.clock now }
  | .drop call => (s.change? call fun a => some a.drop).getD s

def session (s : Client) : HubResult Unit :=
  if s.phase = .live then .ok () else .error .closed

end Client
end DeviceHub.EventHub
