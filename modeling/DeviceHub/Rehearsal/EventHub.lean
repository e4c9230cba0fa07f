import DeviceHub.Rehearsal.Broker
import DeviceHub.Rehearsal.Program

/-!
Clients of event hubs over one broker that is played.
-/
namespace DeviceHub.Rehearsal

open EventHub

class Peer (ε : Type) where
  perform : PeerRequest → ε → ε × Reaction

instance : Peer Broker where
  perform := Broker.perform

/-- The kind of a request and its link, which tell it from the others of one part of a call. -/
def requestKey : PeerRequest → Nat × Nat
  | .dial _ => (0, 0)
  | .openSession => (1, 0)
  | .closeSession => (2, 0)
  | .closeConnection => (3, 0)
  | .openReceiver _ => (4, 0)
  | .openSender _ => (5, 0)
  | .send link _ => (6, link)
  | .receive link => (7, link)
  | .accept link _ => (8, link)
  | .closeLink link => (9, link)

/-- A client, and a call of it with a part; without a call, the dialing. -/
structure Place where
  client : Nat
  call : Option Nat
  part : Nat := 0
  deriving DecidableEq

/-- What is on the stage is the dialing of a client or a call of it, by number. -/
structure EventHubStage (ε : Type) where
  peer : ε
  clients : List EventHub.Client := []
  acts : List (Nat × Option Nat) := []
  fired : List Token := []
  now : Nat := 0
  ids : Nat := 0
  /-- Requests that will not be answered. -/
  hung : List (Place × Nat × Nat) := []

def freshId (n : Nat) : String :=
  let digits := toString n
  "00000000-0000-4000-8000-" ++ "".pushn '0' (12 - digits.length) ++ digits

namespace EventHubStage

variable {ε : Type}

def clientStep (client : Nat) (event : EventHub.ClientEvent) (s : EventHubStage ε) :
    EventHubStage ε :=
  { s with clients := s.clients.modify client fun c => c.step event }

def request? (s : EventHubStage ε) (place : Place) : Option PeerRequest :=
  s.clients[place.client]?.bind fun c =>
    match place.call with
    | none => c.dialRequest?
    | some call => c.calls[call]?.bind (Activity.request? place.part)

def answer (s : EventHubStage ε) (place : Place) (outcome : HubResult PeerAnswer) :
    EventHubStage ε :=
  s.clientStep place.client <|
    match place.call with
    | none => .dialed outcome
    | some call => .answer call place.part outcome

def askPeer? [Peer ε] (s : EventHubStage ε) (place : Place) : Option (EventHubStage ε) :=
  (s.request? place).bind fun request =>
    let key := (place, requestKey request)
    if s.hung.contains key then none
    else
      match Peer.perform request s.peer with
      | (peer, .now outcome) => some ({ s with peer }.answer place outcome)
      | (peer, .never) => some { s with peer, hung := key :: s.hung }
      | (_, .later) => none

/-- Work comes before tokens. -/
def ownMove? (s : EventHubStage ε) (place : Place) : Option (EventHubStage ε) :=
  place.call.bind fun call =>
    s.clients[place.client]?.bind fun c =>
      ((c.resume? call place.part (freshId s.ids)).or (c.cancel? call place.part)).map fun c =>
        { s with clients := s.clients.set place.client c, ids := s.ids + 1 }

/-- The workers of a consumer come before the consumer. -/
def places (s : EventHubStage ε) (act : Nat × Option Nat) : List Place :=
  let parts := ((s.clients[act.1]?.bind fun c =>
    act.2.bind fun call => c.calls[call]?.map Activity.parts).getD 1)
  ((List.range parts).drop 1 ++ [0]).map fun part => ⟨act.1, act.2, part⟩

def move? [Peer ε] (s : EventHubStage ε) (id : Nat) : Option (EventHubStage ε) :=
  s.acts[id]?.bind fun act =>
    (s.places act).findSome? fun place => (s.askPeer? place).or (s.ownMove? place)

def deadline? (s : EventHubStage ε) : Option Nat :=
  (s.clients.flatMap fun c => c.calls.filterMap fun
    | .renewing ⟨_, .waiting deadline⟩ => some deadline
    | _ => none).min?

def dial (hostname : String) (s : EventHubStage ε) : EventHubStage ε :=
  { s with
    clients := s.clients ++ [{ hostname, fired := s.fired, clock := s.now }]
    acts := s.acts ++ [(s.clients.length, none)] }

def hasDialed (c : EventHub.Client) : Bool :=
  c.phase matches .live | .closed

/-- The last client that has got its session. -/
def current (s : EventHubStage ε) : Nat :=
  s.clients.length - 1 - (s.clients.reverse.findIdx? hasDialed).getD 0

def client? (s : EventHubStage ε) : Option EventHub.Client :=
  s.clients[s.current]?.filter hasDialed

/-- The client in use gets two ids for its request. -/
def start (request : String → String → ClientRequest) (token : Token) (s : EventHubStage ε) :
    EventHubStage ε :=
  let client := s.current
  let call := (s.clients[client]?.map fun c => c.calls.length).getD 0
  { s with
    ids := s.ids + 2
    acts := s.acts ++ [(client, some call)] }.clientStep client
      (.start (request (freshId s.ids) (freshId (s.ids + 1))) token)

def drop (s : EventHubStage ε) (id : Nat) : EventHubStage ε :=
  match s.acts[id]? with
  | some (client, some call) => s.clientStep client (.drop call)
  | _ => { s with acts := s.acts.set id (s.clients.length, none) }

instance [Peer ε] : Stage (EventHubStage ε) where
  move? := move?
  size s := s.acts.length
  drop := drop
  fire s token :=
    { s with
      fired := token :: s.fired
      clients := s.clients.map fun c => c.step (.fire token) }
  clock s := s.now
  setClock s now := { s with now, clients := s.clients.map fun c => c.step (.clock now) }
  deadline? := deadline?

def activity? (s : EventHubStage ε) (id : Nat) : Option Activity :=
  s.acts[id]?.bind fun (client, call) =>
    s.clients[client]?.bind fun c => call.bind fun call => c.calls[call]?

def outcome? (s : EventHubStage ε) (id : Nat) : Option (Checked ClientReply) :=
  s.acts[id]?.bind fun (client, call) =>
    s.clients[client]?.bind fun c =>
      match call with
      | some call => c.calls[call]?.bind Activity.outcome?
      | none =>
        match c.phase with
        | .failed e => some (.error (.error e))
        | .dialing | .openingSession | .abandoning _ => none
        | .live | .closed => some (.ok .done)

def activities (s : EventHubStage ε) : List Activity :=
  s.clients.flatMap fun c => c.calls

def isHeld (s : EventHubStage ε) (link : Nat) : Bool :=
  s.activities.any fun
    | .consuming c => c.workers.any fun w => w.link == link && !(w.phase matches .finished)
    | _ => false

/-- By the token that stops them, and whether they are at an end. -/
def renewals (s : EventHubStage ε) : List (Token × Bool) :=
  s.activities.filterMap fun
    | .renewing g =>
      match g.phase with
      | .waiting _ | .renewing .. => some (g.plan.stop, false)
      | .ended => some (g.plan.stop, true)
      | _ => none
    | _ => none

def takeDelivered (s : EventHubStage ε) : List Message × EventHubStage ε :=
  (s.activities.flatMap fun
      | .consuming c => c.delivered
      | _ => [],
    { s with clients := s.clients.map fun c =>
        { c with calls := c.calls.map fun
            | .consuming c => .consuming { c with delivered := [] }
            | a => a } })

def dialedHost? (s : EventHubStage ε) (id : Nat) : Option String :=
  match s.acts[id]? with
  | some (client, none) => s.clients[client]?.map EventHub.Client.hostname
  | _ => none

def session (s : EventHubStage ε) : HubResult Unit :=
  match s.client? with
  | some c => c.session
  | none => .error .closed

def isClosed? (s : EventHubStage ε) : Option Bool :=
  s.client?.map fun c => c.phase matches .closed

def withClient (peer : ε) : EventHubStage ε :=
  { peer, clients := [{ hostname := "", phase := .live }] }

def last? (s : EventHubStage ε) : Option (Checked ClientReply) :=
  s.outcome? (s.acts.length - 1)

variable [Peer ε]

def ask (request : String → String → ClientRequest) (s : EventHubStage ε) : EventHubStage ε :=
  settle Program.moves (s.start request "caller")

/-- The caller gives up what hangs; whether something does. -/
def giveUp (s : EventHubStage ε) : EventHubStage ε × Bool :=
  if s.last?.isNone then (settle Program.moves (Stage.fire s "caller"), true) else (s, false)

end EventHubStage
end DeviceHub.Rehearsal
