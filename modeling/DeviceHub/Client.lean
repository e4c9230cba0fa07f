import DeviceHub.Event
import DeviceHub.Lifecycle
import DeviceHub.Multiplexer.FanOut
import DeviceHub.Multiplexer.Registry
import DeviceHub.Twin

/-!
`Client`, the client of a device.  Every operation runs as a call of its own, beside any number of
others; what can happen to a call is an event, and events may come in any order.  A data-plane
operation first goes through `wait_ready`; `subscribe_events`, `subscribe_twin_updates` and
`register_method` set their links up through `once` of a multiplexer.

What the transport does is not said here: a call that has handed an operation to it goes on when the
answer comes, whatever that is.
-/
namespace DeviceHub

/-- The conversation links behind the three multiplexers. -/
inductive SharedLink where
  | events
  | twinUpdates
  | methods
  deriving DecidableEq

inductive Request where
  | connect
  | close
  | send (payload : Bytes) (options : SendOptions)
  | subscribeEvents
  | subscribeTwin
  | register (name : String) (handler : Handler)
  | retrieveTwin
  | updateTwin (state : TwinState)

inductive Reply where
  | done
  | subscriber (id : Nat)
  | twin (desired reported : TwinState)
  | version (v : Int64)

inductive Operation where
  | connect
  | close
  | send (event : Event)
  | setup (link : SharedLink)
  | retrieve
  | update (patch : Bytes)

inductive Answer where
  | done
  | document (bytes : Bytes)
  | version (v : Int64)

inductive Phase where
  /-- Wants the transition lock. -/
  | awaitingLock
  /-- Holds the transition lock. -/
  | connecting
  /-- Holds the transition lock. -/
  | closing
  | awaitingReady
  | operating (operation : Operation)
  /-- In `once` of the link. -/
  | settingUp (caller : Once)
  | returned (outcome : HubResult Reply)
  | dropped

structure Call where
  request : Request
  token : Token
  phase : Phase

/-- All calls so far go by number. -/
structure Client where
  state : ConnectionState := .unready
  lock : Lock := {}
  events : Multiplexer (FanOut Event) := { dispatch := {} }
  twinUpdates : Multiplexer (FanOut TwinState) := { dispatch := {} }
  methods : Multiplexer Registry := { dispatch := [] }
  fired : List Token := []
  calls : List Call := []

inductive ClientEvent where
  | start (request : Request) (token : Token)
  | resume (id : Nat)
  | answer (id : Nat) (outcome : HubResult Answer)
  /-- In `run_cancellable` or `wait_ready` the call sees that its token fired. -/
  | cancel (id : Nat)
  | fire (token : Token)
  | drop (id : Nat)
  /-- The transport dispatches an event. -/
  | inboundEvent (event : Event)
  /-- The transport dispatches an update of the desired state. -/
  | inboundTwin (payload : Bytes)

def Request.isData : Request → Bool
  | connect | close => false
  | _ => true

def Request.link? : Request → Option SharedLink
  | subscribeEvents => some .events
  | subscribeTwin => some .twinUpdates
  | register .. => some .methods
  | _ => none

def Call.operation? (c : Call) : Option Operation :=
  match c.phase with
  | .connecting => some .connect
  | .closing => some .close
  | .operating operation => some operation
  | .settingUp (.running _) => c.request.link?.map .setup
  | _ => none

def Answer.reply (operation : Operation) (answer : Answer) : HubResult Reply :=
  match operation, answer with
  | .retrieve, .document bytes =>
    (Twin.splitDocument bytes).map fun (desired, reported) => .twin desired reported
  | .update _, .version v => .ok (.version v)
  | _, _ => .ok .done

/-- A waiting call is cancelled only while the state is undecided, since `wait_ready` looks at the
state first; `close` takes no token. -/
def Call.isCancellable (state : ConnectionState) (c : Call) : Bool :=
  match c.phase with
  | .awaitingLock =>
    match c.request with
    | .connect => true
    | _ => false
  | .awaitingReady => state == .unready
  | .connecting | .operating _ | .settingUp _ => true
  | _ => false

namespace Client

def setPhase (id : Nat) (phase : Phase) (s : Client) : Client :=
  { s with calls := s.calls.modify id fun c => { c with phase } }

def finish (id : Nat) (outcome : HubResult Reply) (s : Client) : Client :=
  s.setPhase id (.returned outcome)

/-- Gives the transition lock back, or stops waiting for it. -/
def unlock (id : Nat) (s : Client) : Client :=
  { s with lock := s.lock.leave id }

def closeLinks (s : Client) : Client :=
  { s with
    events := s.events.close .closed
    twinUpdates := s.twinUpdates.close .closed
    methods := s.methods.close .closed }

def withLink {α : Type} (link : SharedLink) (s : Client)
    (act : {δ : Type} → Multiplexer δ → Multiplexer δ × α) : Client × α :=
  match link with
  | .events => let (m, a) := act s.events; ({ s with events := m }, a)
  | .twinUpdates => let (m, a) := act s.twinUpdates; ({ s with twinUpdates := m }, a)
  | .methods => let (m, a) := act s.methods; ({ s with methods := m }, a)

/-- What follows `once`: `sub` or `handle`. -/
def join (request : Request) (s : Client) : Client × HubResult Reply :=
  match request with
  | .subscribeEvents =>
    match s.events.subscribe with
    | .ok (events, id) => ({ s with events }, .ok (.subscriber id))
    | .error e => (s, .error e)
  | .subscribeTwin =>
    match s.twinUpdates.subscribe with
    | .ok (twinUpdates, id) => ({ s with twinUpdates }, .ok (.subscriber id))
    | .error e => (s, .error e)
  | .register name handler =>
    match s.methods.handle name handler with
    | .ok methods => ({ s with methods }, .ok .done)
    | .error e => (s, .error e)
  | _ => (s, .ok .done)

def follow (id : Nat) (request : Request) (s : Client) (caller : Once) : Client :=
  match caller with
  | .returned (.ok ()) => let (s, outcome) := s.join request; s.finish id outcome
  | .returned (.error e) => s.finish id (.error e)
  | caller => s.setPhase id (.settingUp caller)

/-- After `wait_ready`.  A call that needs a link does not look at its memo in this step: its token
may have fired, and `run_cancellable` may then end it first. -/
def begin (id : Nat) (request : Request) (s : Client) : Client :=
  match request with
  | .send payload options =>
    if payload.isEmpty then s.finish id (.error (.invalidInput "payload is empty"))
    else
      match options.toEvent payload with
      | .ok event => s.setPhase id (.operating (.send event))
      | .error e => s.finish id (.error e)
  | .subscribeEvents | .subscribeTwin => s.setPhase id (.settingUp .entering)
  | .register name _ =>
    if name = "" then s.finish id (.error (.invalidInput "method name cannot be blank"))
    else s.setPhase id (.settingUp .entering)
  | .retrieveTwin => s.setPhase id (.operating .retrieve)
  | .updateTwin state => s.setPhase id (.operating (.update state.toJson))
  | .connect | .close => s

def locked (id : Nat) (request : Request) (s : Client) : Client :=
  match request, s.state with
  | .connect, .unready => s.setPhase id .connecting
  | .connect, .ready => (s.unlock id).finish id (.error .alreadyConnected)
  | .connect, .closed => (s.unlock id).finish id (.error .closed)
  | .close, .closed => (s.unlock id).finish id (.ok .done)
  | .close, _ => ({ s with state := .closed }.closeLinks).setPhase id .closing
  | _, _ => s

def resume? (id : Nat) (s : Client) : Option Client :=
  s.calls[id]?.bind fun c =>
    match c.phase with
    | .awaitingLock => if s.lock.holder = some id then some (s.locked id c.request) else none
    | .awaitingReady =>
      s.state.readiness?.map fun
        | .ok () => s.begin id c.request
        | .error e => s.finish id (.error e)
    | .settingUp caller =>
      c.request.link?.bind fun link =>
        match s.withLink link fun m =>
            match m.resume? caller with
            | some (m, caller) => (m, some caller)
            | none => (m, none) with
        | (s, some caller) => some (s.follow id c.request caller)
        | (_, none) => none
    | _ => none

def answer? (id : Nat) (outcome : HubResult Answer) (s : Client) : Option Client :=
  s.calls[id]?.bind fun c =>
    match c.phase with
    | .connecting =>
      some <|
        match outcome with
        | .ok _ => ({ s with state := .ready }.unlock id).finish id (.ok .done)
        | .error e => (s.unlock id).finish id (.error e)
    | .closing => some ((s.unlock id).finish id (outcome.map fun _ => .done))
    | .operating operation => some (s.finish id (outcome.bind (Answer.reply operation)))
    | .settingUp (.running run) =>
      c.request.link?.map fun link =>
        let (s, caller) := s.withLink link fun m =>
          m.finish (outcome.map fun _ => ()) (.running run)
        s.follow id c.request caller
    | _ => none

/-- What a call holds is given back when it ends early. -/
def release (id : Nat) (c : Call) (s : Client) : Client :=
  match c.phase with
  | .awaitingLock | .connecting | .closing => s.unlock id
  | .settingUp caller =>
    match c.request.link? with
    | some link => (s.withLink link fun m => (m.abandon caller, ())).1
    | none => s
  | _ => s

def cancel? (id : Nat) (s : Client) : Option Client :=
  s.calls[id]?.bind fun c =>
    if s.fired.contains c.token && c.isCancellable s.state then
      some ((s.release id c).finish id (.error .cancelled))
    else none

def drop (id : Nat) (s : Client) : Client :=
  match s.calls[id]? with
  | none => s
  | some c =>
    match c.phase with
    | .returned _ | .dropped => s
    | _ => (s.release id c).setPhase id .dropped

def start (request : Request) (token : Token) (s : Client) : Client :=
  let id := s.calls.length
  if request.isData then { s with calls := s.calls ++ [⟨request, token, .awaitingReady⟩] }
  else { s with calls := s.calls ++ [⟨request, token, .awaitingLock⟩], lock := s.lock.ask id }

/-- What cannot be decoded is not published. -/
def inboundTwin (payload : Bytes) (s : Client) : Client :=
  match TwinState.ofJson payload with
  | .ok state => { s with twinUpdates := s.twinUpdates.publish state }
  | .error _ => s

/-- What cannot happen changes nothing. -/
def step (s : Client) : ClientEvent → Client
  | .start request token => s.start request token
  | .resume id => (s.resume? id).getD s
  | .answer id outcome => (s.answer? id outcome).getD s
  | .cancel id => (s.cancel? id).getD s
  | .fire token => { s with fired := token :: s.fired }
  | .drop id => s.drop id
  | .inboundEvent event => { s with events := s.events.publish event }
  | .inboundTwin payload => s.inboundTwin payload

end Client
end DeviceHub
