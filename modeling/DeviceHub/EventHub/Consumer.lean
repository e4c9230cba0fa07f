import DeviceHub.EventHub.Partitions

/-!
`subscribe_partitions`: a receiver and a `PartitionWorker` for each partition.  A worker accepts
what it receives and sends it into the message channel of bounded length; the orchestrating loop
hands what is in the channel to the callback.  The first partition error ends the call: what is
queued at that moment is still delivered.  `shutdown` waits until every worker has closed its
receiver.
-/
namespace DeviceHub.EventHub

/-- Where the worker of a partition is in `pump`, or in the close of its receiver. -/
inductive WorkerPhase where
  | receiving
  | accepting (m : Message)
  /-- Sends an accepted message into the channel. -/
  | delivering (m : Message)
  | closing
  | finished

structure Worker where
  link : Nat
  phase : WorkerPhase := .receiving

inductive ConsumerPhase where
  | discovering (x : Exchange)
  /-- The partitions whose receivers are still to be opened. -/
  | opening (partitions : List String)
  | consuming
  /-- In `shutdown`, with the result of the call. -/
  | stopping (e : HubError)
  | returned (e : HubError)
  | dropped

/-- A call of `subscribe_partitions`, its workers, and the two channels. -/
structure Consumer where
  name : String
  group : String
  since : Instant
  token : Token
  phase : ConsumerPhase
  workers : List Worker := []
  /-- The length of the message channel and of the error channel: the number of partitions. -/
  capacity : Nat := 0
  queue : List Message := []
  errors : List HubError := []
  /-- Handed to the callback, the first message first. -/
  delivered : List Message := []

def Worker.request? (w : Worker) : Option PeerRequest :=
  match w.phase with
  | .receiving => some (.receive w.link)
  | .accepting m => some (.accept w.link m)
  | .closing => some (.closeLink w.link)
  | .delivering _ | .finished => none

namespace Consumer

def start (name group replyTo messageId : String) (since : Instant) (token : Token) : Consumer :=
  { name, group, since, token
    phase := .discovering (partitionsExchange name replyTo messageId token) }

/-- The scope is cancelled, with the caller's token or by `shutdown`. -/
def isStopped (fired : List Token) (c : Consumer) : Bool :=
  fired.contains c.token ||
    match c.phase with
    | .stopping _ | .returned _ | .dropped => true
    | _ => false

def request? (c : Consumer) : Option PeerRequest :=
  match c.phase with
  | .discovering x => x.request?
  | .opening (id :: _) => some (.openReceiver (partitionLink c.name c.group id c.since))
  | _ => none

def discovered (c : Consumer) (x : Exchange) : Consumer :=
  match x.outcome? with
  | none => { c with phase := .discovering x }
  | some outcome =>
    match outcome.bind readPartitions with
    | .error e => { c with phase := .returned e }
    | .ok [] =>
      { c with
        phase := .returned (.decode ("event hub " ++ c.name ++ " reported no partitions")) }
    | .ok ids => { c with phase := .opening ids, capacity := ids.length }

def answer? (c : Consumer) (outcome : HubResult PeerAnswer) : Option Consumer :=
  match c.phase with
  | .discovering x => (x.answer? outcome).map c.discovered
  | .opening (_ :: rest) =>
    match outcome with
    | .ok (.opened link) =>
      some { c with
        workers := c.workers ++ [{ link }]
        phase := if rest.isEmpty then .consuming else .opening rest }
    | .error e => some { c with phase := .stopping e }
    | _ => none
  | _ => none

def cancel? (fired : List Token) (c : Consumer) : Option Consumer :=
  match c.phase with
  | .discovering x => (x.cancel? fired).map c.discovered
  | .opening _ =>
    if fired.contains c.token then some { c with phase := .stopping .cancelled } else none
  | _ => none

/-- The select is biased: a partition error first, then the scope, then the next message. -/
def turn? (fired : List Token) (c : Consumer) : Option Consumer :=
  match c.phase with
  | .consuming =>
    match c.errors, c.queue with
    | e :: errors, queue =>
      some { c with
        errors, queue := [], delivered := c.delivered ++ queue, phase := .stopping e }
    | [], queue =>
      if fired.contains c.token then some { c with phase := .stopping .cancelled }
      else
        match queue with
        | m :: queue => some { c with queue, delivered := c.delivered ++ [m] }
        | [] => none
  | .stopping e =>
    if c.workers.all fun w => w.phase matches .finished then some { c with phase := .returned e }
    else none
  | _ => none

def setWorker (i : Nat) (phase : WorkerPhase) (c : Consumer) : Consumer :=
  { c with workers := c.workers.modify i fun w => { w with phase } }

/-- An error that finds no room is lost by `try_send`. -/
def report (e : HubError) (c : Consumer) : Consumer :=
  if c.errors.length < c.capacity then { c with errors := c.errors ++ [e] } else c

/-- The error is reported unless the scope is cancelled. -/
def fail (fired : List Token) (i : Nat) (e : HubError) (c : Consumer) : Consumer :=
  (if c.isStopped fired then c else c.report e).setWorker i .closing

def answerWorker? (fired : List Token) (i : Nat) (outcome : HubResult PeerAnswer) (c : Consumer) :
    Option Consumer :=
  c.workers[i]?.bind fun w =>
    match w.phase, outcome with
    | .receiving, .ok (.received m) => some (c.setWorker i (.accepting m))
    | .receiving, .error e => some (c.fail fired i e)
    | .accepting m, .ok .done => some (c.setWorker i (.delivering m))
    | .accepting _, .error e => some (c.fail fired i e)
    | .closing, _ => some (c.setWorker i .finished)
    | _, _ => none

def deliver? (i : Nat) (c : Consumer) : Option Consumer :=
  c.workers[i]?.bind fun w =>
    match w.phase with
    | .delivering m =>
      if c.queue.length < c.capacity then
        some ({ c with queue := c.queue ++ [m] }.setWorker i .receiving)
      else none
    | _ => none

/-- While it waits for a message, or for room in the channel. -/
def stopWorker? (fired : List Token) (i : Nat) (c : Consumer) : Option Consumer :=
  c.workers[i]?.bind fun w =>
    match w.phase with
    | .receiving | .delivering _ =>
      if c.isStopped fired then some (c.setWorker i .closing) else none
    | _ => none

/-- The workers are aborted with the call; links stay open. -/
def drop (c : Consumer) : Consumer :=
  match c.phase with
  | .returned _ => c
  | _ =>
    { c with phase := .dropped, workers := c.workers.map fun w => { w with phase := .finished } }

def outcome? (c : Consumer) : Option HubError :=
  match c.phase with
  | .returned e => some e
  | _ => none

end Consumer
end DeviceHub.EventHub
