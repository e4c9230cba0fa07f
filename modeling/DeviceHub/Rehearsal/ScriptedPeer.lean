import DeviceHub.Rehearsal.EventHub

/-!
A broker that follows a script and keeps a log: every request may be made to fail or to hang, and
receivers get the messages the script has for their source.
-/
namespace DeviceHub.Rehearsal

open EventHub

inductive Obstacle where
  | none
  | fails (e : HubError)
  | hangs

inductive ScriptedItem where
  | fails (e : HubError)
  /-- With `echo` it becomes a response to what was sent last, with a status if there is one. -/
  | message (m : Message) (echo : Bool) (status : Option (Int × String))

structure LinkScript where
  opening : Obstacle := .none
  accepting : Obstacle := .none
  /-- So many messages are accepted before the script has a say in it. -/
  acceptAfter : Nat := 0
  closing : Obstacle := .none
  items : List ScriptedItem := []

inductive LogEntry where
  | dialed (hostname : String)
  | openedSession
  | openedSender (options : LinkOptions)
  | openedReceiver (options : LinkOptions)
  | sent (m : Message)
  | accepted (value : Value)
  | closed

/-- Its name in the log, its script, and how many messages it accepted. -/
structure ScriptedLink where
  name : String
  script : LinkScript
  accepts : Nat := 0

structure ScriptedPeer where
  receivers : KeyMap LinkScript := []
  dialing : Obstacle := .none
  openingSession : Obstacle := .none
  openingSender : Obstacle := .none
  sending : Obstacle := .none
  closingSender : Obstacle := .none
  closingSession : Obstacle := .none
  closingConnection : Obstacle := .none
  links : List ScriptedLink := []
  sent : Option Message := none
  log : KeyMap (List LogEntry) := []

namespace ScriptedPeer

def note (name : String) (entry : LogEntry) (p : ScriptedPeer) : ScriptedPeer :=
  { p with log := p.log.insert name ((p.log.find? name).getD [] ++ [entry]) }

def meet (o : Obstacle) (answer : PeerAnswer) : Reaction :=
  match o with
  | .none => .now (.ok answer)
  | .fails e => .now (.error e)
  | .hangs => .never

def openLink (o : Obstacle) (name : String) (script : LinkScript) (p : ScriptedPeer) :
    ScriptedPeer × Reaction :=
  match o with
  | .none =>
    ({ p with links := p.links ++ [{ name, script }] }, .now (.ok (.opened p.links.length)))
  | o => (p, meet o .done)

def scripted (sent : Option Message) (m : Message) (echo : Bool) (status : Option (Int × String)) :
    Message :=
  let m := if echo then { m with correlationId := sent.bind Message.messageId } else m
  match status with
  | none => m
  | some (code, description) =>
    (m.withProperty Message.statusCodeKey (.int (Int64.ofInt code))).withProperty
      Message.statusDescriptionKey (.string description)

def link (p : ScriptedPeer) (i : Nat) : ScriptedLink :=
  p.links[i]?.getD ⟨"", {}, 0⟩

def receive (i : Nat) (p : ScriptedPeer) : ScriptedPeer × Reaction :=
  let l := p.link i
  let rest (items : List ScriptedItem) : ScriptedPeer :=
    { p with links := p.links.set i { l with script := { l.script with items } } }
  match l.script.items with
  | [] => (p, .never)
  | .fails e :: items => (rest items, .now (.error e))
  | .message m echo status :: items =>
    (rest items, .now (.ok (.received (scripted p.sent m echo status))))

def perform (request : PeerRequest) (p : ScriptedPeer) : ScriptedPeer × Reaction :=
  match request with
  | .dial hostname => (p.note "connection" (.dialed hostname), meet p.dialing .done)
  | .openSession => (p.note "connection" .openedSession, meet p.openingSession .done)
  | .closeSession => (p.note "session" .closed, meet p.closingSession .done)
  | .closeConnection => (p.note "connection" .closed, meet p.closingConnection .done)
  | .openReceiver options =>
    let source := options.source.getD ""
    let script := (p.receivers.find? source).getD {}
    (p.note "session" (.openedReceiver options)).openLink script.opening ("receiver:" ++ source)
      script
  | .openSender options =>
    (p.note "session" (.openedSender options)).openLink p.openingSender
      ("sender:" ++ options.target.getD "") { closing := p.closingSender }
  | .send i m =>
    ({ p with sent := some m }.note (p.link i).name (.sent m), meet p.sending .done)
  | .receive i => p.receive i
  | .accept i m =>
    let l := p.link i
    let p := p.note l.name (.accepted m.value)
    ({ p with links := p.links.set i { l with accepts := l.accepts + 1 } },
      meet (if l.accepts < l.script.acceptAfter then .none else l.script.accepting) .done)
  | .closeLink i =>
    let l := p.link i
    (p.note l.name .closed, meet l.script.closing .done)

instance : Peer ScriptedPeer where
  perform := perform

end ScriptedPeer
end DeviceHub.Rehearsal
