import DeviceHub.EventHub.Grant
import DeviceHub.Proofs.Dialogue
import DeviceHub.Rehearsal.Broker
import Mathlib.Data.List.Induction

/-!
Many calls of `put_token` over one session.  Every call opens a receiver for the responses and a
sender, sends its request and receives, step by step beside the others; the broker sends each
response to the receiver that was opened last.  What matters of a run is who opened a receiver and
who sent a request, in which order.
-/
namespace DeviceHub.Rehearsal

open EventHub

inductive ReplyMark where
  /-- A call takes the responses from now on. -/
  | opened (call : Nat)
  | sent (call : Nat)
  deriving DecidableEq

/-- What follows a mark directly. -/
def markAfter? (mark : ReplyMark) : List ReplyMark → Option ReplyMark
  | a :: b :: rest => if a = mark then some b else markAfter? mark (b :: rest)
  | _ => none

/-- What a call leaves on the way of the responses as the broker does what it asks for. -/
def replyMarks (call : Nat) : PeerRequest → List ReplyMark
  | .openReceiver _ => [.opened call]
  | .send .. => [.sent call]
  | _ => []

/-- The broker, the calls of `put_token` by number, the tokens that fired, and the marks. -/
structure TokenGrants where
  broker : Broker
  calls : List Exchange := []
  fired : List Token := []
  marks : List ReplyMark := []

inductive TokenGrantsEvent where
  | putToken (tokenType audience token messageId : String) (caller : Token)
  /-- The broker does what a call waits for, if it can. -/
  | ask (call : Nat)
  | cancel (call : Nat)
  | fire (token : Token)
  | drop (call : Nat)

namespace TokenGrants

def ask (call : Nat) (s : TokenGrants) : TokenGrants :=
  match s.calls[call]? with
  | none => s
  | some x =>
    match x.request? with
    | none => s
    | some request =>
      match s.broker.perform request with
      | (broker, .now outcome) =>
        { s with
          broker
          calls := s.calls.set call ((x.answer? outcome).getD x)
          marks := s.marks ++ replyMarks call request }
      | _ => s

/-- One event; what cannot happen changes nothing. -/
def step (s : TokenGrants) : TokenGrantsEvent → TokenGrants
  | .putToken tokenType audience token messageId caller =>
    { s with calls := s.calls ++ [tokenExchange tokenType audience token messageId caller] }
  | .ask call => s.ask call
  | .cancel call => { s with calls := s.calls.modify call fun x => (x.cancel? s.fired).getD x }
  | .fire token => { s with fired := token :: s.fired }
  | .drop call => { s with calls := s.calls.modify call Exchange.drop }

def run (broker : Broker) (events : List TokenGrantsEvent) : TokenGrants :=
  events.foldl step { broker }

@[simp] lemma run_append (broker : Broker) (events : List TokenGrantsEvent)
    (event : TokenGrantsEvent) : run broker (events ++ [event]) = (run broker events).step event :=
  List.foldl_append

def requests (s : TokenGrants) : List Message :=
  s.calls.map Exchange.request

end TokenGrants

section Marks

variable {mark other last : ReplyMark} {marks : List ReplyMark}

lemma markAfter?_concat :
    markAfter? mark (marks ++ [last]) =
      (markAfter? mark marks).or (if marks.getLast? = some mark then some last else none) := by
  induction marks with
  | nil => rfl
  | cons a rest ih =>
    cases rest with
    | nil => simp [markAfter?]
    | cons b rest =>
      simp only [List.cons_append, markAfter?, List.getLast?_cons_cons] at ih ⊢
      split
      · rfl
      · exact ih

lemma getLast?_of_markAfter?_eq_none (mem : mark ∈ marks) (h : markAfter? mark marks = none) :
    marks.getLast? = some mark := by
  induction marks with
  | nil => cases mem
  | cons a rest ih =>
    cases rest with
    | nil => simpa [eq_comm] using mem
    | cons b rest =>
      simp only [markAfter?] at h
      split at h
      · cases h
      next hne =>
        rw [List.getLast?_cons_cons]
        exact ih (List.mem_of_ne_of_mem (Ne.symm hne) mem) h

lemma markAfter?_eq_none_of_not_mem (h : mark ∉ marks) : markAfter? mark marks = none := by
  induction marks with
  | nil => rfl
  | cons a rest ih =>
    cases rest with
    | nil => rfl
    | cons b rest =>
      obtain ⟨hne, hrest⟩ := not_or.1 (mt List.mem_cons.2 h)
      simp only [markAfter?, if_neg (Ne.symm hne)]
      exact ih hrest

/-- What follows a mark once follows it for good. -/
lemma markAfter?_append (more : List ReplyMark) (h : markAfter? mark marks = some other) :
    markAfter? mark (marks ++ more) = some other := by
  induction more using List.reverseRecOn with
  | nil => rwa [List.append_nil]
  | append_singleton more last ih =>
    rw [← List.append_assoc, markAfter?_concat, ih]
    rfl

end Marks

def BrokerLink.put (m : Message) (l : BrokerLink) : BrokerLink :=
  { l with inbound := l.inbound ++ [.ok m] }

def BrokerLink.cut (l : BrokerLink) : BrokerLink :=
  { l with connected := false }

def IsOpen (links : List BrokerLink) (link : Nat) (options : LinkOptions) : Prop :=
  ∃ l, links[link]? = some l ∧ l.closed = false ∧ l.options = options

section IsOpen

variable {links : List BrokerLink} {link : Nat} {options : LinkOptions}

lemma IsOpen.append (h : IsOpen links link options) (more : List BrokerLink) :
    IsOpen (links ++ more) link options := by
  obtain ⟨l, hl, hrest⟩ := h
  exact ⟨l, (List.getElem?_append_left (List.getElem?_eq_some_iff.1 hl).1).trans hl, hrest⟩

lemma IsOpen.modify (h : IsOpen links link options) (changed : Nat)
    {change : BrokerLink → BrokerLink} (closed : ∀ l, (change l).closed = l.closed)
    (ends : ∀ l, (change l).options = l.options) :
    IsOpen (links.modify changed change) link options := by
  obtain ⟨l, hl, hopen, hoptions⟩ := h
  by_cases hlink : changed = link
  · exact ⟨change l, by simp [hlink, hl], (closed l).trans hopen, (ends l).trans hoptions⟩
  · exact ⟨l, by simp [hlink, hl], hopen, hoptions⟩

end IsOpen

namespace Broker

variable {b : Broker} {description : String}

/-- A broker that takes every token, with a success that it describes. -/
structure Grants (b : Broker) (description : String) : Prop where
  hears : b.silent = false
  correlates : b.wrongCorrelation = false
  status : b.tokenStatus = (Message.statusOk, description)

def tokenRoute? (b : Broker) : Option Nat :=
  b.replies.find? tokenReplyTo

/-- The receiver that a call opens takes the responses over from the one before. -/
lemma perform_openReceiver (h : b.Grants description) :
    ∃ b', b.perform (.openReceiver { source := some tokenNode }) =
        (b', .now (.ok (.opened b.links.length))) ∧
      b'.Grants description ∧ b'.tokenRoute? = some b.links.length ∧
      b'.links = (b.tokenRoute?.elim b.links fun route => b.links.modify route BrokerLink.cut) ++
        [{ options := { source := some tokenNode }, isReceiver := true }] := by
  refine ⟨b.linkReplies tokenReplyTo { source := some tokenNode }, rfl, ?_⟩
  unfold linkReplies tokenRoute?
  cases b.replies.find? tokenReplyTo with
  | none => exact ⟨⟨h.hears, h.correlates, h.status⟩, KeyMap.find?_insert_self _ _ _, rfl⟩
  | some route => exact ⟨⟨h.hears, h.correlates, h.status⟩, KeyMap.find?_insert_self _ _ _, rfl⟩

lemma perform_openSender (h : b.Grants description) :
    ∃ b', b.perform (.openSender { target := some tokenNode }) =
        (b', .now (.ok (.opened b.links.length))) ∧
      b'.Grants description ∧ b'.tokenRoute? = b.tokenRoute? ∧
      b'.links = b.links ++ [{ options := { target := some tokenNode }, isReceiver := false }] :=
  ⟨_, rfl, ⟨h.hears, h.correlates, h.status⟩, rfl, rfl⟩

lemma Grants.response_eq (h : b.Grants description) (request : Message) :
    ∃ granted, b.response tokenNode request =
      ({ b with granted }, request.responseTo Message.statusOk description) := by
  have hnode : ¬ tokenNode = managementNode := by decide
  let audience := (request.applicationProperties.find? "name").bind fun v => v.asString.toOption
  refine ⟨b.granted ++ [(audience.getD "", request.value.asString.toOption.getD "")], ?_⟩
  simp [response, hnode, h.status, Message.statusOk, h.correlates, audience]

/-- A request about a token is answered to the receiver that was opened last. -/
lemma perform_send (h : b.Grants description) {sender route : Nat} {request : Message}
    (opened : IsOpen b.links sender { target := some tokenNode })
    (reply : request.replyTo = some tokenReplyTo) (hroute : b.tokenRoute? = some route) :
    ∃ b', b.perform (.send sender request) = (b', .now (.ok .done)) ∧
      b'.Grants description ∧ b'.tokenRoute? = b.tokenRoute? ∧
      b'.links = b.links.modify route
        (BrokerLink.put (request.responseTo Message.statusOk description)) := by
  obtain ⟨l, hl, hclosed, hoptions⟩ := opened
  obtain ⟨granted, hresponse⟩ := h.response_eq request
  have hfind : b.replies.find? tokenReplyTo = some route := hroute
  refine ⟨{ b with granted }.deliver route (.ok (request.responseTo Message.statusOk description)),
    ?_, ⟨h.hears, h.correlates, h.status⟩, rfl, rfl⟩
  simp [perform, send, hl, hclosed, hoptions, respond, h.hears, hresponse, reply, hfind]

lemma perform_receive {receiver : Nat} {l : BrokerLink} {m : Message}
    {rest : List (HubResult Message)} (h : b.Grants description)
    (hl : b.links[receiver]? = some l) (opened : l.closed = false)
    (options : l.options = { source := some tokenNode }) (inbound : l.inbound = .ok m :: rest) :
    ∃ b', b.perform (.receive receiver) = (b', .now (.ok (.received m))) ∧
      b'.Grants description ∧ b'.tokenRoute? = b.tokenRoute? ∧
      b'.links = b.links.modify receiver fun l => { l with inbound := rest } := by
  have hnext : BrokerLink.next? l l.inbound = some (.ok m, rest) := by
    simp [inbound, BrokerLink.next?, BrokerLink.passes, options]
  refine ⟨b.modifyLink receiver fun l => { l with inbound := rest }, ?_,
    ⟨h.hears, h.correlates, h.status⟩, rfl, rfl⟩
  simp [perform, receive, hl, opened, hnext, Except.map]

/-- Who lost the responses to another before any came receives none. -/
lemma perform_receive_of_cut {receiver : Nat} {l : BrokerLink} (h : b.Grants description)
    (hl : b.links[receiver]? = some l) (opened : l.closed = false) (inbound : l.inbound = [])
    (cut : l.connected = false) :
    ∃ b', b.perform (.receive receiver) = (b', .now (.error .closed)) ∧
      b'.Grants description ∧ b'.tokenRoute? = b.tokenRoute? ∧
      b'.links = b.links.modify receiver fun l => { l with inbound := [] } := by
  refine ⟨b.modifyLink receiver fun l => { l with inbound := [] }, ?_,
    ⟨h.hears, h.correlates, h.status⟩, rfl, rfl⟩
  simp [perform, receive, hl, opened, inbound, BrokerLink.next?, cut]

lemma perform_closeLink (h : b.Grants description) (link : Nat) :
    ∃ b', b.perform (.closeLink link) = (b', .now (.ok .done)) ∧
      b'.Grants description ∧ b'.tokenRoute? = b.tokenRoute? ∧
      b'.links = b.links.modify link fun l => { l with closed := true } :=
  ⟨_, rfl, ⟨h.hears, h.correlates, h.status⟩, rfl, rfl⟩

lemma perform_accept (h : b.Grants description) (link : Nat) (m : Message) :
    ∃ b', b.perform (.accept link m) = (b', .now (.ok .done)) ∧
      b'.Grants description ∧ b'.tokenRoute? = b.tokenRoute? ∧ b'.links = b.links :=
  ⟨_, rfl, ⟨h.hears, h.correlates, h.status⟩, rfl, rfl⟩

end Broker
end DeviceHub.Rehearsal
