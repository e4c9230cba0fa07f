import DeviceHub.EventHub.Client
import Mathlib.Data.List.Induction

/-!
What an `EventHubClient` has closed.  What the broker is asked to close is recorded in order, with
its answers.  A call that is not closing anything does not come to it, and leaves nothing on record.
-/
namespace DeviceHub.EventHub

inductive Closing where
  | session
  | connection
  deriving DecidableEq

def PeerRequest.closing? : PeerRequest → Option Closing
  | .closeSession => some .session
  | .closeConnection => some .connection
  | _ => none

/-- What was asked to be closed, and what came of it. -/
inductive ClosingStep where
  | asked (part : Closing)
  | answered (part : Closing) (outcome : HubResult PeerAnswer)

def ClosingStep.asked? : ClosingStep → Option Closing
  | asked part => some part
  | answered .. => none

/-- What somebody has done who waited for one thing to be closed and after an event, perhaps an
answer, waits for another. -/
def ClosingStep.between (before after : Option Closing) (answer : Option (HubResult PeerAnswer)) :
    List ClosingStep :=
  match before, answer with
  | some part, some outcome => answered part outcome :: (after.map asked).toList
  | _, _ => if before = after then [] else (after.map asked).toList

@[simp]
lemma ClosingStep.between_none (answer : Option (HubResult PeerAnswer)) :
    between none none answer = [] := by
  cases answer <;> rfl

lemma Exchange.not_closing (x : Exchange) : x.request?.bind PeerRequest.closing? = none := by
  unfold Exchange.request?
  cases x.phase <;> rfl

namespace Activity

def closing? (a : Activity) : Option Closing :=
  (a.request? 0).bind PeerRequest.closing?

def Quiet : Activity → Prop
  | closingSession | closingConnection => False
  | _ => True

lemma Quiet.closing?_eq_none {a : Activity} (h : a.Quiet) : a.closing? = none := by
  cases a with
  | exchanging x => exact x.not_closing
  | discovering x => exact x.not_closing
  | granting x => exact x.not_closing
  | renewing g =>
    simp only [closing?, request?, Grant.request?]
    split
    · exact Exchange.not_closing _
    · exact Exchange.not_closing _
    · rfl
  | consuming c =>
    simp only [closing?, request?, Consumer.request?]
    split
    · exact Exchange.not_closing _
    · rfl
    · rfl
  | closingSession => exact h.elim
  | closingConnection => exact h.elim
  | returned outcome => rfl
  | dropped => rfl

/-- Only the call itself closes, none of its workers. -/
lemma not_closing_succ (part : Nat) (a : Activity) :
    (a.request? (part + 1)).bind PeerRequest.closing? = none := by
  cases a with
  | consuming c =>
    simp only [request?]
    cases c.workers[part]? with
    | none => rfl
    | some w =>
      simp only [Option.bind_some, Worker.request?]
      split <;> rfl
  | _ => rfl

lemma quiet_ofExchange {reply : Message → HubResult ClientReply} {wrap : Exchange → Activity}
    (h : ∀ x, (wrap x).Quiet) (x : Exchange) : (ofExchange reply wrap x).Quiet := by
  unfold ofExchange
  split
  · exact h x
  · trivial

lemma quiet_ofExchanging (x : Exchange) : (ofExchanging x).Quiet := by
  apply quiet_ofExchange
  intro y
  trivial

lemma quiet_ofDiscovering (x : Exchange) : (ofDiscovering x).Quiet := by
  apply quiet_ofExchange
  intro y
  trivial

lemma quiet_ofGranting (x : Exchange) : (ofGranting x).Quiet := by
  apply quiet_ofExchange
  intro y
  trivial

lemma quiet_renewing (g : Grant) : (renewing g).Quiet :=
  trivial

lemma quiet_consuming (c : Consumer) : (consuming c).Quiet :=
  trivial

end Activity

def ClientEvent.act (s : Client) (call : Nat) (a : Activity) : ClientEvent → Activity
  | .answer other part outcome =>
    if other = call then (a.answer? s.clock s.fired part outcome).getD a else a
  | .resume other part messageId =>
    if other = call then (a.resume? s.clock s.fired messageId part).getD a else a
  | .cancel other part => if other = call then (a.cancel? s.clock s.fired part).getD a else a
  | .drop other => if other = call then a.drop else a
  | _ => a

/-- The call that an event happens to. -/
def ClientEvent.call? : ClientEvent → Option Nat
  | .answer call _ _ | .resume call _ _ | .cancel call _ | .drop call => some call
  | _ => none

def ClientEvent.heard? : ClientEvent → Option (HubResult PeerAnswer)
  | .answer _ 0 outcome => some outcome
  | _ => none

namespace Activity

variable {a : Activity}

lemma Quiet.getD_map (h : a.Quiet) {α : Type} {f : α → Activity} (hf : ∀ x, (f x).Quiet)
    (next : Option α) : ((next.map f).getD a).Quiet := by
  cases next with
  | none => exact h
  | some x => exact hf x

lemma Quiet.answer? (h : a.Quiet) (clock : Nat) (fired : List Token) (part : Nat)
    (outcome : HubResult PeerAnswer) : ((a.answer? clock fired part outcome).getD a).Quiet := by
  cases a with
  | closingSession => exact h.elim
  | closingConnection => exact h.elim
  | exchanging x =>
    cases part with
    | zero => exact h.getD_map quiet_ofExchanging _
    | succ part => exact h
  | discovering x =>
    cases part with
    | zero => exact h.getD_map quiet_ofDiscovering _
    | succ part => exact h
  | granting x =>
    cases part with
    | zero => exact h.getD_map quiet_ofGranting _
    | succ part => exact h
  | renewing g =>
    cases part with
    | zero => exact h.getD_map quiet_renewing _
    | succ part => exact h
  | consuming c => cases part <;> exact h.getD_map quiet_consuming _
  | returned outcome => exact h
  | dropped => exact h

lemma Quiet.resume? (h : a.Quiet) (clock : Nat) (fired : List Token) (messageId : String)
    (part : Nat) : ((a.resume? clock fired messageId part).getD a).Quiet := by
  cases a with
  | renewing g =>
    cases part with
    | zero => exact h.getD_map quiet_renewing _
    | succ part => exact h
  | consuming c => cases part <;> exact h.getD_map quiet_consuming _
  | _ => exact h

lemma Quiet.cancel? (h : a.Quiet) (clock : Nat) (fired : List Token) (part : Nat) :
    ((a.cancel? clock fired part).getD a).Quiet := by
  cases a with
  | exchanging x =>
    cases part with
    | zero => exact h.getD_map quiet_ofExchanging _
    | succ part => exact h
  | discovering x =>
    cases part with
    | zero => exact h.getD_map quiet_ofDiscovering _
    | succ part => exact h
  | granting x =>
    cases part with
    | zero => exact h.getD_map quiet_ofGranting _
    | succ part => exact h
  | renewing g =>
    cases part with
    | zero => exact h.getD_map quiet_renewing _
    | succ part => exact h
  | consuming c => cases part <;> exact h.getD_map quiet_consuming _
  | _ => exact h

lemma Quiet.drop (h : a.Quiet) : a.drop.Quiet := by
  cases a <;> trivial

lemma Quiet.act (h : a.Quiet) (s : Client) (call : Nat) (event : ClientEvent) :
    (event.act s call a).Quiet := by
  cases event with
  | answer other part outcome =>
    simp only [ClientEvent.act]
    split
    · exact h.answer? ..
    · exact h
  | resume other part messageId =>
    simp only [ClientEvent.act]
    split
    · exact h.resume? ..
    · exact h
  | cancel other part =>
    simp only [ClientEvent.act]
    split
    · exact h.cancel? ..
    · exact h
  | drop other =>
    simp only [ClientEvent.act]
    split
    · exact h.drop
    · exact h
  | _ => exact h

/-- What a call came to is for good, and so is its having been dropped. -/
lemma act_of_ended (h : a = dropped ∨ ∃ outcome, a = returned outcome) (s : Client) (call : Nat)
    (event : ClientEvent) : event.act s call a = a := by
  obtain rfl | ⟨outcome, rfl⟩ := h
  all_goals
    cases event with
    | answer other part answer => exact ite_self _
    | resume other part messageId => exact ite_self _
    | cancel other part => exact ite_self _
    | drop other => exact ite_self _
    | _ => rfl

@[simp]
lemma act_returned (s : Client) (call : Nat) (event : ClientEvent)
    (outcome : HubResult ClientReply) : event.act s call (returned outcome) = returned outcome :=
  act_of_ended (.inr ⟨outcome, rfl⟩) s call event

@[simp]
lemma act_dropped (s : Client) (call : Nat) (event : ClientEvent) :
    event.act s call dropped = dropped :=
  act_of_ended (.inl rfl) s call event

/-- What a request begins with is not closing, unless it is the request to close. -/
lemma quiet_start (clock : Nat) (token : Token) {request : ClientRequest}
    (h : request ≠ .close) : (start clock token request).Quiet := by
  cases request with
  | exchange receiver sender request => exact quiet_ofExchanging _
  | partitions name replyTo messageId => exact quiet_ofDiscovering _
  | putToken tokenType audience token messageId => exact quiet_ofGranting _
  | putTokenContinuously plan messageId => trivial
  | consume name group replyTo messageId since => trivial
  | close => exact absurd rfl h

end Activity

namespace Client

variable {s : Client}

/-- What `dial` waits to have closed. -/
def dialClosing? (s : Client) : Option Closing :=
  s.dialRequest?.bind PeerRequest.closing?

def closing? (s : Client) (call : Nat) : Option Closing :=
  s.calls[call]?.bind Activity.closing?

def closingSteps (s : Client) (event : ClientEvent) : List ClosingStep :=
  match event with
  | .dialed outcome => ClosingStep.between s.dialClosing? (s.step event).dialClosing? (some outcome)
  | .start _ _ => ClosingStep.between none ((s.step event).closing? s.calls.length) none
  | event =>
    event.call?.elim [] fun call =>
      ClosingStep.between (s.closing? call) ((s.step event).closing? call) event.heard?

def record (s : Client) : List ClientEvent → List ClosingStep
  | [] => []
  | event :: events => s.closingSteps event ++ (s.step event).record events

def run (s : Client) (events : List ClientEvent) : Client :=
  events.foldl step s

lemma run_append (s : Client) (events more : List ClientEvent) :
    s.run (events ++ more) = (s.run events).run more :=
  List.foldl_append ..

lemma record_append (s : Client) (events more : List ClientEvent) :
    s.record (events ++ more) = s.record events ++ (s.run events).record more := by
  induction events generalizing s with
  | nil => rfl
  | cons event events ih => simp only [List.cons_append, record, run, List.foldl_cons, ih,
      List.append_assoc]

lemma change?_calls (s : Client) (call : Nat) (f : Activity → Option Activity) (i : Nat) :
    ((s.change? call f).getD s).calls[i]? =
      s.calls[i]?.map fun a => if call = i then (f a).getD a else a := by
  by_cases heq : call = i
  · subst heq
    cases hcall : s.calls[call]? with
    | none => simp [change?, hcall]
    | some a =>
      have hlt := (List.getElem?_eq_some_iff.1 hcall).1
      cases hf : f a with
      | none => simp [change?, hcall, hf]
      | some b => simp [change?, hcall, hf, List.getElem?_set_self hlt]
  · have hother : ((s.change? call f).getD s).calls[i]? = s.calls[i]? := by
      cases h : s.calls[call]?.bind f with
      | none => simp [change?, h]
      | some b => simp [change?, h, List.getElem?_set_ne heq]
    rw [hother]
    simp [heq]

lemma change?_phase (s : Client) (call : Nat) (f : Activity → Option Activity) :
    ((s.change? call f).getD s).phase = s.phase := by
  cases h : s.calls[call]?.bind f <;> simp [change?, h]

/-- What a call begins with. -/
def begun (s : Client) (token : Token) (request : ClientRequest) : Activity :=
  match s.phase, request with
  | .live, request => .start s.clock token request
  | _, .close => .returned (.ok .done)
  | _, _ => .returned (.error .closed)

def fresh (s : Client) : ClientEvent → List Activity
  | .start request token => [s.begun token request]
  | _ => []

lemma start_calls (s : Client) (request : ClientRequest) (token : Token) :
    (s.start request token).calls = s.calls ++ [s.begun token request] := by
  unfold start begun
  split <;> simp_all [Activity.start]

/-- An event changes the calls there are, and begins others after them. -/
lemma step_calls (s : Client) (event : ClientEvent) :
    (s.step event).calls =
      s.calls.mapIdx (fun call a => event.act s call a) ++ s.fresh event := by
  have hsame : s.calls = s.calls.mapIdx fun _ a => a := by
    apply List.ext_getElem?
    simp
  cases event with
  | dialed outcome => simpa [step, fresh, ClientEvent.act] using hsame
  | start request token => simpa [step, fresh, ClientEvent.act, start_calls] using hsame
  | answer call part outcome =>
    apply List.ext_getElem?
    intro i
    simp [step, fresh, ClientEvent.act, answer?, change?_calls]
  | resume call part messageId =>
    apply List.ext_getElem?
    intro i
    simp [step, fresh, ClientEvent.act, resume?, change?_calls]
  | cancel call part =>
    apply List.ext_getElem?
    intro i
    simp [step, fresh, ClientEvent.act, cancel?, change?_calls]
  | drop call =>
    apply List.ext_getElem?
    intro i
    simp [step, fresh, ClientEvent.act, change?_calls]
  | fire token => simpa [step, fresh, ClientEvent.act] using hsame
  | clock now => simpa [step, fresh, ClientEvent.act] using hsame

lemma getElem?_step {call : Nat} {a : Activity} (h : s.calls[call]? = some a)
    (event : ClientEvent) : (s.step event).calls[call]? = some (event.act s call a) := by
  have hlt := (List.getElem?_eq_some_iff.1 h).1
  rw [step_calls, List.getElem?_append_left (by simpa using hlt), List.getElem?_mapIdx, h]
  rfl

/-- A call there is after an event was there before it, or the event begins it. -/
lemma getElem?_step_cases {call : Nat} {b : Activity} {event : ClientEvent}
    (h : (s.step event).calls[call]? = some b) :
    (∃ a, s.calls[call]? = some a ∧ b = event.act s call a) ∨
      (call = s.calls.length ∧ b ∈ s.fresh event) := by
  cases hcall : s.calls[call]? with
  | some a =>
    rw [getElem?_step hcall] at h
    exact .inl ⟨a, rfl, (Option.some.inj h).symm⟩
  | none =>
    have hle : s.calls.length ≤ call := List.getElem?_eq_none_iff.1 hcall
    rw [step_calls, List.getElem?_append_right (by simpa using hle)] at h
    obtain ⟨hlt, hget⟩ := List.getElem?_eq_some_iff.1 h
    have hone : (s.fresh event).length ≤ 1 := by cases event <;> simp [fresh]
    simp only [List.length_mapIdx] at hlt
    refine .inr ⟨by omega, ?_⟩
    rw [← hget]
    exact List.getElem_mem _

lemma step_closed (h : s.phase = .closed) (event : ClientEvent) :
    (s.step event).phase = .closed := by
  cases event with
  | dialed outcome => simp [step, h, dialed?]
  | start request token =>
    simp only [step, start]
    split <;> simp_all
  | answer call part outcome => exact (change?_phase ..).trans h
  | resume call part messageId => exact (change?_phase ..).trans h
  | cancel call part => exact (change?_phase ..).trans h
  | fire token => exact h
  | clock now => exact h
  | drop call => exact (change?_phase ..).trans h

/-- Beyond an answer to the dialing and the close of a live client, nothing changes the phase. -/
lemma step_phase {event : ClientEvent} (hdialed : ∀ outcome, event ≠ .dialed outcome)
    (hclose : ∀ token, event = .start .close token → s.phase ≠ .live) :
    (s.step event).phase = s.phase := by
  cases event with
  | dialed outcome => exact absurd rfl (hdialed outcome)
  | start request token =>
    simp only [step, start]
    split
    · next hlive => exact absurd hlive (hclose token rfl)
    · rfl
    · rfl
    · rfl
  | answer call part outcome => exact change?_phase ..
  | resume call part messageId => exact change?_phase ..
  | cancel call part => exact change?_phase ..
  | fire token => rfl
  | clock now => rfl
  | drop call => exact change?_phase ..

lemma closingSteps_eq {event : ClientEvent} {call : Nat} (h : event.call? = some call) :
    s.closingSteps event =
      ClosingStep.between (s.closing? call) ((s.step event).closing? call) event.heard? := by
  cases event <;> cases h <;> rfl

/-- Calls that are not closing anything leave nothing on record, whatever happens to them. -/
lemma closingSteps_of_quiet {event : ClientEvent} {call : Nat} (hcall : event.call? = some call)
    (quiet : ∀ a, s.calls[call]? = some a → a.Quiet) : s.closingSteps event = [] := by
  have hbefore : s.closing? call = none := by
    rw [closing?, Option.bind_eq_none_iff]
    exact fun a ha => (quiet a ha).closing?_eq_none
  have hafter : (s.step event).closing? call = none := by
    rw [closing?, Option.bind_eq_none_iff]
    intro b hb
    obtain ⟨a, ha, rfl⟩ | ⟨-, hfresh⟩ := getElem?_step_cases hb
    · exact ((quiet a ha).act s call event).closing?_eq_none
    · cases event <;> simp_all [fresh, ClientEvent.call?]
  rw [closingSteps_eq hcall, hbefore, hafter, ClosingStep.between_none]

lemma act_of_call?_ne {event : ClientEvent} {call : Nat} (h : event.call? ≠ some call)
    (a : Activity) : event.act s call a = a := by
  cases event with
  | answer other part outcome => exact if_neg fun heq => h (congrArg some heq)
  | resume other part messageId => exact if_neg fun heq => h (congrArg some heq)
  | cancel other part => exact if_neg fun heq => h (congrArg some heq)
  | drop other => exact if_neg fun heq => h (congrArg some heq)
  | _ => rfl

/-- How far a `close` is and what is on record then. -/
inductive Tells : Activity → List ClosingStep → Prop
  | session : Tells .closingSession [.asked .session]
  | connection (outcome : HubResult PeerAnswer) :
      Tells .closingConnection
        [.asked .session, .answered .session outcome, .asked .connection]
  | returned (outcome last : HubResult PeerAnswer) :
      Tells (.returned (last.map fun _ => .done))
        [.asked .session, .answered .session outcome, .asked .connection,
          .answered .connection last]
  | sessionDropped : Tells .dropped [.asked .session]
  | connectionDropped (outcome : HubResult PeerAnswer) :
      Tells .dropped [.asked .session, .answered .session outcome, .asked .connection]

lemma closingSteps_of_call {call : Nat} {a : Activity} (hcall : s.calls[call]? = some a)
    {event : ClientEvent} (hevent : event.call? = some call) :
    s.closingSteps event =
      ClosingStep.between a.closing? (event.act s call a).closing? event.heard? := by
  rw [closingSteps_eq hevent, closing?, closing?, hcall, getElem?_step hcall, Option.bind_some,
    Option.bind_some]

/-- A close hears from the broker and goes on, or it is dropped, or it is left alone. -/
lemma act_closing_cases {event : ClientEvent} {call : Nat} (hevent : event.call? = some call) :
    (∃ outcome, event.heard? = some outcome ∧
      event.act s call .closingSession = .closingConnection ∧
      event.act s call .closingConnection = .returned (outcome.map fun _ => .done)) ∨
    (event = .drop call ∧ event.act s call .closingSession = .dropped ∧
      event.act s call .closingConnection = .dropped) ∨
    (event.heard? = none ∧ event.act s call .closingSession = .closingSession ∧
      event.act s call .closingConnection = .closingConnection) := by
  cases event with
  | answer other part outcome =>
    cases hevent
    -- a close has no workers, so nobody is answered but the close itself
    cases part with
    | zero =>
      refine .inl ⟨outcome, rfl, ?_, ?_⟩ <;> simp [ClientEvent.act, Activity.answer?]
    | succ part =>
      refine .inr (.inr ⟨rfl, ?_, ?_⟩) <;> simp [ClientEvent.act, Activity.answer?]
  | resume other part messageId =>
    cases hevent
    refine .inr (.inr ⟨rfl, ?_, ?_⟩) <;> simp [ClientEvent.act, Activity.resume?]
  | cancel other part =>
    cases hevent
    refine .inr (.inr ⟨rfl, ?_, ?_⟩) <;> simp [ClientEvent.act, Activity.cancel?]
  | drop other =>
    cases hevent
    refine .inr (.inl ⟨rfl, ?_, ?_⟩) <;> simp [ClientEvent.act, Activity.drop]
  | _ => cases hevent

lemma Tells.step {call : Nat} {a : Activity} {record : List ClosingStep} (h : Tells a record)
    (hcall : s.calls[call]? = some a) {event : ClientEvent} (hevent : event.call? = some call) :
    Tells (event.act s call a) (record ++ s.closingSteps event) := by
  have hsteps := closingSteps_of_call hcall hevent
  have hquiet (quiet : a.Quiet) : s.closingSteps event = [] := by
    refine closingSteps_of_quiet hevent fun b hb => ?_
    rwa [Option.some.inj (hb.symm.trans hcall)]
  cases h with
  | session =>
    rw [hsteps]
    obtain ⟨outcome, hheard, hact, -⟩ | ⟨rfl, hact, -⟩ | ⟨hheard, hact, -⟩ :=
      act_closing_cases (s := s) hevent
    · rw [hact, hheard]
      exact .connection outcome
    · rw [hact]
      exact .sessionDropped
    · rw [hact, hheard]
      exact .session
  | connection first =>
    rw [hsteps]
    obtain ⟨outcome, hheard, -, hact⟩ | ⟨rfl, -, hact⟩ | ⟨hheard, -, hact⟩ :=
      act_closing_cases (s := s) hevent
    · rw [hact, hheard]
      exact .returned first outcome
    · rw [hact]
      exact .connectionDropped first
    · rw [hact, hheard]
      exact .connection first
  | returned first last =>
    rw [Activity.act_returned, hquiet trivial, List.append_nil]
    exact .returned first last
  | sessionDropped =>
    rw [Activity.act_dropped, hquiet trivial, List.append_nil]
    exact .sessionDropped
  | connectionDropped first =>
    rw [Activity.act_dropped, hquiet trivial, List.append_nil]
    exact .connectionDropped first

lemma Tells.act_dropped {call : Nat} {a : Activity} {record : List ClosingStep} (h : Tells a record)
    {event : ClientEvent} (hevent : event.call? = some call)
    (hdropped : event.act s call a = .dropped) : a = .dropped ∨ event = .drop call := by
  cases h with
  | session =>
    obtain ⟨outcome, -, hact, -⟩ | ⟨rfl, -⟩ | ⟨-, hact, -⟩ := act_closing_cases (s := s) hevent
    · cases hact.symm.trans hdropped
    · exact .inr rfl
    · cases hact.symm.trans hdropped
  | connection first =>
    obtain ⟨outcome, -, -, hact⟩ | ⟨rfl, -⟩ | ⟨-, -, hact⟩ := act_closing_cases (s := s) hevent
    · cases hact.symm.trans hdropped
    · exact .inr rfl
    · cases hact.symm.trans hdropped
  | returned first last => cases (Activity.act_returned ..).symm.trans hdropped
  | sessionDropped => exact .inl rfl
  | connectionDropped first => exact .inl rfl

def Quiet (s : Client) : Prop :=
  ∀ (call : Nat) (a : Activity), s.calls[call]? = some a → a.Quiet

lemma Quiet.step (h : s.Quiet) {event : ClientEvent}
    (hfresh : ∀ a ∈ s.fresh event, a.Quiet) : (s.step event).Quiet := by
  intro call b hb
  obtain ⟨a, ha, rfl⟩ | ⟨-, hmem⟩ := getElem?_step_cases hb
  · exact (h call a ha).act s call event
  · exact hfresh b hmem

/-- A call that begins is not closing anything, unless it is the close of a live client. -/
lemma fresh_quiet {event : ClientEvent}
    (hclose : ∀ token, event = .start .close token → s.phase ≠ .live) :
    ∀ a ∈ s.fresh event, a.Quiet := by
  cases event with
  | start request token =>
    intro a ha
    obtain rfl := List.mem_singleton.1 ha
    unfold begun
    split
    · next hlive =>
      refine Activity.quiet_start s.clock token fun heq => ?_
      subst heq
      exact hclose token rfl hlive
    · trivial
    · trivial
  | _ => simp [fresh]

lemma closingSteps_eq_nil {event : ClientEvent}
    (hdialed : ∀ outcome, event = .dialed outcome →
      s.dialClosing? = none ∧ (s.step event).dialClosing? = none)
    (hfresh : ∀ a ∈ s.fresh event, a.Quiet)
    (hcalls : ∀ call a, event.call? = some call → s.calls[call]? = some a → a.Quiet) :
    s.closingSteps event = [] := by
  cases hcall : event.call? with
  | some call => exact closingSteps_of_quiet hcall fun a ha => hcalls call a hcall ha
  | none =>
    cases event with
    | dialed outcome =>
      obtain ⟨hbefore, hafter⟩ := hdialed outcome rfl
      rw [closingSteps, hbefore, hafter, ClosingStep.between_none]
    | start request token =>
      have hquiet : (s.begun token request).Quiet := hfresh _ (List.mem_singleton_self _)
      have hafter : (s.step (.start request token)).closing? s.calls.length = none := by
        simp [closing?, step, start_calls, hquiet.closing?_eq_none]
      rw [closingSteps, hafter, ClosingStep.between_none]
    | fire token => rfl
    | clock now => rfl
    | _ => cases hcall

end Client
end DeviceHub.EventHub
