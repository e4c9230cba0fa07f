import DeviceHub.Multiplexer.FanOut
import DeviceHub.Proofs.Closing

/-!
A `FanOut` and those who hold its `Subscription`s.  They subscribe, are taken out, receive and are
dropped in any order while items are published and the multiplexer is closed.
-/
namespace DeviceHub

inductive FanOutEvent (α : Type) where
  | subscribe
  | unsubscribe (id : Nat)
  | publish (item : α)
  | close (e : HubError)
  | receive (id : Nat)
  | drop (id : Nat)

instance {α : Type} : Closes (FanOutEvent α) where
  error?
    | .close e => some e
    | _ => none

/-- A fan-out, and everything that was received with the numbers of those who did. -/
structure Broadcast (α : Type) where
  mux : Multiplexer (FanOut α) := { dispatch := {} }
  record : List (Nat × HubResult α) := []

namespace Broadcast

variable {α : Type}

def receivedBy (id : Nat) (s : Broadcast α) : List (HubResult α) :=
  s.record.filterMap fun entry => if entry.1 = id then some entry.2 else none

def channel? (id : Nat) (s : Broadcast α) : Option (Channel α) :=
  s.mux.dispatch.channels[id]?

/-- Receives for a subscriber what is there, while its handle is held. -/
def receive (id : Nat) (s : Broadcast α) : Broadcast α :=
  match (s.channel? id).any Channel.held, s.mux.receive? id with
  | true, some (item, mux) => { mux, record := s.record ++ [(id, item)] }
  | _, _ => s

/-- One event; what cannot happen changes nothing. -/
def step (s : Broadcast α) : FanOutEvent α → Broadcast α
  | .subscribe =>
    match s.mux.subscribe with
    | .ok (mux, _) => { s with mux }
    | .error _ => s
  | .unsubscribe id => { s with mux := s.mux.unsubscribe id }
  | .publish item => { s with mux := s.mux.publish item }
  | .close e => { s with mux := s.mux.close e }
  | .receive id => s.receive id
  | .drop id => { s with mux := s.mux.release id }

def run (events : List (FanOutEvent α)) : Broadcast α :=
  events.foldl step {}

@[simp] lemma run_append (events : List (FanOutEvent α)) (event : FanOutEvent α) :
    run (events ++ [event]) = (run events).step event :=
  List.foldl_append

end Broadcast

namespace FanOutEvent

variable {α : Type}

def item? : FanOutEvent α → Option α
  | publish item => some item
  | _ => none

/-- The error with which an event ends what a subscriber gets. -/
def ending? (id : Nat) : FanOutEvent α → Option HubError
  | unsubscribe i => if i = id then some .closed else none
  | close e => some e
  | _ => none

/-- Whether an event is about one subscriber only. -/
def concerns (id : Nat) : FanOutEvent α → Bool
  | unsubscribe i | receive i | drop i => i = id
  | _ => false

end FanOutEvent

section Stream

variable {α : Type} {id : Nat} {events more : List (FanOutEvent α)}

/-- The error that ends what a subscriber gets of these events. -/
def terminal? (id : Nat) (events : List (FanOutEvent α)) : Option HubError :=
  events.findSome? (·.ending? id)

/-- What is published before a subscriber's end. -/
def window (id : Nat) : List (FanOutEvent α) → List α
  | [] => []
  | event :: events =>
    match event.ending? id with
    | some _ => []
    | none => event.item?.toList ++ window id events

/-- What the receives of a subscriber give, by number: the items one by one, then the error of its
end again and again; `none` when there is nothing yet. -/
def upcoming (items : List α) (terminal : Option HubError) (n : Nat) : Option (HubResult α) :=
  match items[n]? with
  | some item => some (.ok item)
  | none => terminal.map .error

lemma terminal?_append :
    terminal? id (events ++ more) = (terminal? id events).or (terminal? id more) :=
  List.findSome?_append

lemma window_append_of_none (h : terminal? id events = none) :
    window id (events ++ more) = window id events ++ window id more := by
  induction events with
  | nil => rfl
  | cons event events ih =>
    have hall := List.findSome?_eq_none_iff.1 h
    have hevent : event.ending? id = none := hall event List.mem_cons_self
    have hevents : terminal? id events = none :=
      List.findSome?_eq_none_iff.2 fun x hx => hall x (List.mem_cons_of_mem _ hx)
    simp [window, hevent, ih hevents]

/-- Nothing counts after the end. -/
lemma window_append_of_some {e : HubError} (h : terminal? id events = some e) :
    window id (events ++ more) = window id events := by
  induction events with
  | nil => cases h
  | cons event events ih =>
    cases hevent : event.ending? id with
    | some e' => simp [window, hevent]
    | none =>
      have hevents : terminal? id events = some e := by simpa [terminal?, hevent] using h
      simp [window, hevent, ih hevents]

/-- What was given stays right whatever comes later. -/
lemma upcoming_append {n : Nat} {x : HubResult α}
    (h : upcoming (window id events) (terminal? id events) n = some x) :
    upcoming (window id (events ++ more)) (terminal? id (events ++ more)) n = some x := by
  cases hterminal : terminal? id events with
  | some e => rwa [window_append_of_some hterminal, terminal?_append, hterminal, Option.some_or,
      ← hterminal]
  | none =>
    unfold upcoming at h
    split at h
    next item hitem =>
      have hmore : (window id events ++ window id more)[n]? = some item := by
        rw [List.getElem?_append_left (List.getElem?_eq_some_iff.1 hitem).1, hitem]
      rw [window_append_of_none hterminal, upcoming, hmore]
      exact h
    next => simp [hterminal] at h

end Stream
end DeviceHub
