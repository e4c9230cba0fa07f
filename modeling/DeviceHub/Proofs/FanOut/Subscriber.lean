import DeviceHub.Proofs.FanOut
import Mathlib.Data.List.Induction

/-!
One `Subscription` of a `FanOut`.  Its channel holds the items of its window that it has not
received, and after them the error of a close; what it has received are the items before those, then
its terminal error as often as it asked.
-/
namespace DeviceHub

structure Subscriber (α : Type) where
  channel : Channel α := {}
  received : List (HubResult α) := []

/-- Receiving neither lets go of a channel nor takes it out. -/
lemma Channel.receive?_frame {α : Type} {c c' : Channel α} {x : HubResult α}
    (h : c.receive? = some (x, c')) : c'.held = c.held ∧ c'.registered = c.registered := by
  unfold receive? at h
  split at h <;> [skip; skip; skip; split at h] <;> cases h <;> exact ⟨rfl, rfl⟩

namespace Subscriber

variable {α : Type}

def receive (v : Subscriber α) : Subscriber α :=
  match v.channel.receive? with
  | some (x, channel) => { channel, received := v.received ++ [x] }
  | none => v

def step (id : Nat) (v : Subscriber α) : FanOutEvent α → Subscriber α
  | .subscribe => v
  | .unsubscribe i => if i = id then { v with channel := v.channel.unregister } else v
  | .publish item => { v with channel := v.channel.publish item }
  | .close e => { v with channel := v.channel.close e }
  | .receive i => if i = id ∧ v.channel.held then v.receive else v
  | .drop i => if i = id then { v with channel := v.channel.release } else v

def run (id : Nat) (events : List (FanOutEvent α)) : Subscriber α :=
  events.foldl (step id) {}

/-- What comes after the items in a channel, by whether it is registered and its terminal error. -/
inductive Tail : Bool → Option HubError → List (HubResult α) → Prop
  | opened : Tail true none []
  /-- Taken out: the sender is gone. -/
  | leaving : Tail false (some .closed) []
  | closing (e : HubError) : Tail false (some e) [.error e]

/-- How a subscriber stands to the items of its window and its terminal error. -/
inductive Follows (v : Subscriber α) (items : List α) (terminal : Option HubError) : Prop
  | pending {given rest tail} (ended : v.channel.ended = none) (split : items = given ++ rest)
      (received : v.received = given.map .ok) (queue : v.channel.queue = rest.map .ok ++ tail)
      (last : Tail v.channel.registered terminal tail)
  | exhausted {e times} (registered : v.channel.registered = false)
      (ended : v.channel.ended = some e) (terminal_eq : terminal = some e)
      (received : v.received = items.map .ok ++ List.replicate (times + 1) (.error e))

lemma upcoming_of_lt {items : List α} {terminal : Option HubError} {n : Nat}
    (h : n < items.length) : upcoming items terminal n = some (.ok items[n]) := by
  rw [upcoming, List.getElem?_eq_getElem h]

lemma upcoming_of_le {items : List α} {terminal : Option HubError} {n : Nat}
    (h : items.length ≤ n) : upcoming items terminal n = terminal.map .error := by
  rw [upcoming, List.getElem?_eq_none h]

namespace Follows

variable {v : Subscriber α} {items : List α} {terminal : Option HubError}

/-- All that was received is what was to come. -/
lemma received_eq (h : v.Follows items terminal) {n : Nat} (hn : n < v.received.length) :
    v.received[n]? = upcoming items terminal n := by
  cases h with
  | @pending given rest tail ended split received queue last =>
    rw [received, List.length_map] at hn
    have hitems : n < items.length := by
      rw [split, List.length_append]
      exact Nat.lt_add_right _ hn
    rw [upcoming_of_lt hitems, received, List.getElem?_map, List.getElem?_eq_getElem hn]
    simp only [split, Option.map_some, List.getElem_append_left hn]
  | @exhausted e times registered ended terminal_eq received =>
    rw [received, terminal_eq]
    rw [received, List.length_append, List.length_map, List.length_replicate] at hn
    obtain hitems | hitems := Nat.lt_or_ge n items.length
    · rw [upcoming_of_lt hitems, List.getElem?_append_left (by simpa using hitems)]
      simp [hitems]
    · rw [upcoming_of_le hitems, List.getElem?_append_right (by simpa using hitems),
        List.length_map, List.getElem?_replicate_of_lt (by omega)]
      rfl

/-- The next receive gives what is to come, and nothing while nothing is. -/
lemma receive?_cases (h : v.Follows items terminal) :
    (v.channel.receive? = none ∧ upcoming items terminal v.received.length = none) ∨
    ∃ x c, v.channel.receive? = some (x, c) ∧ c.held = v.channel.held ∧
      upcoming items terminal v.received.length = some x ∧
      Follows { channel := c, received := v.received ++ [x] } items terminal := by
  cases h with
  | @pending given rest tail ended split received queue last =>
    cases rest with
    | cons item rest =>
      have hreceive : v.channel.receive? =
          some (.ok item, { v.channel with queue := rest.map .ok ++ tail }) := by
        simp [Channel.receive?, ended, queue]
      refine .inr ⟨_, _, hreceive, rfl, ?_, ?_⟩
      · simp [upcoming, split, received]
      · have hsplit : items = (given ++ [item]) ++ rest := by simpa using split
        exact .pending ended hsplit (by simp [received]) rfl last
    | nil =>
      have hitems : items = given := by simpa using split
      have hlength : items.length ≤ v.received.length := by simp [received, hitems]
      have hreceived (e : HubError) :
          v.received ++ [.error e] = items.map .ok ++ List.replicate (0 + 1) (.error e) := by
        rw [received, hitems]
        rfl
      rw [upcoming_of_le hlength]
      generalize hregistered : v.channel.registered = registered at last
      cases last with
      | opened =>
        refine .inl ⟨?_, rfl⟩
        simp [Channel.receive?, ended, queue, hregistered]
      | leaving =>
        have hreceive : v.channel.receive? =
            some (.error .closed, { v.channel with ended := some .closed }) := by
          simp [Channel.receive?, ended, queue, hregistered]
        refine .inr ⟨_, _, hreceive, rfl, rfl, ?_⟩
        exact .exhausted hregistered rfl rfl (hreceived _)
      | closing e =>
        have hreceive : v.channel.receive? =
            some (.error e, { v.channel with queue := [], ended := some e }) := by
          simp [Channel.receive?, ended, queue]
        refine .inr ⟨_, _, hreceive, rfl, rfl, ?_⟩
        exact .exhausted hregistered rfl rfl (hreceived _)
  | @exhausted e times registered ended terminal_eq received =>
    have hreceive : v.channel.receive? = some (.error e, v.channel) := by
      simp [Channel.receive?, ended]
    have hlength : items.length ≤ v.received.length := by simp [received]
    refine .inr ⟨_, _, hreceive, rfl, ?_, ?_⟩
    · rw [upcoming_of_le hlength, terminal_eq]
      rfl
    · have hreceived : v.received ++ [.error e] =
          items.map .ok ++ List.replicate (times + 1 + 1) (.error e) := by
        rw [received, List.append_assoc, ← List.replicate_succ']
      exact .exhausted registered ended terminal_eq hreceived

lemma receive (h : v.Follows items terminal) : v.receive.Follows items terminal := by
  unfold Subscriber.receive
  obtain ⟨hreceive, -⟩ | ⟨x, c, hreceive, -, -, hfollows⟩ := h.receive?_cases
  · rwa [hreceive]
  · rwa [hreceive]

lemma received_receive (h : v.Follows items terminal) : v.receive.received =
    v.received ++ (upcoming items terminal v.received.length).toList := by
  unfold Subscriber.receive
  obtain ⟨hreceive, hnone⟩ | ⟨x, c, hreceive, -, hsome, -⟩ := h.receive?_cases
  · simp [hreceive, hnone]
  · simp [hreceive, hsome]

/-- Items are put in until the end. -/
lemma registered_iff (h : v.Follows items terminal) :
    v.channel.registered = true ↔ terminal = none := by
  cases h with
  | pending ended split received queue last =>
    generalize v.channel.registered = registered at last
    cases last <;> simp
  | exhausted registered ended terminal_eq received => simp [registered, terminal_eq]

lemma of_registered (h : v.Follows items terminal) (registered : v.channel.registered = true) :
    ∃ given rest, v.channel.ended = none ∧ items = given ++ rest ∧
      v.received = given.map .ok ∧ v.channel.queue = rest.map .ok := by
  cases h with
  | @pending given rest tail ended split received queue last =>
    rw [registered] at last
    cases last
    exact ⟨given, rest, ended, split, received, by simpa using queue⟩
  | exhausted registered' => simp [registered'] at registered

lemma publish (h : v.Follows items terminal) (held : v.channel.held = true) (item : α) :
    Follows { v with channel := v.channel.publish item }
      (items ++ if terminal = none then [item] else []) terminal := by
  cases hregistered : v.channel.registered with
  | false =>
    have hterminal : terminal ≠ none := by simp [← h.registered_iff, hregistered]
    have hpublish : v.channel.publish item = v.channel := by simp [Channel.publish, hregistered]
    rwa [hpublish, if_neg hterminal, List.append_nil]
  | true =>
    obtain ⟨given, rest, ended, split, received, queue⟩ := h.of_registered hregistered
    have hsplit : items ++ [item] = given ++ (rest ++ [item]) := by simp [split]
    have hpublish : v.channel.publish item =
        { v.channel with queue := v.channel.queue ++ [.ok item] } := by
      simp [Channel.publish, hregistered, held]
    have hlast : Tail v.channel.registered terminal ([] : List (HubResult α)) := by
      rw [hregistered, h.registered_iff.1 hregistered]
      exact .opened
    rw [hpublish, if_pos (h.registered_iff.1 hregistered)]
    exact .pending ended hsplit received (by simp [queue]) hlast

lemma close (h : v.Follows items terminal) (e : HubError) :
    Follows { v with channel := v.channel.close e } items (terminal.or (some e)) := by
  cases hregistered : v.channel.registered with
  | false =>
    have hclose : v.channel.close e = v.channel := by simp [Channel.close, hregistered]
    obtain ⟨e', he'⟩ := Option.ne_none_iff_exists'.1
      (mt h.registered_iff.2 (by simp [hregistered]))
    rw [hclose, he', Option.some_or, ← he']
    exact h
  | true =>
    obtain ⟨given, rest, ended, split, received, queue⟩ := h.of_registered hregistered
    have hclose : v.channel.close e =
        { v.channel with registered := false, queue := v.channel.queue ++ [.error e] } := by
      simp [Channel.close, hregistered]
    rw [hclose, h.registered_iff.1 hregistered, Option.none_or]
    exact .pending ended split received (by simp [queue]) (.closing e)

lemma unregister (h : v.Follows items terminal) :
    Follows { v with channel := v.channel.unregister } items (terminal.or (some .closed)) := by
  cases hregistered : v.channel.registered with
  | false =>
    have hunregister : v.channel.unregister = v.channel := by
      rw [Channel.unregister, ← hregistered]
    obtain ⟨e', he'⟩ := Option.ne_none_iff_exists'.1
      (mt h.registered_iff.2 (by simp [hregistered]))
    rw [hunregister, he', Option.some_or, ← he']
    exact h
  | true =>
    obtain ⟨given, rest, ended, split, received, queue⟩ := h.of_registered hregistered
    rw [h.registered_iff.1 hregistered, Option.none_or]
    exact .pending ended split received (by simp [Channel.unregister, queue]) .leaving

end Follows

variable {id : Nat} {v : Subscriber α} {events : List (FanOutEvent α)} {event : FanOutEvent α}

lemma receive_held : v.receive.channel.held = v.channel.held := by
  unfold receive
  split
  next x channel hreceive => exact (Channel.receive?_frame hreceive).1
  next => rfl

lemma step_held : (v.step id event).channel.held = true ↔
    v.channel.held = true ∧ event ≠ .drop id := by
  cases event with
  | subscribe => simp [step]
  | unsubscribe i =>
    simp only [step]
    split <;> simp [Channel.unregister]
  | publish item =>
    simp only [step, Channel.publish]
    split <;> [skip; split] <;> simp_all
  | close e =>
    simp only [step, Channel.close]
    split <;> simp
  | receive i =>
    simp only [step]
    split <;> simp [receive_held]
  | drop i =>
    simp only [step]
    split <;> simp_all [Channel.release]

/-- What concerns another subscriber does nothing to this one. -/
lemma step_of_concerns {other : Nat} (hother : other ≠ id) (h : event.concerns other = true) :
    v.step id event = v := by
  cases event with
  | unsubscribe i | receive i | drop i =>
    obtain rfl : i = other := by simpa [FanOutEvent.concerns] using h
    simp [step, hother]
  | _ => simp [FanOutEvent.concerns] at h

lemma run_filter {other : Nat} (hother : other ≠ id) (events : List (FanOutEvent α)) :
    run id (events.filter fun event => !event.concerns other) = run id events := by
  unfold run
  generalize ({} : Subscriber α) = v
  induction events generalizing v with
  | nil => rfl
  | cons event events ih =>
    cases hevent : event.concerns other with
    | true => simp [hevent, step_of_concerns hother hevent, ih]
    | false => simp [hevent, ih]

lemma terminal?_concat :
    terminal? id (events ++ [event]) = (terminal? id events).or (event.ending? id) := by
  rw [terminal?_append]
  simp [terminal?]

lemma window_concat : window id (events ++ [event]) = window id events ++
    if terminal? id (events ++ [event]) = none then event.item?.toList else [] := by
  rw [terminal?_concat]
  cases hterminal : terminal? id events with
  | some e => simp [window_append_of_some hterminal]
  | none =>
    rw [window_append_of_none hterminal]
    cases hending : event.ending? id <;> simp [window, hending]

lemma Follows.step (h : v.Follows (window id events) (terminal? id events))
    (held : v.channel.held = true) (hevent : event ≠ .drop id) :
    (v.step id event).Follows (window id (events ++ [event]))
      (terminal? id (events ++ [event])) := by
  rw [window_concat, terminal?_concat]
  cases event with
  | subscribe => simpa [Subscriber.step, FanOutEvent.ending?, FanOutEvent.item?] using h
  | unsubscribe i =>
    obtain rfl | hi := eq_or_ne i id
    · simpa [Subscriber.step, FanOutEvent.ending?, FanOutEvent.item?] using h.unregister
    · simpa [Subscriber.step, FanOutEvent.ending?, FanOutEvent.item?, hi] using h
  | publish item =>
    simpa [Subscriber.step, FanOutEvent.ending?, FanOutEvent.item?] using h.publish held item
  | close e =>
    simpa [Subscriber.step, FanOutEvent.ending?, FanOutEvent.item?] using h.close e
  | receive i =>
    obtain rfl | hi := eq_or_ne i id
    · simpa [Subscriber.step, FanOutEvent.ending?, FanOutEvent.item?, held] using h.receive
    · simpa [Subscriber.step, FanOutEvent.ending?, FanOutEvent.item?, hi] using h
  | drop i =>
    have hi : i ≠ id := fun hi => hevent (by rw [hi])
    simpa [Subscriber.step, FanOutEvent.ending?, FanOutEvent.item?, hi] using h

/-- Who does not hold a handle receives nothing. -/
lemma step_received_of_not_held (h : v.channel.held = false ∨ event = .drop id) :
    (v.step id event).received = v.received := by
  cases event with
  | receive i =>
    have hheld : v.channel.held = false := h.resolve_right (by nofun)
    simp [step, hheld]
  | unsubscribe i | drop i =>
    simp only [step]
    split <;> rfl
  | _ => rfl

structure Sound (id : Nat) (events : List (FanOutEvent α)) (v : Subscriber α) : Prop where
  held : v.channel.held = true ↔ .drop id ∉ events
  follows : v.channel.held = true → v.Follows (window id events) (terminal? id events)
  received {n : Nat} : n < v.received.length →
    v.received[n]? = upcoming (window id events) (terminal? id events) n

lemma Sound.step (h : v.Sound id events) : (v.step id event).Sound id (events ++ [event]) where
  held := by
    rw [step_held, h.held]
    simp [eq_comm]
  follows hheld := by
    obtain ⟨hv, hevent⟩ := step_held.1 hheld
    exact (h.follows hv).step hv hevent
  received {n} hn := by
    by_cases hheld : v.channel.held = true ∧ event ≠ .drop id
    · exact ((h.follows hheld.1).step hheld.1 hheld.2).received_eq hn
    · have hsame : (v.step id event).received = v.received := by
        refine step_received_of_not_held ?_
        simpa [or_iff_not_imp_left] using hheld
      rw [hsame] at hn ⊢
      obtain ⟨x, hx⟩ : ∃ x, v.received[n]? = some x := ⟨_, List.getElem?_eq_getElem hn⟩
      rw [hx, upcoming_append ((h.received hn).symm.trans hx)]

theorem run_sound (id : Nat) (events : List (FanOutEvent α)) : (run id events).Sound id events := by
  induction events using List.reverseRecOn with
  | nil =>
    refine ⟨by simp [run], fun _ => ?_, fun hn => by simp [run] at hn⟩
    have hsplit : ([] : List α) = [] ++ [] := rfl
    exact .pending rfl hsplit rfl rfl .opened
  | append_singleton events event ih =>
    rw [run, List.foldl_append]
    exact ih.step

end Subscriber
end DeviceHub
