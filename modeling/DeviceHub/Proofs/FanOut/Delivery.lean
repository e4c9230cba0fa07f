import DeviceHub.Proofs.FanOut.Subscriber

/-!
What every `Subscription` of a `FanOut` receives.  A run of the fan-out shows each subscriber as a
run of its own, in which what concerns others does nothing.
-/
namespace DeviceHub
namespace Broadcast

variable {α : Type} {s : Broadcast α} {id : Nat} {v : Subscriber α} {event : FanOutEvent α}
  {events : List (FanOutEvent α)}

def Shows (s : Broadcast α) (id : Nat) (v : Subscriber α) : Prop :=
  s.channel? id = some v.channel ∧ s.receivedBy id = v.received

/-- Nobody is registered any more once the link is closed, and only those received who have a
number. -/
structure Lawful (s : Broadcast α) : Prop where
  latched {i : Nat} {c : Channel α} : s.mux.closed ≠ none → s.channel? i = some c →
    c.registered = false
  numbered {i : Nat} {x : HubResult α} : (i, x) ∈ s.record → i < s.mux.dispatch.channels.length

lemma step_subscribe_of_open (h : s.mux.closed = none) : s.step .subscribe =
    { s with mux := { s.mux with dispatch := ⟨s.mux.dispatch.channels ++ [{}]⟩ } } := by
  simp [step, Multiplexer.subscribe, h]

lemma step_subscribe_of_closed {e : HubError} (h : s.mux.closed = some e) :
    s.step .subscribe = s := by
  simp [step, Multiplexer.subscribe, h]

lemma step_close_of_open (e : HubError) (h : s.mux.closed = none) : s.step (.close e) =
    { s with
      mux := { s.mux with
        closed := some e
        dispatch := ⟨s.mux.dispatch.channels.map (Channel.close e)⟩ } } := by
  simp [step, Multiplexer.close, h, Dispatch.closeAll]

lemma step_close_of_closed {e e' : HubError} (h : s.mux.closed = some e') :
    s.step (.close e) = s := by
  simp [step, Multiplexer.close, h]

/-- Receiving does nothing, or takes one item out of a channel. -/
lemma receive_cases (s : Broadcast α) (id : Nat) :
    (s.receive id = s ∧
      ∀ c, s.channel? id = some c → c.held = true → c.receive? = none) ∨
    ∃ c item c', s.channel? id = some c ∧ c.held = true ∧ c.receive? = some (item, c') ∧
      s.receive id =
        { mux := { s.mux with dispatch := ⟨s.mux.dispatch.channels.set id c'⟩ }
          record := s.record ++ [(id, item)] } := by
  unfold receive Multiplexer.receive? FanOut.receive? channel?
  cases hc : s.mux.dispatch.channels[id]? with
  | none => exact .inl ⟨rfl, by nofun⟩
  | some c =>
    cases hheld : c.held with
    | false =>
      refine .inl ⟨by simp [hheld], ?_⟩
      rintro _ ⟨⟩ h
      simp [hheld] at h
    | true =>
      cases hreceive : c.receive? with
      | none =>
        refine .inl ⟨by simp [hreceive], ?_⟩
        rintro _ ⟨⟩ -
        exact hreceive
      | some result =>
        obtain ⟨item, c'⟩ := result
        exact .inr ⟨c, item, c', rfl, hheld, hreceive, by simp [hheld, hreceive]⟩

lemma receivedBy_append {i : Nat} {x : HubResult α} {mux : Multiplexer (FanOut α)} :
    receivedBy id { mux, record := s.record ++ [(i, x)] } =
      s.receivedBy id ++ if i = id then [x] else [] := by
  rw [receivedBy, List.filterMap_append, receivedBy]
  split <;> simp_all

lemma Shows.receive {i : Nat} (h : s.Shows id v) :
    (s.receive i).Shows id (v.step id (.receive i)) := by
  obtain ⟨hchannel, hreceived⟩ := h
  simp only [Subscriber.step]
  obtain ⟨hidle, hnone⟩ | ⟨c, item, c', hc, hheld, hreceive, hs⟩ := s.receive_cases i
  · rw [hidle]
    split
    next hi =>
      obtain ⟨rfl, hheld⟩ := hi
      rw [Subscriber.receive, hnone v.channel hchannel hheld]
      exact ⟨hchannel, hreceived⟩
    next => exact ⟨hchannel, hreceived⟩
  · rw [hs]
    obtain rfl | hi := eq_or_ne i id
    · cases hc.symm.trans hchannel
      have hlength : i < s.mux.dispatch.channels.length := (List.getElem?_eq_some_iff.1 hc).1
      rw [if_pos ⟨rfl, hheld⟩, Subscriber.receive, hreceive]
      refine ⟨by simp [channel?, hlength], ?_⟩
      rw [receivedBy_append, if_pos rfl, hreceived]
    · rw [if_neg (fun h => hi h.1)]
      refine ⟨?_, ?_⟩
      · simpa [channel?, List.getElem?_set_ne hi] using hchannel
      · rw [receivedBy_append, if_neg hi, List.append_nil, hreceived]

lemma Shows.modify (h : s.Shows id v) (i : Nat) (change : Channel α → Channel α) :
    Shows { s with mux := { s.mux with dispatch := s.mux.dispatch.modify i change } } id
      (if i = id then { v with channel := change v.channel } else v) := by
  have hchannel : s.mux.dispatch.channels[id]? = some v.channel := h.1
  constructor
  · change (s.mux.dispatch.channels.modify i change)[id]? = _
    rw [List.getElem?_modify, hchannel]
    split <;> simp_all
  · split <;> exact h.2

/-- An event does to a subscriber what it does to the channel of its number. -/
lemma Shows.step (h : s.Shows id v) (law : s.Lawful) :
    (s.step event).Shows id (v.step id event) := by
  have hchannel : s.mux.dispatch.channels[id]? = some v.channel := h.1
  cases event with
  | receive i => exact h.receive
  | unsubscribe i => exact h.modify i Channel.unregister
  | drop i => exact h.modify i Channel.release
  | subscribe =>
    have hlength := (List.getElem?_eq_some_iff.1 hchannel).1
    cases hclosed : s.mux.closed with
    | some e => rwa [step_subscribe_of_closed hclosed]
    | none =>
      rw [step_subscribe_of_open hclosed]
      exact ⟨(List.getElem?_append_left hlength).trans hchannel, h.2⟩
  | publish item =>
    refine ⟨?_, h.2⟩
    change (s.mux.dispatch.channels.map (Channel.publish item))[id]? = _
    rw [List.getElem?_map, hchannel]
    rfl
  | close e =>
    cases hclosed : s.mux.closed with
    | some e' =>
      have hregistered := law.latched (by simp [hclosed]) h.1
      have hclose : v.channel.close e = v.channel := by simp [Channel.close, hregistered]
      rw [step_close_of_closed hclosed, Subscriber.step, hclose]
      exact h
    | none =>
      rw [step_close_of_open e hclosed]
      refine ⟨?_, h.2⟩
      change (s.mux.dispatch.channels.map (Channel.close e))[id]? = _
      rw [List.getElem?_map, hchannel]
      rfl

/-- Channels that are not registered again leave a fan-out as it was. -/
lemma Lawful.keep {t : Broadcast α} (law : s.Lawful) (closed : t.mux.closed = s.mux.closed)
    (length : t.mux.dispatch.channels.length = s.mux.dispatch.channels.length)
    (record : ∀ i x, (i, x) ∈ t.record → (i, x) ∈ s.record ∨ i < s.mux.dispatch.channels.length)
    (channels : ∀ i c', t.channel? i = some c' →
      ∃ c, s.channel? i = some c ∧ (c.registered = false → c'.registered = false)) :
    t.Lawful := by
  constructor
  · intro i c' hclosed hc'
    obtain ⟨c, hc, hregistered⟩ := channels i c' hc'
    exact hregistered (law.latched (closed ▸ hclosed) hc)
  · intro i x hx
    rw [length]
    exact (record i x hx).elim law.numbered id

lemma Lawful.modify (law : s.Lawful) (i : Nat) {change : Channel α → Channel α}
    (hchange : ∀ c, c.registered = false → (change c).registered = false) :
    Lawful { s with mux := { s.mux with dispatch := s.mux.dispatch.modify i change } } := by
  refine law.keep rfl (List.length_modify ..) (fun _ _ hx => .inl hx) (fun k c' hc' => ?_)
  change (s.mux.dispatch.channels.modify i change)[k]? = _ at hc'
  rw [List.getElem?_modify] at hc'
  obtain ⟨c, hc, rfl⟩ := Option.map_eq_some_iff.1 hc'
  refine ⟨c, hc, ?_⟩
  split
  · exact hchange c
  · exact id

lemma Lawful.step (law : s.Lawful) : (s.step event).Lawful := by
  cases event with
  | unsubscribe i => exact law.modify i fun _ _ => rfl
  | drop i => exact law.modify i fun _ h => h
  | subscribe =>
    cases hclosed : s.mux.closed with
    | some e => rwa [step_subscribe_of_closed hclosed]
    | none =>
      rw [step_subscribe_of_open hclosed]
      refine ⟨fun h => absurd hclosed h, fun hx => ?_⟩
      exact Nat.lt_of_lt_of_le (law.numbered hx) (by simp)
  | publish item =>
    refine law.keep rfl (List.length_map ..) (fun _ _ hx => .inl hx) (fun i c' hc' => ?_)
    obtain ⟨c, hc, rfl⟩ := Option.map_eq_some_iff.1 ((List.getElem?_map ..).symm.trans hc')
    exact ⟨c, hc, fun h => by simp [Channel.publish, h]⟩
  | close e =>
    cases hclosed : s.mux.closed with
    | some e' => rwa [step_close_of_closed hclosed]
    | none =>
      rw [step_close_of_open e hclosed]
      constructor
      · intro i c' _ hc'
        obtain ⟨c, hc, rfl⟩ := Option.map_eq_some_iff.1 ((List.getElem?_map ..).symm.trans hc')
        unfold Channel.close
        split <;> simp_all
      · intro i x hx
        exact Nat.lt_of_lt_of_eq (law.numbered hx) (List.length_map ..).symm
  | receive i =>
    change (s.receive i).Lawful
    obtain ⟨hidle, -⟩ | ⟨c, item, c', hc, -, hreceive, hs⟩ := s.receive_cases i
    · rwa [hidle]
    · rw [hs]
      refine law.keep rfl (List.length_set ..) (fun k x hx => ?_) (fun k d hd => ?_)
      · obtain hx | hx := List.mem_append.1 hx
        · exact .inl hx
        · obtain ⟨rfl, rfl⟩ : k = i ∧ x = item := by simpa using hx
          exact .inr (List.getElem?_eq_some_iff.1 hc).1
      · change (s.mux.dispatch.channels.set i c')[k]? = _ at hd
        rw [List.getElem?_set] at hd
        split at hd
        next hik =>
          obtain ⟨-, rfl⟩ : _ ∧ c' = d := by simpa using hd
          exact ⟨c, hik ▸ hc, fun h => (Channel.receive?_frame hreceive).2.trans h⟩
        next => exact ⟨d, hd, id⟩

theorem run_lawful (events : List (FanOutEvent α)) : (run events).Lawful := by
  induction events using List.reverseRecOn with
  | nil => exact ⟨fun h => absurd rfl h, fun hx => by simp [run] at hx⟩
  | append_singleton events event ih =>
    rw [run_append]
    exact ih.step

/-- What an event does to the latch and to the number of subscribers. -/
lemma step_frame (s : Broadcast α) (event : FanOutEvent α) :
    (s.step event).mux.closed = s.mux.closed.or (Closes.error? event) ∧
      (s.step event).mux.dispatch.channels.length =
        match event, s.mux.closed with
        | .subscribe, none => s.mux.dispatch.channels.length + 1
        | _, _ => s.mux.dispatch.channels.length := by
  cases event with
  | subscribe =>
    cases hclosed : s.mux.closed with
    | some e =>
      rw [step_subscribe_of_closed hclosed]
      exact ⟨hclosed, rfl⟩
    | none =>
      rw [step_subscribe_of_open hclosed]
      exact ⟨hclosed, List.length_append ..⟩
  | close e =>
    cases hclosed : s.mux.closed with
    | some e' =>
      rw [step_close_of_closed hclosed]
      exact ⟨hclosed, rfl⟩
    | none =>
      rw [step_close_of_open e hclosed]
      exact ⟨rfl, List.length_map ..⟩
  | unsubscribe i => exact ⟨Option.or_none.symm, List.length_modify ..⟩
  | drop i => exact ⟨Option.or_none.symm, List.length_modify ..⟩
  | publish item => exact ⟨Option.or_none.symm, List.length_map ..⟩
  | receive i =>
    change (s.receive i).mux.closed = _ ∧ (s.receive i).mux.dispatch.channels.length = _
    obtain ⟨hidle, -⟩ | ⟨c, item, c', -, -, -, hs⟩ := s.receive_cases i
    · rw [hidle]
      exact ⟨Option.or_none.symm, rfl⟩
    · rw [hs]
      exact ⟨Option.or_none.symm, List.length_set ..⟩

theorem run_closed (events : List (FanOutEvent α)) :
    (run events).mux.closed = firstClose? events :=
  closed_foldl (·.mux.closed) (fun s event => (step_frame s event).1) rfl events

/-- What concerns one subscriber neither closes a fan-out nor adds a subscriber. -/
lemma step_frame_of_concerns {other : Nat} (h : event.concerns other = true) :
    (s.step event).mux.closed = s.mux.closed ∧
      (s.step event).mux.dispatch.channels.length = s.mux.dispatch.channels.length := by
  have hframe := s.step_frame event
  cases event with
  | unsubscribe i | receive i | drop i => simpa [Closes.error?] using hframe
  | _ => simp [FanOutEvent.concerns] at h

lemma run_filter_frame (other : Nat) (events : List (FanOutEvent α)) :
    (run (events.filter fun event => !event.concerns other)).mux.closed = (run events).mux.closed ∧
      (run (events.filter fun event => !event.concerns other)).mux.dispatch.channels.length =
        (run events).mux.dispatch.channels.length := by
  induction events using List.reverseRecOn with
  | nil => exact ⟨rfl, rfl⟩
  | append_singleton events event ih =>
    rw [List.filter_append, run_append]
    cases hevent : event.concerns other with
    | true =>
      obtain ⟨hclosed, hlength⟩ := step_frame_of_concerns (s := run events) hevent
      rw [hclosed, hlength]
      simpa [hevent] using ih
    | false =>
      have hsingle : [event].filter (fun event => !event.concerns other) = [event] := by
        simp [hevent]
      rw [hsingle, run_append, (step_frame _ event).1, (step_frame _ event).2, ih.1, ih.2,
        (step_frame _ event).1, (step_frame _ event).2]
      exact ⟨rfl, rfl⟩

/-- Subscribing fails with the error of the close, and gives a new number before. -/
lemma subscribe_error_iff {e : HubError} :
    s.mux.subscribe = .error e ↔ s.mux.closed = some e := by
  unfold Multiplexer.subscribe
  cases s.mux.closed <;> simp

lemma of_subscribe_ok {m : Multiplexer (FanOut α)} (h : s.mux.subscribe = .ok (m, id)) :
    s.mux.closed = none ∧ id = s.mux.dispatch.channels.length := by
  unfold Multiplexer.subscribe at h
  cases hclosed : s.mux.closed with
  | some e => simp [hclosed] at h
  | none =>
    simp only [hclosed, Except.ok.injEq, Prod.mk.injEq] at h
    exact ⟨rfl, h.2.symm⟩

/-- A new number has received nothing. -/
lemma Lawful.shows_new (law : s.Lawful) (open_ : s.mux.closed = none) :
    (s.step .subscribe).Shows s.mux.dispatch.channels.length {} := by
  rw [step_subscribe_of_open open_]
  refine ⟨by simp [channel?], List.filterMap_eq_nil_iff.2 fun ⟨i, x⟩ hx => ?_⟩
  have := law.numbered hx
  exact if_neg (by omega)

/-- A run shows each subscriber as a run of its own since it was numbered. -/
theorem run_shows {before : List (FanOutEvent α)} (open_ : (run before).mux.closed = none)
    (after : List (FanOutEvent α)) :
    (run (before ++ .subscribe :: after)).Shows (run before).mux.dispatch.channels.length
      (Subscriber.run (run before).mux.dispatch.channels.length after) := by
  induction after using List.reverseRecOn with
  | nil =>
    rw [run_append]
    exact (run_lawful before).shows_new open_
  | append_singleton after event ih =>
    have hsplit : before ++ .subscribe :: (after ++ [event]) =
        (before ++ .subscribe :: after) ++ [event] := by simp
    rw [hsplit, run_append, Subscriber.run, List.foldl_append]
    exact ih.step (run_lawful _)

lemma exists_subscribe (h : id < (run events).mux.dispatch.channels.length) :
    ∃ before after, events = before ++ .subscribe :: after ∧ (run before).mux.closed = none ∧
      (run before).mux.dispatch.channels.length = id := by
  induction events using List.reverseRecOn with
  | nil => simp [run] at h
  | append_singleton events event ih =>
    obtain hlt | hge := Nat.lt_or_ge id (run events).mux.dispatch.channels.length
    · obtain ⟨before, after, rfl, hopen, hlength⟩ := ih hlt
      exact ⟨before, after ++ [event], by simp, hopen, hlength⟩
    · rw [run_append, (step_frame _ event).2] at h
      split at h
      next hopen => exact ⟨events, [], rfl, hopen, by omega⟩
      next => omega

lemma Lawful.receivedBy_of_le (law : s.Lawful) (h : s.mux.dispatch.channels.length ≤ id) :
    s.receivedBy id = [] := by
  refine List.filterMap_eq_nil_iff.2 fun ⟨i, x⟩ hx => ?_
  have := law.numbered hx
  exact if_neg (by omega)

theorem receivedBy_filter {other : Nat} (hother : other ≠ id) (events : List (FanOutEvent α)) :
    (run (events.filter fun event => !event.concerns other)).receivedBy id =
      (run events).receivedBy id := by
  obtain hlt | hge := Nat.lt_or_ge id (run events).mux.dispatch.channels.length
  · obtain ⟨before, after, rfl, hopen, rfl⟩ := exists_subscribe hlt
    obtain ⟨hclosed, hlength⟩ := run_filter_frame other before
    have hfiltered := run_shows (hclosed.trans hopen)
      (after.filter fun event => !event.concerns other)
    rw [hlength, Subscriber.run_filter hother] at hfiltered
    have hsplit : (before ++ .subscribe :: after).filter (fun event => !event.concerns other) =
        before.filter (fun event => !event.concerns other) ++
          .subscribe :: after.filter (fun event => !event.concerns other) := by
      simp [FanOutEvent.concerns]
    rw [hsplit, hfiltered.2, (run_shows hopen after).2]
  · -- nobody has the number, with and without
    have hlength := (run_filter_frame other events).2
    rw [(run_lawful _).receivedBy_of_le hge, (run_lawful _).receivedBy_of_le (hlength ▸ hge)]

/-- Subscribing fails exactly once the link is closed, with the error of the first close.  What a
subscriber has received are the items that were published from then on until it was taken out or the
link closed, in order, and then its terminal error again and again; the next receive gives what is
next; and what concerns another subscriber makes no difference. -/
theorem fan_out_delivers (events : List (FanOutEvent α)) :
    (∀ e, (run events).mux.subscribe = .error e ↔ firstClose? events = some e) ∧
    ∀ before after m id, events = before ++ .subscribe :: after →
      (run before).mux.subscribe = .ok (m, id) →
      let received := (run events).receivedBy id
      let next := upcoming (window id after) (terminal? id after)
      (∀ n < received.length, received[n]? = next n) ∧
      (.drop id ∉ after → ((run events).step (.receive id)).receivedBy id =
        received ++ (next received.length).toList) ∧
      ∀ other ≠ id,
        (run (events.filter fun event => !event.concerns other)).receivedBy id = received := by
  refine ⟨fun e => by rw [subscribe_error_iff, run_closed], ?_⟩
  rintro before after m id rfl hsub
  obtain ⟨hopen, rfl⟩ := of_subscribe_ok hsub
  have hshows := run_shows hopen after
  generalize (run before).mux.dispatch.channels.length = id at hshows ⊢
  have hsound := Subscriber.run_sound id after
  intro received next
  have hreceived : received = (Subscriber.run id after).received := hshows.2
  refine ⟨fun n hn => ?_, fun hheld => ?_, fun other hother => ?_⟩
  · rw [hreceived] at hn ⊢
    exact hsound.received hn
  · have hheld := hsound.held.2 hheld
    rw [hreceived, (hshows.step (run_lawful _)).2, Subscriber.step, if_pos ⟨rfl, hheld⟩]
    exact (hsound.follows hheld).received_receive
  · exact receivedBy_filter hother _

/-- The first of two subscribers is taken out between two items, the second one gets both. -/
def takenOutBetween : List (FanOutEvent Nat) :=
  [.subscribe, .subscribe, .publish 1, .unsubscribe 0, .publish 2, .close (.transport "lost"),
    .receive 0, .receive 1, .receive 1, .receive 1]

theorem fan_out_delivers_error_again :
    ((run takenOutBetween).step (.receive 1)).receivedBy 1 =
      (run takenOutBetween).receivedBy 1 ++ [.error (.transport "lost")] :=
  ((fan_out_delivers takenOutBetween).2 [.subscribe] _ _ 1 rfl rfl).2.1 (by nofun)

end Broadcast
end DeviceHub
