import DeviceHub.Proofs.FanOut.Delivery

/-!
Several `FanOut`s in one process.  Each numbers its own subscribers, and `unsub` knows the handle it
is given by its number alone.  So a handle that another fan-out issued is ignored exactly if its
number is not that of a subscriber here; otherwise that subscriber is taken out.
-/
namespace DeviceHub

namespace Subscriber

variable {α : Type} {id : Nat} {after : List (FanOutEvent α)}

/-- What a subscriber that is taken out receives are the items in its queue, and then the error of
that as often as it asks. -/
lemma received_prefix_of_unsubscribed (held : (run id after).channel.held = true)
    (registered : (run id after).channel.registered = true) (more : List (FanOutEvent α)) :
    ∃ times, (run id (after ++ .unsubscribe id :: more)).received <+:
      (run id after).received ++ (run id after).channel.queue ++
        List.replicate times (.error .closed) := by
  have hfollows := (run_sound id after).follows held
  have hterminal : terminal? id after = none := hfollows.registered_iff.1 registered
  obtain ⟨given, rest, -, hitems, hreceived, hqueue⟩ := hfollows.of_registered registered
  have hall : (run id after).received ++ (run id after).channel.queue =
      (window id after).map .ok := by
    rw [hreceived, hqueue, hitems, List.map_append]
  have hwindow : window id (after ++ .unsubscribe id :: more) = window id after := by
    rw [window_append_of_none hterminal]
    simp [window, FanOutEvent.ending?]
  have hend : terminal? id (after ++ .unsubscribe id :: more) = some .closed := by
    rw [terminal?_append, hterminal]
    simp [terminal?, FanOutEvent.ending?]
  have hsound := run_sound id (after ++ .unsubscribe id :: more)
  generalize run id (after ++ .unsubscribe id :: more) = v at hsound ⊢
  refine ⟨v.received.length, List.prefix_iff_getElem?.2 fun n hn => ?_⟩
  rw [hall, ← List.getElem?_eq_getElem hn, hsound.received hn, hwindow, hend]
  obtain hlt | hge := Nat.lt_or_ge n (window id after).length
  · rw [upcoming_of_lt hlt, List.getElem?_append_left (by simpa using hlt)]
    simp [hlt]
  · rw [upcoming_of_le hge, List.getElem?_append_right (by simpa using hge), List.length_map]
    exact List.getElem?_replicate_of_lt (Nat.lt_of_le_of_lt (Nat.sub_le ..) hn)

end Subscriber

namespace Broadcast

variable {α : Type} {s : Broadcast α} {id k : Nat} {events : List (FanOutEvent α)}

/-- A number is that of a subscriber that gets items. -/
def Registered (s : Broadcast α) (id : Nat) : Prop :=
  ∃ c, s.channel? id = some c ∧ c.registered = true

lemma channel?_unsubscribe (s : Broadcast α) (id k : Nat) :
    (s.step (.unsubscribe id)).channel? k =
      (s.channel? k).map fun c => if id = k then c.unregister else c := by
  change (s.mux.dispatch.channels.modify id Channel.unregister)[k]? = _
  rw [List.getElem?_modify]
  rfl

lemma registered_unsubscribe :
    (s.step (.unsubscribe id)).Registered k ↔ s.Registered k ∧ k ≠ id := by
  unfold Registered
  rw [channel?_unsubscribe]
  obtain rfl | hk := eq_or_ne id k
  · simp [Channel.unregister]
  · simp [hk, hk.symm]

lemma unsubscribe_of_not_registered (h : ¬s.Registered id) : s.step (.unsubscribe id) = s := by
  have hchannels : (s.step (.unsubscribe id)).mux.dispatch.channels = s.mux.dispatch.channels := by
    refine List.ext_getElem? fun k => ?_
    change (s.step (.unsubscribe id)).channel? k = s.channel? k
    rw [channel?_unsubscribe]
    cases hc : s.channel? k with
    | none => rfl
    | some c =>
      obtain rfl | hk := eq_or_ne id k
      · have hregistered : c.registered = false := by
          by_contra hne
          exact h ⟨c, hc, by simpa using hne⟩
        simp [Channel.unregister, ← hregistered]
      · simp [hk]
  change { s with mux := { s.mux with dispatch := ⟨_⟩ } } = s
  exact congrArg (fun channels => { s with mux := { s.mux with dispatch := ⟨channels⟩ } }) hchannels

lemma receivedBy_unsubscribe (events more : List (FanOutEvent α)) (hk : k ≠ id) :
    (run (events ++ .unsubscribe id :: more)).receivedBy k =
      (run (events ++ more)).receivedBy k := by
  rw [← receivedBy_filter hk.symm, ← receivedBy_filter hk.symm (events ++ more)]
  simp [FanOutEvent.concerns]

theorem received_prefix_of_unsubscribed {c : Channel α} (hc : (run events).channel? id = some c)
    (registered : c.registered = true) (held : c.held = true) (more : List (FanOutEvent α)) :
    ∃ times, (run (events ++ .unsubscribe id :: more)).receivedBy id <+:
      (run events).receivedBy id ++ c.queue ++ List.replicate times (.error .closed) := by
  obtain ⟨before, after, rfl, hopen, rfl⟩ :=
    exists_subscribe (List.getElem?_eq_some_iff.1 hc).1
  obtain ⟨hchannel, hreceived⟩ := run_shows hopen after
  obtain rfl := Option.some.inj (hchannel.symm.trans hc)
  rw [List.append_assoc, List.cons_append, (run_shows hopen _).2, hreceived]
  exact Subscriber.received_prefix_of_unsubscribed held registered more

end Broadcast

/-- A subscriber's handle: which fan-out issued it, and the number there. -/
structure SubscriberHandle (ι : Type) where
  issuer : ι
  id : Nat

inductive FanOutsEvent (ι α : Type) where
  | happens (place : ι) (event : FanOutEvent α)
  /-- A handle is given to `unsub`, of the fan-out that issued it or of another one. -/
  | giveBack (place : ι) (handle : SubscriberHandle ι)

abbrev FanOuts (ι α : Type) := ι → Broadcast α

namespace FanOuts

variable {ι α : Type} [DecidableEq ι]

/-- One event, which is about the fan-out of one place.  Of a handle only the number is read. -/
def step (s : FanOuts ι α) : FanOutsEvent ι α → FanOuts ι α
  | .happens place event => fun i => if i = place then (s i).step event else s i
  | .giveBack place handle => fun i =>
    if i = place then { s i with mux := (s i).mux.unsubscribe handle.id } else s i

def run (events : List (FanOutsEvent ι α)) : FanOuts ι α :=
  events.foldl step fun _ => {}

def local? (place : ι) : FanOutsEvent ι α → Option (FanOutEvent α)
  | .happens i event => if place = i then some event else none
  | .giveBack i handle => if place = i then some (.unsubscribe handle.id) else none

lemma step_apply (s : FanOuts ι α) (event : FanOutsEvent ι α) (place : ι) :
    s.step event place = (local? place event).elim (s place) (s place).step := by
  cases event with
  | happens i _ | giveBack i _ =>
    simp only [step, local?]
    split <;> rfl

/-- Each fan-out goes through what happens at its own place. -/
theorem run_apply (events : List (FanOutsEvent ι α)) (place : ι) :
    run events place = Broadcast.run (events.filterMap (local? place)) := by
  induction events using List.reverseRecOn with
  | nil => rfl
  | append_singleton events event ih =>
    have hstep : run (events ++ [event]) = (run events).step event := List.foldl_append
    rw [hstep, step_apply, ih, List.filterMap_append]
    cases hevent : local? place event with
    | none => simp [hevent]
    | some event' => simp [hevent]

section GiveBack

variable (events more : List (FanOutsEvent ι α)) (place : ι) (handle : SubscriberHandle ι)

lemma run_append_apply : run (events ++ more) place =
    Broadcast.run (events.filterMap (local? place) ++ more.filterMap (local? place)) := by
  rw [run_apply, List.filterMap_append]

lemma run_giveBack_apply : run (events ++ .giveBack place handle :: more) place =
    Broadcast.run (events.filterMap (local? place) ++
      .unsubscribe handle.id :: more.filterMap (local? place)) := by
  rw [run_append_apply]
  simp [local?]

lemma run_giveBack_of_ne {other : ι} (h : other ≠ place) :
    run (events ++ [.giveBack place handle]) other = run events other := by
  rw [run_append_apply, run_apply]
  simp [local?, h]

lemma registered_giveBack (id : Nat) :
    (run (events ++ [.giveBack place handle]) place).Registered id ↔
      (run events place).Registered id ∧ id ≠ handle.id := by
  rw [run_giveBack_apply, run_apply]
  simp [Broadcast.registered_unsubscribe]

variable {events place handle} in
lemma run_giveBack_of_not_registered (h : ¬(run events place).Registered handle.id) :
    run (events ++ .giveBack place handle :: more) place = run (events ++ more) place := by
  rw [run_apply] at h
  rw [run_giveBack_apply, run_append_apply]
  unfold Broadcast.run at h ⊢
  rw [List.foldl_append, List.foldl_cons, Broadcast.unsubscribe_of_not_registered h,
    ← List.foldl_append]

/-- A handle that `unsub` ignores leaves the subscribers of a fan-out, and what each of them
receives from then on, as they would be without. -/
structure Ignored : Prop where
  registered : ∀ id, (run (events ++ [.giveBack place handle]) place).Registered id ↔
    (run events place).Registered id
  received : ∀ more id, (run (events ++ .giveBack place handle :: more) place).receivedBy id =
    (run (events ++ more) place).receivedBy id

/-- A handle that is given to `unsub`, whoever issued it, is ignored exactly if its number is not
that of a subscriber here.  Otherwise that subscriber is taken out: it receives what is in its
queue, and then only the error of that.  Nobody else is taken out or receives anything else, here or
at another fan-out. -/
theorem giveBack_ignored_iff :
    (Ignored events place handle ↔ ¬(run events place).Registered handle.id) ∧
    (∀ c, (run events place).channel? handle.id = some c → c.registered = true → c.held = true →
      ∀ more, ∃ times,
        (run (events ++ .giveBack place handle :: more) place).receivedBy handle.id <+:
          (run events place).receivedBy handle.id ++ c.queue ++
            List.replicate times (.error .closed)) ∧
    (∀ id, (run (events ++ [.giveBack place handle]) place).Registered id ↔
      (run events place).Registered id ∧ id ≠ handle.id) ∧
    (∀ more, ∀ id ≠ handle.id,
      (run (events ++ .giveBack place handle :: more) place).receivedBy id =
        (run (events ++ more) place).receivedBy id) ∧
    ∀ other ≠ place, run (events ++ [.giveBack place handle]) other = run events other := by
  refine ⟨⟨fun h hregistered => ?_, fun h => ⟨fun id => ?_, fun more id => ?_⟩⟩, ?_, ?_, ?_, ?_⟩
  · have hout := (registered_giveBack events place handle handle.id).1
      ((h.registered handle.id).2 hregistered)
    exact hout.2 rfl
  · rw [run_giveBack_of_not_registered [] h, List.append_nil]
  · rw [run_giveBack_of_not_registered more h]
  · intro c hc hregistered hheld more
    rw [run_apply] at hc
    rw [run_giveBack_apply, run_apply events]
    exact Broadcast.received_prefix_of_unsubscribed hc hregistered hheld _
  · exact registered_giveBack events place handle
  · intro more id hid
    rw [run_giveBack_apply, run_append_apply]
    exact Broadcast.receivedBy_unsubscribe _ _ hid
  · exact fun other hother => run_giveBack_of_ne events place handle hother

end GiveBack

/-- Two fan-outs with two subscribers and one, and an item that nobody has received. -/
def twoFanOuts : List (FanOutsEvent Bool Nat) :=
  [.happens true .subscribe, .happens true .subscribe, .happens false .subscribe,
    .happens true (.publish 7)]

theorem giveBack_ignored_iff_of_foreign :
    Ignored twoFanOuts false ⟨true, 1⟩ ∧
    (∀ more, ∃ times, (run (twoFanOuts ++ .giveBack true ⟨false, 0⟩ :: more) true).receivedBy 0 <+:
      .ok 7 :: List.replicate times (.error .closed)) ∧
    (∀ more, (run (twoFanOuts ++ .giveBack true ⟨false, 0⟩ :: more) true).receivedBy 1 =
      (run (twoFanOuts ++ more) true).receivedBy 1) ∧
    run (twoFanOuts ++ [.giveBack true ⟨false, 0⟩]) false = run twoFanOuts false := by
  have hnone : ¬(run twoFanOuts false).Registered 1 := by
    rintro ⟨c, hc, -⟩
    cases hc
  have hforeign := giveBack_ignored_iff twoFanOuts true ⟨false, 0⟩
  refine ⟨(giveBack_ignored_iff twoFanOuts false ⟨true, 1⟩).1.2 hnone, fun more => ?_,
    fun more => hforeign.2.2.2.1 more 1 (by decide), hforeign.2.2.2.2 false (by decide)⟩
  exact hforeign.2.1 _ rfl rfl rfl more

/-- The first subscribers of two fan-outs have the same number. -/
theorem foreign_handle_takes_out :
    let events : List (FanOutsEvent Bool Nat) :=
      [.happens true .subscribe, .happens false .subscribe]
    let more := [.happens true (.publish 1), .happens true (.receive 0)]
    (∃ m, (run (events.take 1) false).mux.subscribe = .ok (m, 0)) ∧
    (run events true).Registered 0 ∧
    ¬(run (events ++ [.giveBack true ⟨false, 0⟩]) true).Registered 0 ∧
    (run (events ++ more) true).receivedBy 0 = [.ok 1] ∧
    (run (events ++ .giveBack true ⟨false, 0⟩ :: more) true).receivedBy 0 = [.error .closed] ∧
    ¬Ignored events true ⟨false, 0⟩ := by
  intro events more
  have hregistered : (run events true).Registered 0 := ⟨_, rfl, rfl⟩
  have hout : ¬(run (events ++ [.giveBack true ⟨false, 0⟩]) true).Registered 0 :=
    fun h => ((registered_giveBack events true ⟨false, 0⟩ 0).1 h).2 rfl
  exact ⟨⟨_, rfl⟩, hregistered, hout, rfl, rfl, fun h => hout ((h.registered 0).2 hregistered)⟩

end FanOuts
end DeviceHub
