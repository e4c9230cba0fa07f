import DeviceHub.Rehearsal.Broker
import Mathlib.Data.List.Basic

/-!
The links of a `MockBroker`.  They keep the options they were opened with, whatever the broker is
fed and whoever uses it, and what `receive` gives over one of them has passed its filter.
-/
namespace DeviceHub.Rehearsal

open EventHub

namespace Broker

def Keeps (b b' : Broker) : Prop :=
  ∀ (link : Nat) (l : BrokerLink), b.links[link]? = some l →
    ∃ l' : BrokerLink, b'.links[link]? = some l' ∧ l'.options = l.options

variable {b b' b'' : Broker} {link : Nat} {m : Message} {options : LinkOptions}

lemma Keeps.of_links (h : b'.links = b.links) : b.Keeps b' :=
  fun _ l hl => ⟨l, h ▸ hl, rfl⟩

lemma Keeps.refl (b : Broker) : b.Keeps b :=
  .of_links rfl

lemma Keeps.trans (h : b.Keeps b') (h' : b'.Keeps b'') : b.Keeps b'' := by
  intro link l hl
  obtain ⟨l', hl', hsame⟩ := h link l hl
  obtain ⟨l'', hl'', hsame'⟩ := h' link l' hl'
  exact ⟨l'', hl'', hsame'.trans hsame⟩

lemma keeps_modifyLink (b : Broker) (link : Nat) {change : BrokerLink → BrokerLink}
    (h : ∀ l, (change l).options = l.options) : b.Keeps (b.modifyLink link change) := by
  intro other l hl
  by_cases hother : link = other
  · exact ⟨change l, by simp [modifyLink, hother, hl], h l⟩
  · exact ⟨l, by simp [modifyLink, hother, hl], rfl⟩

lemma keeps_disconnect (b : Broker) (link : Nat) : b.Keeps (b.disconnect link) :=
  b.keeps_modifyLink link fun _ => rfl

lemma keeps_append {new : BrokerLink} (h : b'.links = b.links ++ [new]) : b.Keeps b' := by
  intro link l hl
  refine ⟨l, ?_, rfl⟩
  rw [h, List.getElem?_append_left (List.getElem?_eq_some_iff.1 hl).1, hl]

lemma keeps_response (node : String) (request : Message) (b : Broker) :
    (b.response node request).1.links = b.links := by
  unfold response
  by_cases hnode : node = managementNode
  · simp only [hnode, if_true]
    split <;> rfl
  · simp only [hnode, if_false]
    by_cases hcode : b.tokenStatus.1 = 200 <;> simp only [hcode, if_true, if_false] <;>
      split <;> rfl

lemma keeps_respond (node : String) (request : Message) (b : Broker) :
    b.Keeps (b.respond node request).1 := by
  unfold respond
  split
  · exact .refl b
  · have hkeeps := Keeps.of_links (keeps_response node request b)
    simp only
    split
    · exact hkeeps.trans (keeps_modifyLink _ _ fun _ => rfl)
    · exact hkeeps

/-- A receiver that is opened takes the place after all links. -/
lemma opens_at_end {b₁ : Broker} {new : BrokerLink} (keeps : b.Keeps b₁)
    (length : b₁.links.length = b.links.length) (h : b'.links = b₁.links ++ [new])
    (hoptions : new.options = options) :
    b.Keeps b' ∧ ∃ l : BrokerLink, b'.links[b.links.length]? = some l ∧ l.options = options := by
  refine ⟨keeps.trans (keeps_append h), new, ?_, hoptions⟩
  rw [h, ← length, List.getElem?_concat_length]

lemma linkReplies_spec (address : String) (options : LinkOptions) (b : Broker) :
    b.Keeps (b.linkReplies address options) ∧
      ∃ l : BrokerLink, (b.linkReplies address options).links[b.links.length]? = some l ∧
        l.options = options := by
  unfold linkReplies
  cases b.replies.find? address with
  | none => exact opens_at_end (.refl b) rfl rfl rfl
  | some before =>
    exact opens_at_end (b.keeps_disconnect before) (List.length_modify ..) rfl rfl

lemma linkFeed_spec (address : String) (options : LinkOptions) (b : Broker) :
    b.Keeps (b.linkFeed address options) ∧
      ∃ l : BrokerLink, (b.linkFeed address options).links[b.links.length]? = some l ∧
        l.options = options := by
  unfold linkFeed
  cases b.feeds.find? address with
  | none => exact opens_at_end (.refl b) rfl rfl rfl
  | some feed =>
    cases feed with
    | waiting messages => exact opens_at_end (.refl b) rfl rfl rfl
    | linked before =>
      exact opens_at_end (b.keeps_disconnect before) (List.length_modify ..) rfl rfl

lemma openReceiver_spec (options : LinkOptions) (b : Broker) :
    b.Keeps (b.openReceiver options).1 ∧
      ∀ link, (b.openReceiver options).2 = .ok (.opened link) →
        ∃ l : BrokerLink, (b.openReceiver options).1.links[link]? = some l ∧
          l.options = options := by
  unfold openReceiver
  simp only
  split
  · obtain ⟨hkeeps, l, hl, hoptions⟩ :=
      b.linkReplies_spec (options.target.getD tokenReplyTo) options
    refine ⟨hkeeps, fun link hlink => ⟨l, ?_, hoptions⟩⟩
    cases hlink
    exact hl
  · split
    · exact ⟨.refl b, fun link hlink => nomatch hlink⟩
    · obtain ⟨hkeeps, l, hl, hoptions⟩ := b.linkFeed_spec (options.source.getD "") options
      refine ⟨hkeeps, fun link hlink => ⟨l, ?_, hoptions⟩⟩
      cases hlink
      exact hl

lemma keeps_perform (request : PeerRequest) (b : Broker) : b.Keeps (b.perform request).1 := by
  cases request with
  | dial hostname => exact .refl b
  | openSession => exact .refl b
  | closeSession => exact .of_links rfl
  | closeConnection => exact .of_links rfl
  | openReceiver options => exact (b.openReceiver_spec options).1
  | openSender options => exact keeps_append rfl
  | send link m =>
    change b.Keeps (b.send link m).1
    unfold send
    split
    · exact .refl b
    · split
      · exact .refl b
      · exact keeps_respond _ m b
  | receive link =>
    change b.Keeps (b.receive link).1
    unfold receive
    split
    · exact .refl b
    · split
      · exact .refl b
      · split <;> exact keeps_modifyLink _ _ fun _ => rfl
  | accept link m => exact .of_links rfl
  | closeLink link => exact keeps_modifyLink _ _ fun _ => rfl

lemma keeps_feed (isHeld : Nat → Bool) (address : String) (item : HubResult Message)
    (b : Broker) : b.Keeps (b.feed isHeld address item).1 := by
  unfold feed
  split
  · exact .of_links rfl
  · exact .of_links rfl
  · split
    · exact keeps_modifyLink _ _ fun _ => rfl
    · exact .refl b

lemma options_of_opened (h : b.perform (.openReceiver options) = (b', .now (.ok (.opened link)))) :
    ∃ l : BrokerLink, b'.links[link]? = some l ∧ l.options = options := by
  have hperform : b.perform (.openReceiver options) =
      ((b.openReceiver options).1, .now (b.openReceiver options).2) := rfl
  rw [hperform, Prod.mk.injEq, Reaction.now.injEq] at h
  obtain ⟨rfl, hopened⟩ := h
  exact (b.openReceiver_spec options).2 link hopened

lemma passes_of_next? {l : BrokerLink} {items rest : List (HubResult Message)}
    (h : BrokerLink.next? l items = some (.ok m, rest)) : BrokerLink.passes l m = true := by
  induction items with
  | nil => cases h
  | cons item items ih =>
    cases item with
    | error e => simp [BrokerLink.next?] at h
    | ok first =>
      unfold BrokerLink.next? at h
      split at h
      next hpasses =>
        cases h
        exact hpasses
      next => exact ih h

/-- What is received has passed the filter of its link. -/
lemma passes_of_received (h : b.perform (.receive link) = (b', .now (.ok (.received m)))) :
    ∃ l : BrokerLink, b.links[link]? = some l ∧ BrokerLink.passes l m = true := by
  change b.receive link = _ at h
  unfold receive at h
  split at h
  · simp at h
  next l hl =>
    split at h
    · simp at h
    · split at h
      next item inbound hnext =>
        simp only [Prod.mk.injEq, Reaction.now.injEq] at h
        cases item with
        | error e => simp [Except.map] at h
        | ok first =>
          simp only [Except.map, Except.ok.injEq, PeerAnswer.received.injEq] at h
          obtain ⟨-, rfl⟩ := h
          exact ⟨l, hl, passes_of_next? hnext⟩
      next => split at h <;> simp at h

end Broker
end DeviceHub.Rehearsal
