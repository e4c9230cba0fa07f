import DeviceHub.Proofs.TokenGrants

/-!
What becomes of several calls of `put_token` at the same time.  A call gets its own response just
when nothing came between its receiver and its request: after another request it gets the response
to that one, after another receiver it gets none.
-/
namespace DeviceHub.Rehearsal

open EventHub

structure IsGrant (x : Exchange) : Prop where
  receiver : x.receiver = { source := some tokenNode }
  sender : x.sender = { target := some tokenNode }
  reply : x.request.replyTo = some tokenReplyTo
  id : x.request.messageId ≠ none

def grantResponse (description : String) (request : Message) : Message :=
  request.responseTo Message.statusOk description

/-- What an exchange makes of a response. -/
def judge (x : Exchange) (response : Message) : HubResult Message :=
  (x.check response).map fun _ => response

namespace TokenGrants

variable {s t : TokenGrants} {description : String} {i k receiver : Nat} {x y : Exchange}
  {l : BrokerLink} {o : HubResult Message}

/-- What is on its way to a call over its receiver, by what came after that receiver was opened. -/
inductive Mail (s : TokenGrants) (description : String) (i receiver : Nat) (l : BrokerLink) : Prop
  | none (next : markAfter? (.opened i) s.marks = .none) (inbound : l.inbound = [])
      (route : s.broker.tokenRoute? = some receiver)
  | some {j request rest} (next : markAfter? (.opened i) s.marks = .some (.sent j))
      (asked : s.requests[j]? = .some request)
      (inbound : l.inbound = .ok (grantResponse description request) :: rest)
  | lost {j} (next : markAfter? (.opened i) s.marks = .some (.opened j)) (inbound : l.inbound = [])
      (cut : l.connected = false) (route : s.broker.tokenRoute? ≠ .some receiver)

structure Listens (s : TokenGrants) (description : String) (i receiver : Nat) : Prop where
  marked : .opened i ∈ s.marks
  mail : ∃ l, s.broker.links[receiver]? = some l ∧ l.closed = false ∧
    l.options = { source := some tokenNode } ∧ s.Mail description i receiver l

/-- What a call comes to by what came after its receiver was opened. -/
inductive Verdict (s : TokenGrants) (description : String) (i : Nat) (x : Exchange) :
    HubResult Message → Prop
  | answered {j request} (next : markAfter? (.opened i) s.marks = some (.sent j))
      (asked : s.requests[j]? = some request) :
      Verdict s description i x (judge x (grantResponse description request))
  | lost {j} (next : markAfter? (.opened i) s.marks = some (.opened j)) :
      Verdict s description i x (.error .closed)

inductive Stands (s : TokenGrants) (description : String) (i : Nat) (x : Exchange) : Prop
  | begins (phase : x.phase = .openingReceiver) (fresh : .opened i ∉ s.marks)
  | opens {r} (phase : x.phase = .openingSender r) (listens : s.Listens description i r)
  | sends {r sender} (phase : x.phase = .sending r sender) (listens : s.Listens description i r)
      (opened : IsOpen s.broker.links sender { target := some tokenNode })
  | receives {r sender} (phase : x.phase = .receiving r sender)
      (listens : s.Listens description i r) (next : markAfter? (.opened i) s.marks ≠ none)
  | accepts {r sender m} (phase : x.phase = .accepting r sender m)
      (verdict : s.Verdict description i x (.ok m))
  | ends {outcome} (phase : (∃ r sender, x.phase = .closingSender r sender outcome) ∨
        (∃ r, x.phase = .closingReceiver r outcome) ∨ x.phase = .returned outcome)
      (settled : outcome = .error .cancelled ∨ s.Verdict description i x outcome)
  | leaves (phase : x.phase = .dropped)

/-- Every link is held by one call at most. -/
structure Owned (s : TokenGrants) : Prop where
  bound {i link : Nat} {x : Exchange} : s.calls[i]? = some x → link ∈ x.heldLinks →
    link < s.broker.links.length
  nodup {i : Nat} {x : Exchange} : s.calls[i]? = some x → x.heldLinks.Nodup
  disjoint {i k link : Nat} {x y : Exchange} : i ≠ k → s.calls[i]? = some x →
    s.calls[k]? = some y → link ∈ x.heldLinks → link ∉ y.heldLinks

structure Sound (s : TokenGrants) (description : String) : Prop where
  broker : s.broker.Grants description
  owned : s.Owned
  routed {i : Nat} : .opened i ∈ s.marks → s.broker.tokenRoute? ≠ none
  marked {i : Nat} : .opened i ∈ s.marks → i < s.calls.length
  grants {i : Nat} {x : Exchange} : s.calls[i]? = some x → IsGrant x
  stands {i : Nat} {x : Exchange} : s.calls[i]? = some x → s.Stands description i x

/-- A receiver that nothing touched. -/
lemma Listens.frame (h : s.Listens description i receiver) (marks : t.marks = s.marks)
    (route : t.broker.tokenRoute? = s.broker.tokenRoute?)
    (link : t.broker.links[receiver]? = s.broker.links[receiver]?)
    (requests : ∀ {k : Nat} {request : Message}, s.requests[k]? = some request →
      t.requests[k]? = some request) :
    t.Listens description i receiver := by
  obtain ⟨l, hl, hopen, hoptions, hmail⟩ := h.mail
  refine ⟨marks ▸ h.marked, l, link.trans hl, hopen, hoptions, ?_⟩
  cases hmail with
  | none next inbound hroute => exact .none (marks ▸ next) inbound (route.trans hroute)
  | some next asked inbound => exact .some (marks ▸ next) (requests asked) inbound
  | lost next inbound cut hroute => exact .lost (marks ▸ next) inbound cut (route ▸ hroute)

/-- A response comes after those that are there already. -/
lemma Listens.send {request : Message} {route : Nat} (h : s.Listens description i receiver)
    (asks : s.requests[k]? = some request) (hroute : s.broker.tokenRoute? = some route)
    (marks : t.marks = s.marks ++ [.sent k])
    (hroute' : t.broker.tokenRoute? = s.broker.tokenRoute?)
    (links : t.broker.links =
      s.broker.links.modify route (BrokerLink.put (grantResponse description request)))
    (requests : t.requests = s.requests) : t.Listens description i receiver := by
  obtain ⟨l, hl, hopen, hoptions, hmail⟩ := h.mail
  refine ⟨marks ▸ List.mem_append_left _ h.marked, ?_⟩
  cases hmail with
  | none next inbound hrecv =>
    cases Option.some.inj (hroute.symm.trans hrecv)
    have hlast := getLast?_of_markAfter?_eq_none h.marked next
    have hnext : markAfter? (.opened i) t.marks = some (.sent k) := by
      simp [marks, markAfter?_concat, next, hlast]
    have hinbound : (l.put (grantResponse description request)).inbound =
        [.ok (grantResponse description request)] := by
      simp [BrokerLink.put, inbound]
    exact ⟨l.put (grantResponse description request), by simp [links, hl], hopen, hoptions,
      .some hnext (requests ▸ asks) hinbound⟩
  | @some _ first rest next asked inbound =>
    have hnext := marks ▸ markAfter?_append [.sent k] next
    by_cases hto : route = receiver
    · have hinbound : (l.put (grantResponse description request)).inbound =
          .ok (grantResponse description first) ::
            (rest ++ [.ok (grantResponse description request)]) := by
        simp only [BrokerLink.put, inbound, List.cons_append]
      exact ⟨l.put (grantResponse description request), by simp [links, hto, hl], hopen, hoptions,
        .some hnext (requests ▸ asked) hinbound⟩
    · exact ⟨l, by simp [links, hto, hl], hopen, hoptions, .some hnext (requests ▸ asked) inbound⟩
  | lost next inbound cut hlost =>
    have hto : route ≠ receiver := fun h => hlost (h ▸ hroute)
    exact ⟨l, by simp [links, hto, hl], hopen, hoptions,
      .lost (marks ▸ markAfter?_append [.sent k] next) inbound cut (hroute' ▸ hlost)⟩

/-- A receiver opened by another takes the responses over. -/
lemma Listens.openReceiver {new : BrokerLink} (h : s.Listens description i receiver)
    (marks : t.marks = s.marks ++ [.opened k])
    (route : t.broker.tokenRoute? = some s.broker.links.length)
    (links : t.broker.links = (s.broker.tokenRoute?.elim s.broker.links fun route =>
      s.broker.links.modify route BrokerLink.cut) ++ [new])
    (requests : t.requests = s.requests) : t.Listens description i receiver := by
  obtain ⟨l, hl, hopen, hoptions, hmail⟩ := h.mail
  have hlt : receiver < s.broker.links.length := (List.getElem?_eq_some_iff.1 hl).1
  have hlost : t.broker.tokenRoute? ≠ some receiver := by
    rw [route]
    exact fun h => Nat.ne_of_gt hlt (Option.some.inj h)
  have hcut (h : s.broker.tokenRoute? = some receiver) :
      t.broker.links[receiver]? = some l.cut := by
    rw [links, List.getElem?_append_left (by simpa [h] using hlt)]
    simp [h, hl]
  have hkept (h : s.broker.tokenRoute? ≠ some receiver) :
      t.broker.links[receiver]? = some l := by
    cases hroute : s.broker.tokenRoute? with
    | none => rwa [links, hroute, Option.elim_none, List.getElem?_append_left hlt]
    | some route =>
      have hne : route ≠ receiver := fun h' => h (h' ▸ hroute)
      rw [links, hroute, List.getElem?_append_left (by simpa using hlt)]
      simp [hl, hne]
  refine ⟨marks ▸ List.mem_append_left _ h.marked, ?_⟩
  cases hmail with
  | none next inbound hrecv =>
    have hlast := getLast?_of_markAfter?_eq_none h.marked next
    have hnext : markAfter? (.opened i) t.marks = some (.opened k) := by
      simp [marks, markAfter?_concat, next, hlast]
    exact ⟨l.cut, hcut hrecv, hopen, hoptions, .lost hnext inbound rfl hlost⟩
  | some next asked inbound =>
    have hnext := marks ▸ markAfter?_append [.opened k] next
    by_cases hrecv : s.broker.tokenRoute? = some receiver
    · exact ⟨l.cut, hcut hrecv, hopen, hoptions, .some hnext (requests ▸ asked) inbound⟩
    · exact ⟨l, hkept hrecv, hopen, hoptions, .some hnext (requests ▸ asked) inbound⟩
  | lost next inbound cut hroute =>
    exact ⟨l, hkept hroute, hopen, hoptions,
      .lost (marks ▸ markAfter?_append [.opened k] next) inbound cut hlost⟩

lemma Verdict.later (h : s.Verdict description i x o) {more : List ReplyMark}
    (marks : t.marks = s.marks ++ more)
    (requests : ∀ {k : Nat} {request : Message}, s.requests[k]? = some request →
      t.requests[k]? = some request) (same : y.request = x.request) :
    t.Verdict description i y o := by
  cases h with
  | answered next asked =>
    have hjudge (m : Message) : judge x m = judge y m := by simp [judge, Exchange.check, same]
    rw [hjudge]
    exact .answered (marks ▸ markAfter?_append more next) (requests asked)
  | lost next => exact .lost (marks ▸ markAfter?_append more next)

lemma Stands.frame (h : s.Stands description k y) {more : List ReplyMark}
    (marks : t.marks = s.marks ++ more) (others : .opened k ∉ more)
    (requests : ∀ {j : Nat} {request : Message}, s.requests[j]? = some request →
      t.requests[j]? = some request)
    (listens : ∀ r, r ∈ y.heldLinks → s.Listens description k r → t.Listens description k r)
    (opened : ∀ link options, link ∈ y.heldLinks → IsOpen s.broker.links link options →
      IsOpen t.broker.links link options) : t.Stands description k y := by
  cases h with
  | begins phase fresh => exact .begins phase (by simp [marks, fresh, others])
  | opens phase hl => exact .opens phase (listens _ (by simp [Exchange.heldLinks, phase]) hl)
  | sends phase hl hopened =>
    exact .sends phase (listens _ (by simp [Exchange.heldLinks, phase]) hl)
      (opened _ _ (by simp [Exchange.heldLinks, phase]) hopened)
  | receives phase hl next =>
    obtain ⟨mark, hmark⟩ := Option.ne_none_iff_exists'.1 next
    refine .receives phase (listens _ (by simp [Exchange.heldLinks, phase]) hl) ?_
    simp [marks, markAfter?_append more hmark]
  | accepts phase verdict => exact .accepts phase (verdict.later marks requests rfl)
  | ends phase settled =>
    exact .ends phase (settled.imp_right fun verdict => verdict.later marks requests rfl)
  | leaves phase => exact .leaves phase

/-- A call has gone on to a phase, with a broker and more marks. -/
def goOn (i : Nat) (x : Exchange) (phase : ExchangePhase) (broker : Broker)
    (more : List ReplyMark) (s : TokenGrants) : TokenGrants :=
  { s with broker, calls := s.calls.set i { x with phase }, marks := s.marks ++ more }

section GoOn

variable {phase : ExchangePhase} {broker : Broker} {more : List ReplyMark}

@[simp] lemma goOn_marks : (s.goOn i x phase broker more).marks = s.marks ++ more :=
  rfl

lemma goOn_requests (call : s.calls[i]? = some x) :
    (s.goOn i x phase broker more).requests = s.requests := by
  obtain ⟨hlt, rfl⟩ := List.getElem?_eq_some_iff.1 call
  refine List.ext_getElem? fun k => ?_
  by_cases hki : i = k
  · subst hki
    simp [requests, goOn, hlt]
  · simp [requests, goOn, hki]

lemma goOn_call (call : s.calls[i]? = some x)
    (call' : (s.goOn i x phase broker more).calls[k]? = some y) :
    (k = i ∧ y = { x with phase }) ∨ (k ≠ i ∧ s.calls[k]? = some y) := by
  have hlt := (List.getElem?_eq_some_iff.1 call).1
  by_cases hki : k = i
  · subst hki
    simp only [goOn, List.getElem?_set_self hlt] at call'
    exact .inl ⟨rfl, (Option.some.inj call').symm⟩
  · simp only [goOn, List.getElem?_set_ne (Ne.symm hki)] at call'
    exact .inr ⟨hki, call'⟩

/-- A call that goes on holds what it held before, and links that did not exist. -/
lemma Owned.goOn (h : s.Owned) (call : s.calls[i]? = some x)
    (held : ∀ link ∈ ({ x with phase } : Exchange).heldLinks,
      link ∈ x.heldLinks ∨ link = s.broker.links.length ∧ link < broker.links.length)
    (nodup : ({ x with phase } : Exchange).heldLinks.Nodup)
    (grows : s.broker.links.length ≤ broker.links.length) :
    (s.goOn i x phase broker more).Owned := by
  have hforeign {k link : Nat} {y : Exchange} (hki : k ≠ i) (call' : s.calls[k]? = some y)
      (hlink : link ∈ y.heldLinks) : link ∉ ({ x with phase } : Exchange).heldLinks := by
    intro hmine
    obtain hbefore | ⟨rfl, -⟩ := held link hmine
    · exact h.disjoint hki.symm call call' hbefore hlink
    · exact Nat.lt_irrefl _ (h.bound call' hlink)
  refine ⟨?_, ?_, ?_⟩
  · intro k link y call' hlink
    obtain ⟨rfl, rfl⟩ | ⟨-, hcall⟩ := goOn_call call call'
    · obtain hbefore | ⟨-, hroom⟩ := held link hlink
      · exact Nat.lt_of_lt_of_le (h.bound call hbefore) grows
      · exact hroom
    · exact Nat.lt_of_lt_of_le (h.bound hcall hlink) grows
  · intro k y call'
    obtain ⟨rfl, rfl⟩ | ⟨-, hcall⟩ := goOn_call call call'
    · exact nodup
    · exact h.nodup hcall
  · intro j k link y z hjk callj callk hj hk
    obtain ⟨rfl, rfl⟩ | ⟨hji, hcallj⟩ := goOn_call call callj
    · obtain ⟨rfl, rfl⟩ | ⟨hki, hcallk⟩ := goOn_call call callk
      · exact hjk rfl
      · exact hforeign hki hcallk hk hj
    · obtain ⟨rfl, rfl⟩ | ⟨-, hcallk⟩ := goOn_call call callk
      · exact hforeign hji hcallj hj hk
      · exact h.disjoint hjk hcallj hcallk hj hk

/-- A call may go on where it stands well, if it leaves to the others what they hold. -/
lemma Sound.goOn (h : s.Sound description) (call : s.calls[i]? = some x)
    (grants : broker.Grants description)
    (held : ∀ link ∈ ({ x with phase } : Exchange).heldLinks,
      link ∈ x.heldLinks ∨ link = s.broker.links.length ∧ link < broker.links.length)
    (nodup : ({ x with phase } : Exchange).heldLinks.Nodup)
    (grows : s.broker.links.length ≤ broker.links.length)
    (own : ∀ k, k ≠ i → .opened k ∉ more)
    (routed : broker.tokenRoute? = none → s.broker.tokenRoute? = none ∧ .opened i ∉ more)
    (listens : ∀ k r, k ≠ i → r ∉ x.heldLinks → s.Listens description k r →
      (s.goOn i x phase broker more).Listens description k r)
    (opened : ∀ link options, link ∉ x.heldLinks → IsOpen s.broker.links link options →
      IsOpen broker.links link options)
    (stands : (s.goOn i x phase broker more).Stands description i { x with phase }) :
    (s.goOn i x phase broker more).Sound description := by
  have hlt : i < s.calls.length := (List.getElem?_eq_some_iff.1 call).1
  refine ⟨grants, h.owned.goOn call held nodup grows, ?_, ?_, ?_, ?_⟩
  · intro k marked hnone
    obtain ⟨hbefore, hmine⟩ := routed hnone
    obtain hmark | hmark := List.mem_append.1 marked
    · exact h.routed hmark hbefore
    · by_cases hki : k = i
      · exact hmine (hki ▸ hmark)
      · exact own k hki hmark
  · intro k marked
    simp only [TokenGrants.goOn, List.length_set]
    obtain hmark | hmark := List.mem_append.1 marked
    · exact h.marked hmark
    · by_cases hki : k = i
      · exact hki ▸ hlt
      · exact absurd hmark (own k hki)
  · intro k y call'
    obtain ⟨rfl, rfl⟩ | ⟨-, hcall⟩ := goOn_call call call'
    · have hx := h.grants call
      exact ⟨hx.receiver, hx.sender, hx.reply, hx.id⟩
    · exact h.grants hcall
  · intro k y call'
    obtain ⟨rfl, rfl⟩ | ⟨hki, hcall⟩ := goOn_call call call'
    · exact stands
    · have hfree {link : Nat} (hlink : link ∈ y.heldLinks) : link ∉ x.heldLinks :=
        h.owned.disjoint hki hcall call hlink
      exact (h.stands hcall).frame rfl (own k hki) (fun {_ _} hasked => goOn_requests call ▸ hasked)
        (fun r hr => listens k r hki (hfree hr))
        (fun link options hlink => opened link options (hfree hlink))

/-- A receiver that no event of the call touches. -/
lemma Listens.goOn (hl : s.Listens description k receiver) (call : s.calls[i]? = some x)
    (route : broker.tokenRoute? = s.broker.tokenRoute?)
    (link : broker.links[receiver]? = s.broker.links[receiver]?) :
    (s.goOn i x phase broker []).Listens description k receiver :=
  hl.frame (List.append_nil _) route link fun {_ _} asked => goOn_requests call ▸ asked

lemma Verdict.goOn (verdict : s.Verdict description i x o) (call : s.calls[i]? = some x) :
    (s.goOn i x phase broker []).Verdict description i { x with phase } o :=
  verdict.later rfl (fun {_ _} asked => goOn_requests call ▸ asked) rfl

/-- A call may go on by itself: nothing happens on the way of the responses. -/
lemma Sound.goOnQuietly (h : s.Sound description) (call : s.calls[i]? = some x)
    (grants : broker.Grants description)
    (held : ∀ link ∈ ({ x with phase } : Exchange).heldLinks,
      link ∈ x.heldLinks ∨ link = s.broker.links.length ∧ link < broker.links.length)
    (nodup : ({ x with phase } : Exchange).heldLinks.Nodup)
    (grows : s.broker.links.length ≤ broker.links.length)
    (route : broker.tokenRoute? = s.broker.tokenRoute?)
    (links : ∀ link, link < s.broker.links.length → link ∉ x.heldLinks →
      broker.links[link]? = s.broker.links[link]?)
    (stands : (s.goOn i x phase broker []).Stands description i { x with phase }) :
    (s.goOn i x phase broker []).Sound description := by
  refine h.goOn call grants held nodup grows (fun _ _ => List.not_mem_nil)
    (fun hnone => ⟨route ▸ hnone, List.not_mem_nil⟩) (fun k r _ hr hl => ?_)
    (fun link options hlink hopen => ?_) stands
  · obtain ⟨l, hget, -⟩ := hl.mail
    exact hl.goOn call route (links r (List.getElem?_eq_some_iff.1 hget).1 hr)
  · obtain ⟨l, hget, hrest⟩ := hopen
    exact ⟨l, (links link (List.getElem?_eq_some_iff.1 hget).1 hlink).trans hget, hrest⟩

/-- A call may go on with its own links alone. -/
lemma Sound.goOnWithin (h : s.Sound description) (call : s.calls[i]? = some x)
    (grants : broker.Grants description) (route : broker.tokenRoute? = s.broker.tokenRoute?)
    (length : broker.links.length = s.broker.links.length)
    (links : ∀ link, link ∉ x.heldLinks → broker.links[link]? = s.broker.links[link]?)
    (held : ({ x with phase } : Exchange).heldLinks.Sublist x.heldLinks)
    (stands : (s.goOn i x phase broker []).Stands description i { x with phase }) :
    (s.goOn i x phase broker []).Sound description :=
  h.goOnQuietly call grants (fun _ hlink => .inl (held.subset hlink))
    ((h.owned.nodup call).sublist held) (Nat.le_of_eq length.symm) route
    (fun link _ hlink => links link hlink) stands

end GoOn

section Ask

variable {phase : ExchangePhase} {broker : Broker} {request : PeerRequest}
  {outcome : HubResult PeerAnswer}

lemma ask_eq (call : s.calls[i]? = some x) (asked : x.request? = some request)
    (performed : s.broker.perform request = (broker, .now outcome))
    (next : x.next? outcome = some phase) :
    s.ask i = s.goOn i x phase broker (replyMarks i request) := by
  simp [ask, call, asked, performed, Exchange.answer?, next, goOn]

lemma Sound.openReceiver (h : s.Sound description) (call : s.calls[i]? = some x)
    (opens : x.phase = .openingReceiver) (fresh : .opened i ∉ s.marks) :
    (s.ask i).Sound description := by
  obtain ⟨broker, hperform, hgrants, hroute, hlinks⟩ := Broker.perform_openReceiver h.broker
  have hasked : x.request? = some (.openReceiver { source := some tokenNode }) := by
    simp [Exchange.request?, opens, (h.grants call).receiver]
  have hlength : broker.links.length = s.broker.links.length + 1 := by
    rw [hlinks]
    cases s.broker.tokenRoute? <;> simp
  have hnext : x.next? (.ok (.opened s.broker.links.length)) =
      some (.openingSender s.broker.links.length) := by
    simp [Exchange.next?, opens]
  rw [ask_eq call hasked hperform hnext]
  have hnew : broker.links[s.broker.links.length]? =
      some { options := { source := some tokenNode }, isReceiver := true } := by
    rw [hlinks]
    cases s.broker.tokenRoute? <;> simp
  refine h.goOn call hgrants (fun link hlink => .inr ?_) (by simp [Exchange.heldLinks])
    (by omega) (fun k hki => by simpa [replyMarks] using hki) (fun hnone => ?_)
    (fun k r _ _ hl => hl.openReceiver rfl hroute hlinks (goOn_requests call))
    (fun link options _ hopen => ?_) (.opens rfl ⟨List.mem_append_right _ (by simp [replyMarks]),
      _, hnew, rfl, rfl, .none ?_ rfl hroute⟩)
  · simp only [Exchange.heldLinks, List.mem_singleton] at hlink
    omega
  · cases hroute.symm.trans hnone
  · rw [hlinks]
    refine IsOpen.append ?_ _
    cases s.broker.tokenRoute? with
    | none => exact hopen
    | some route => exact hopen.modify route (fun _ => rfl) fun _ => rfl
  · -- the mark of the receiver is the last one, and the first of its kind
    have hlast : s.marks.getLast? ≠ some (.opened i) := fun h => fresh (List.mem_of_getLast? h)
    simp [replyMarks, markAfter?_concat, markAfter?_eq_none_of_not_mem fresh, hlast]

lemma Sound.openSender (h : s.Sound description) (call : s.calls[i]? = some x)
    (opens : x.phase = .openingSender receiver) (listens : s.Listens description i receiver) :
    (s.ask i).Sound description := by
  obtain ⟨broker, hperform, hgrants, hroute, hlinks⟩ := Broker.perform_openSender h.broker
  have hasked : x.request? = some (.openSender { target := some tokenNode }) := by
    simp [Exchange.request?, opens, (h.grants call).sender]
  have hnext : x.next? (.ok (.opened s.broker.links.length)) =
      some (.sending receiver s.broker.links.length) := by
    simp [Exchange.next?, opens]
  have hheld : x.heldLinks = [receiver] := by simp [Exchange.heldLinks, opens]
  have hlt : receiver < s.broker.links.length := h.owned.bound call (by simp [hheld])
  have hkept (link : Nat) (hlink : link < s.broker.links.length) :
      broker.links[link]? = s.broker.links[link]? := by
    rw [hlinks, List.getElem?_append_left hlink]
  have hnew : IsOpen broker.links s.broker.links.length { target := some tokenNode } :=
    ⟨{ options := { target := some tokenNode }, isReceiver := false }, by simp [hlinks], rfl, rfl⟩
  rw [ask_eq call hasked hperform hnext]
  refine h.goOnQuietly call hgrants (fun link hlink => ?_) ?_ (by simp [hlinks]) hroute
    (fun link hlink _ => hkept link hlink)
    (.sends rfl (listens.goOn call hroute (hkept receiver hlt)) hnew)
  · simp only [Exchange.heldLinks, List.mem_cons, List.not_mem_nil, or_false] at hlink
    simp only [hheld, List.mem_singleton, hlinks, List.length_append, List.length_singleton]
    omega
  · simpa [Exchange.heldLinks] using Nat.ne_of_lt hlt

lemma getElem?_requests (call : s.calls[i]? = some x) : s.requests[i]? = some x.request := by
  simp [requests, call]

lemma Sound.send {sender : Nat} (h : s.Sound description) (call : s.calls[i]? = some x)
    (sends : x.phase = .sending receiver sender) (listens : s.Listens description i receiver)
    (opened : IsOpen s.broker.links sender { target := some tokenNode }) :
    (s.ask i).Sound description := by
  obtain ⟨route, hroute⟩ := Option.ne_none_iff_exists'.1 (h.routed listens.marked)
  obtain ⟨broker, hperform, hgrants, hroute', hlinks⟩ :=
    Broker.perform_send h.broker opened (h.grants call).reply hroute
  have hasked : x.request? = some (.send sender x.request) := by simp [Exchange.request?, sends]
  have hnext : x.next? (.ok .done) = some (.receiving receiver sender) := by
    simp [Exchange.next?, sends]
  have hheld : ({ x with phase := .receiving receiver sender } : Exchange).heldLinks =
      x.heldLinks := by
    simp [Exchange.heldLinks, sends]
  have hlistens {k r : Nat} (hl : s.Listens description k r) :
      (s.goOn i x (.receiving receiver sender) broker [.sent i]).Listens description k r :=
    hl.send (getElem?_requests call) hroute rfl hroute' hlinks (goOn_requests call)
  rw [ask_eq call hasked hperform hnext]
  refine h.goOn call hgrants (fun link hlink => .inl (hheld ▸ hlink))
    (hheld ▸ h.owned.nodup call) (by simp [hlinks]) (by simp [replyMarks]) (fun hnone => ?_)
    (fun k r _ _ hl => hlistens hl) (fun link options _ hopen => ?_)
    (.receives rfl (hlistens listens) ?_)
  · cases (hroute'.trans hroute).symm.trans hnone
  · rw [hlinks]
    exact hopen.modify route (fun _ => rfl) fun _ => rfl
  · -- what follows is the own request, unless something came before it
    cases hafter : markAfter? (.opened i) s.marks with
    | none =>
      have hlast := getLast?_of_markAfter?_eq_none listens.marked hafter
      simp [replyMarks, markAfter?_concat, hafter, hlast]
    | some mark => simp [replyMarks, markAfter?_append _ hafter]

lemma Sound.askWithin {own : Nat} {change : BrokerLink → BrokerLink} (h : s.Sound description)
    (call : s.calls[i]? = some x) (asked : x.request? = some request)
    (mine : own ∈ x.heldLinks) (quiet : replyMarks i request = [])
    (performed : s.broker.perform request = (broker, .now outcome))
    (grants : broker.Grants description) (route : broker.tokenRoute? = s.broker.tokenRoute?)
    (links : broker.links = s.broker.links.modify own change) (next : x.next? outcome = some phase)
    (held : ({ x with phase } : Exchange).heldLinks.Sublist x.heldLinks)
    (stands : (s.goOn i x phase broker []).Stands description i { x with phase }) :
    (s.ask i).Sound description := by
  rw [ask_eq call asked performed next, quiet]
  refine h.goOnWithin call grants route (by simp [links]) (fun link hlink => ?_) held stands
  have hne : own ≠ link := ne_of_mem_of_not_mem mine hlink
  simp [links, hne]

lemma Sound.receive {sender : Nat} (h : s.Sound description) (call : s.calls[i]? = some x)
    (receives : x.phase = .receiving receiver sender) (listens : s.Listens description i receiver)
    (next : markAfter? (.opened i) s.marks ≠ none) : (s.ask i).Sound description := by
  have hasked : x.request? = some (.receive receiver) := by simp [Exchange.request?, receives]
  have hmine : receiver ∈ x.heldLinks := by simp [Exchange.heldLinks, receives]
  have hclosing (e : HubError) : ({ x with
      phase := .closingSender receiver sender (.error e) } : Exchange).heldLinks.Sublist
      x.heldLinks := by
    simp [Exchange.heldLinks, receives]
  obtain ⟨l, hl, hopen, hoptions, hmail⟩ := listens.mail
  cases hmail with
  | none hafter => exact absurd hafter next
  | @some j request _ hafter asked inbound =>
    obtain ⟨broker, hperform, hgrants, hroute, hlinks⟩ :=
      Broker.perform_receive h.broker hl hopen hoptions inbound
    have hverdict : s.Verdict description i x (judge x (grantResponse description request)) :=
      .answered hafter asked
    cases hcheck : x.check (grantResponse description request) with
    | ok _ =>
      have hnext : x.next? (.ok (.received (grantResponse description request))) =
          some (.accepting receiver sender (grantResponse description request)) := by
        simp [Exchange.next?, receives, hcheck]
      rw [judge, hcheck] at hverdict
      exact h.askWithin call hasked hmine rfl hperform hgrants hroute hlinks hnext
        (by simp [Exchange.heldLinks, receives]) (.accepts rfl (hverdict.goOn call))
    | error e =>
      have hnext : x.next? (.ok (.received (grantResponse description request))) =
          some (.closingSender receiver sender (.error e)) := by
        simp [Exchange.next?, receives, hcheck]
      rw [judge, hcheck] at hverdict
      exact h.askWithin call hasked hmine rfl hperform hgrants hroute hlinks hnext (hclosing e)
        (.ends (.inl ⟨_, _, rfl⟩) (.inr (hverdict.goOn call)))
  | lost hafter inbound cut hroute' =>
    obtain ⟨broker, hperform, hgrants, hroute, hlinks⟩ :=
      Broker.perform_receive_of_cut h.broker hl hopen inbound cut
    exact h.askWithin call hasked hmine rfl hperform hgrants hroute hlinks
      (by simp [Exchange.next?, receives]) (hclosing .closed)
      (.ends (.inl ⟨_, _, rfl⟩) (.inr ((Verdict.lost hafter).goOn call)))

lemma Sound.accept {sender : Nat} {m : Message} (h : s.Sound description)
    (call : s.calls[i]? = some x) (accepts : x.phase = .accepting receiver sender m)
    (verdict : s.Verdict description i x (.ok m)) : (s.ask i).Sound description := by
  obtain ⟨broker, hperform, hgrants, hroute, hlinks⟩ :=
    Broker.perform_accept h.broker receiver m
  have hasked : x.request? = some (.accept receiver m) := by simp [Exchange.request?, accepts]
  have hnext : x.next? (.ok .done) = some (.closingSender receiver sender (.ok m)) := by
    simp [Exchange.next?, accepts]
  rw [ask_eq call hasked hperform hnext]
  exact h.goOnWithin call hgrants hroute (by rw [hlinks]) (fun _ _ => by rw [hlinks])
    (by simp [Exchange.heldLinks, accepts])
    (.ends (.inl ⟨_, _, rfl⟩) (.inr (verdict.goOn call)))

lemma Sound.close (h : s.Sound description) (call : s.calls[i]? = some x)
    (closes : (∃ r sender, x.phase = .closingSender r sender o) ∨
      (∃ r, x.phase = .closingReceiver r o) ∨ x.phase = .returned o)
    (settled : o = .error .cancelled ∨ s.Verdict description i x o) :
    (s.ask i).Sound description := by
  have hsettled {broker : Broker} {phase : ExchangePhase} : o = .error .cancelled ∨
      (s.goOn i x phase broker []).Verdict description i { x with phase } o :=
    settled.imp_right fun verdict => verdict.goOn call
  obtain ⟨r, sender, hphase⟩ | ⟨r, hphase⟩ | hphase := closes
  · obtain ⟨broker, hperform, hgrants, hroute, hlinks⟩ :=
      Broker.perform_closeLink h.broker sender
    exact h.askWithin call (by simp [Exchange.request?, hphase])
      (by simp [Exchange.heldLinks, hphase]) rfl hperform hgrants hroute hlinks
      (by simp [Exchange.next?, hphase]) (by simp [Exchange.heldLinks, hphase])
      (.ends (.inr (.inl ⟨r, rfl⟩)) hsettled)
  · obtain ⟨broker, hperform, hgrants, hroute, hlinks⟩ := Broker.perform_closeLink h.broker r
    exact h.askWithin call (by simp [Exchange.request?, hphase])
      (by simp [Exchange.heldLinks, hphase]) rfl hperform hgrants hroute hlinks
      (by simp [Exchange.next?, hphase]) (by simp [Exchange.heldLinks])
      (.ends (.inr (.inr rfl)) hsettled)
  · have hsame : s.ask i = s := by simp [ask, call, Exchange.request?, hphase]
    rwa [hsame]

theorem Sound.ask (h : s.Sound description) (i : Nat) : (s.ask i).Sound description := by
  cases call : s.calls[i]? with
  | none =>
    have hsame : s.ask i = s := by simp [TokenGrants.ask, call]
    rwa [hsame]
  | some x =>
    cases h.stands call with
    | begins phase fresh => exact h.openReceiver call phase fresh
    | opens phase listens => exact h.openSender call phase listens
    | sends phase listens opened => exact h.send call phase listens opened
    | receives phase listens next => exact h.receive call phase listens next
    | accepts phase verdict => exact h.accept call phase verdict
    | ends phase settled => exact h.close call phase settled
    | leaves phase =>
      have hsame : s.ask i = s := by simp [TokenGrants.ask, call, Exchange.request?, phase]
      rwa [hsame]

end Ask

lemma Sound.modify (h : s.Sound description) {change : Exchange → Exchange}
    (changes : ∀ x, s.calls[i]? = some x → change x = x ∨ ∃ phase, change x = { x with phase } ∧
      ({ x with phase } : Exchange).heldLinks.Sublist x.heldLinks ∧
      (s.goOn i x phase s.broker []).Stands description i { x with phase }) :
    { s with calls := s.calls.modify i change }.Sound description := by
  have hsame (hcalls : s.calls.modify i change = s.calls) :
      { s with calls := s.calls.modify i change }.Sound description := by
    rwa [hcalls]
  cases call : s.calls[i]? with
  | none => exact hsame (by simp [List.modify_eq_set_getElem?, call])
  | some x =>
    obtain hx | ⟨phase, hx, held, stands⟩ := changes x call
    · refine hsame ?_
      obtain ⟨hlt, rfl⟩ := List.getElem?_eq_some_iff.1 call
      simp [List.modify_eq_set_getElem?, hlt, hx]
    · have heq : { s with calls := s.calls.modify i change } = s.goOn i x phase s.broker [] := by
        simp [TokenGrants.goOn, List.modify_eq_set_getElem?, call, hx]
      rw [heq]
      exact h.goOnWithin call h.broker rfl rfl (fun _ _ => rfl) held stands

lemma give_call (call : (s.calls ++ [x])[k]? = some y) :
    s.calls[k]? = some y ∨ k = s.calls.length ∧ y = x := by
  grind

lemma Owned.putToken (h : s.Owned) (holds : x.heldLinks = []) :
    { s with calls := s.calls ++ [x] }.Owned := by
  refine ⟨?_, ?_, ?_⟩
  · intro k link y call hlink
    obtain hcall | ⟨-, rfl⟩ := give_call call
    · exact h.bound hcall hlink
    · simp [holds] at hlink
  · intro k y call
    obtain hcall | ⟨-, rfl⟩ := give_call call
    · exact h.nodup hcall
    · simp [holds]
  · intro j k link y z hjk callj callk hj hk
    obtain hcallj | ⟨-, rfl⟩ := give_call callj
    · obtain hcallk | ⟨-, rfl⟩ := give_call callk
      · exact h.disjoint hjk hcallj hcallk hj hk
      · simp [holds] at hk
    · simp [holds] at hj

lemma Sound.putToken (h : s.Sound description) (begins : x.phase = .openingReceiver)
    (grant : IsGrant x) : { s with calls := s.calls ++ [x] }.Sound description := by
  have hrequests {k : Nat} {request : Message} (asked : s.requests[k]? = some request) :
      (s.requests ++ [x.request])[k]? = some request :=
    (List.getElem?_append_left (List.getElem?_eq_some_iff.1 asked).1).trans asked
  have hmap : { s with calls := s.calls ++ [x] }.requests = s.requests ++ [x.request] := by
    simp [requests]
  have hheld : x.heldLinks = [] := by simp [Exchange.heldLinks, begins]
  refine ⟨h.broker, h.owned.putToken hheld, h.routed, fun marked => ?_, ?_, ?_⟩
  · simpa using Nat.lt_succ_of_lt (h.marked marked)
  · intro k y call
    obtain hcall | ⟨-, rfl⟩ := give_call call
    · exact h.grants hcall
    · exact grant
  · intro k y call
    obtain hcall | ⟨rfl, rfl⟩ := give_call call
    · exact (h.stands hcall).frame (List.append_nil _).symm List.not_mem_nil
        (fun asked => hmap ▸ hrequests asked)
        (fun r _ hl => hl.frame rfl rfl rfl fun asked => hmap ▸ hrequests asked)
        (fun _ _ _ hopen => hopen)
    · exact .begins begins fun marked => Nat.lt_irrefl _ (h.marked marked)

theorem Sound.step (h : s.Sound description) (event : TokenGrantsEvent) :
    (s.step event).Sound description := by
  cases event with
  | putToken tokenType audience token messageId caller =>
    exact h.putToken rfl ⟨rfl, rfl, rfl, nofun⟩
  | ask i => exact h.ask i
  | cancel i =>
    refine h.modify fun x call => ?_
    cases hcancel : x.cancel? s.fired with
    | none => exact .inl rfl
    | some x' =>
      obtain ⟨-, phase, hcancelled, rfl⟩ := Exchange.cancelled_of_cancel? hcancel
      refine .inr ⟨phase, rfl, ?_⟩
      cases hcancelled with
      | early hphase =>
        exact ⟨by simp [Exchange.heldLinks], .ends (.inr (.inr rfl)) (.inl rfl)⟩
      | half hphase =>
        exact ⟨by simp [Exchange.heldLinks, hphase], .ends (.inr (.inl ⟨_, rfl⟩)) (.inl rfl)⟩
      | busy hbusy =>
        refine ⟨?_, .ends (.inl ⟨_, _, rfl⟩) (.inl rfl)⟩
        obtain hphase | hphase | ⟨m, hphase⟩ := hbusy <;> simp [Exchange.heldLinks, hphase]
  | fire token =>
    refine ⟨h.broker, ⟨h.owned.bound, h.owned.nodup, h.owned.disjoint⟩, h.routed, h.marked,
      h.grants, fun call => ?_⟩
    exact (h.stands call).frame (List.append_nil _).symm List.not_mem_nil (fun asked => asked)
      (fun r _ hl => hl.frame rfl rfl rfl fun asked => asked) (fun _ _ _ hopen => hopen)
  | drop i =>
    refine h.modify fun x call => ?_
    cases hphase : x.phase with
    | returned outcome => exact .inl (by simp [Exchange.drop, hphase])
    | _ =>
      exact .inr ⟨.dropped, by simp [Exchange.drop, hphase], by simp [Exchange.heldLinks],
        .leaves rfl⟩

theorem sound_run {broker : Broker} (grants : broker.Grants description)
    (events : List TokenGrantsEvent) : (run broker events).Sound description := by
  induction events using List.reverseRecOn with
  | nil => exact ⟨grants, ⟨nofun, nofun, nofun⟩, nofun, nofun, nofun, nofun⟩
  | append_singleton events event ih =>
    rw [run_append]
    exact ih.step event

lemma checkStatus_grantResponse (description : String) (request : Message) :
    (grantResponse description request).checkStatus = .ok () :=
  Message.checkStatus_eq_ok_iff.2 (by rfl)

/-- A response passes if it is that to the own request. -/
lemma judge_grantResponse {id : String} (hid : x.request.messageId = some id)
    (request : Message) :
    judge x (grantResponse description request) =
      if request.messageId = some id then .ok (grantResponse description request)
      else .error (.correlationMismatch id request.messageId) := by
  split
  next hsame =>
    rw [judge, Exchange.check_of_correlated hid hsame, checkStatus_grantResponse]
    rfl
  next hother =>
    rw [judge, Exchange.check_of_correlation hid hother]
    rfl

/-- A call that has returned comes to its verdict, unless it was cancelled. -/
lemma Sound.verdict (h : s.Sound description) (call : s.calls[i]? = some x)
    (returned : x.outcome? = some o) (uncancelled : o ≠ .error .cancelled) :
    s.Verdict description i x o := by
  have hphase := Exchange.phase_eq_of_outcome? returned
  cases h.stands call with
  | ends phase settled =>
    obtain ⟨_, _, hother⟩ | ⟨_, hother⟩ | hsame := phase
    · cases hphase.symm.trans hother
    · cases hphase.symm.trans hother
    · cases hphase.symm.trans hsame
      exact settled.resolve_left uncancelled
  | begins phase => cases hphase.symm.trans phase
  | opens phase => cases hphase.symm.trans phase
  | sends phase => cases hphase.symm.trans phase
  | receives phase => cases hphase.symm.trans phase
  | accepts phase => cases hphase.symm.trans phase
  | leaves phase => cases hphase.symm.trans phase

/-- A call that returned without being cancelled has got its own response exactly if its request
came directly after its receiver.  After the request of another call it got the response to that
one, and refused it; after the receiver of another call it got none. -/
theorem granted_iff_next {broker : Broker} (grants : broker.Grants description)
    (events : List TokenGrantsEvent)
    (distinct : ((run broker events).requests.map Message.messageId).Nodup)
    (call : (run broker events).calls[i]? = some x) (returned : x.outcome? = some o)
    (uncancelled : o ≠ .error .cancelled) :
    let next? := markAfter? (.opened i) (run broker events).marks
    (o = .ok (grantResponse description x.request) ↔ next? = some (.sent i)) ∧
    (∀ j request, (run broker events).requests[j]? = some request → j ≠ i →
      (o = .error (.correlationMismatch (x.request.messageId.getD "") request.messageId) ↔
        next? = some (.sent j))) ∧
    (o = .error .closed ↔ ∃ j, next? = some (.opened j)) ∧
    ((∃ j request, (run broker events).requests[j]? = some request ∧ next? = some (.sent j)) ∨
      ∃ j, next? = some (.opened j)) := by
  have h := sound_run grants events
  obtain ⟨id, hid⟩ := Option.ne_none_iff_exists'.1 (h.grants call).id
  have hown := getElem?_requests call
  have hinj {j k : Nat} {a b : Message} (ha : (run broker events).requests[j]? = some a)
      (hb : (run broker events).requests[k]? = some b) (hab : a.messageId = b.messageId) :
      j = k := by
    refine (List.getElem?_inj ?_ distinct).1 ?_
    · simpa using (List.getElem?_eq_some_iff.1 ha).1
    · simp [ha, hb, hab]
  intro next?
  cases h.verdict call returned uncancelled with
  | @answered j request hnext asked =>
    have hnext : next? = some (.sent j) := hnext
    rw [judge_grantResponse hid, hnext]
    by_cases hji : j = i
    · subst hji
      cases Option.some.inj (asked.symm.trans hown)
      rw [if_pos hid]
      refine ⟨by simp, fun k other hk hkj => ?_, by simp, .inl ⟨j, _, asked, rfl⟩⟩
      simpa using hkj.symm
    · have hother : request.messageId ≠ some id := fun hsame =>
        hji (hinj asked hown (hsame.trans hid.symm))
      rw [if_neg hother]
      refine ⟨by simp [hji], fun k other hk hkj => ?_, by simp, .inl ⟨j, _, asked, rfl⟩⟩
      simp only [hid, Option.getD_some, Except.error.injEq, HubError.correlationMismatch.injEq,
        true_and, Option.some.injEq, ReplyMark.sent.injEq]
      exact ⟨fun hsame => hinj asked hk hsame, fun hsame => by
        subst hsame
        cases Option.some.inj (asked.symm.trans hk)
        rfl⟩
  | @lost j hnext =>
    have hnext : next? = some (.opened j) := hnext
    rw [hnext]
    exact ⟨by simp, fun k other hk hkj => by simp, by simp, .inr ⟨j, rfl⟩⟩

/-- The second call opens its receiver once the request of the first is sent. -/
def inTurn : List TokenGrantsEvent :=
  [.putToken "t" "a" "1" "m0" "c0", .putToken "t" "b" "2" "m1" "c1",
    .ask 0, .ask 0, .ask 0, .ask 1, .ask 0, .ask 1, .ask 1, .ask 0, .ask 1, .ask 0, .ask 0,
    .ask 1, .ask 1, .ask 1]

theorem granted_iff_next_of_in_turn :
    ∃ x, (run {} inTurn).calls[0]? = some x ∧
      x.outcome? = some (.ok (grantResponse "OK" x.request)) := by
  have grants : ({} : Broker).Grants "OK" := ⟨rfl, rfl, rfl⟩
  have distinct : ((run {} inTurn).requests.map Message.messageId).Nodup := by decide
  obtain ⟨answered, -⟩ := granted_iff_next (i := 0) grants inTurn distinct rfl rfl nofun
  exact ⟨_, rfl, congrArg some (answered.2 rfl)⟩

def overlapping : List TokenGrantsEvent :=
  [.putToken "t" "a" "1" "m0" "c0", .putToken "t" "b" "2" "m1" "c1",
    .ask 0, .ask 0, .ask 1, .ask 0, .ask 0, .ask 0, .ask 0,
    .ask 1, .ask 1, .ask 1, .ask 1, .ask 1]

/-- Of two calls at the same time neither succeeds, though both tokens are taken: the first gets no
response, and the second gets that to the first. -/
theorem overlapping_disturbed :
    ({} : Broker).Grants "OK" ∧
      let s := run {} overlapping
      (s.requests.map Message.messageId).Nodup ∧ s.fired = [] ∧
        s.broker.granted = [("a", "1"), ("b", "2")] ∧
        s.calls.map Exchange.outcome? =
          [some (.error .closed), some (.error (.correlationMismatch "m1" (some "m0")))] :=
  ⟨⟨rfl, rfl, rfl⟩, by decide, rfl, rfl, rfl⟩

end TokenGrants
end DeviceHub.Rehearsal
