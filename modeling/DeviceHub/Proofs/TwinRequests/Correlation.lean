import DeviceHub.Proofs.TwinRequests.Entries

/-!
Which response a `twin_request` returns.  A response that comes in completes the call that waits
under its request id and no other, and what the call returns is told by that response.
-/
namespace DeviceHub.Mqtt

lemma Request.bind_answer {δ : Type} (request : Request δ) {r : TwinResponse}
    (h : ¬(200 ≤ r.status ∧ r.status < 300)) : (Except.ok r : HubResult TwinResponse).bind
      request.answer = .error (.status r.status (Text.decodeLossy r.payload)) :=
  if_neg h

namespace Transport

variable {δ : Type} {s t : Transport δ} {event : TransportEvent δ}
  {events : List (TransportEvent δ)} {i j : Nat} {c c' : Call δ} {id : String}

/-- An event brings a response to a call. -/
def Completes (s : Transport δ) (event : TransportEvent δ) (i : Nat) (r : TwinResponse) : Prop :=
  s.response? i ≠ some (.ok r) ∧ (s.step event).response? i = some (.ok r)

lemma Brings.unique {r r' : TwinResponse} (h : s.Brings event r) (h' : s.Brings event r') :
    r = r' := by
  obtain ⟨n, d, topic, payload, rfl, hd, -, hroute⟩ := h
  obtain ⟨n', d', topic', payload', heq, hd', -, hroute'⟩ := h'
  cases heq
  rw [hd] at hd'
  cases hd'
  rw [hroute] at hroute'
  cases hroute'
  rfl

/-- Only a response that comes in completes a call: the one that is entered under its id. -/
lemma Completes.cases {r : TwinResponse} (h : s.Completes event i r) :
    s.Brings event r ∧ s.pending.find? r.requestId = some i := by
  obtain ⟨hbefore, hafter⟩ := h
  obtain ⟨c', hc', hr⟩ := Option.bind_eq_some_iff.1 hafter
  obtain ⟨request, -, -, rfl⟩ | ⟨c, hc, fate⟩ := (step_move s event).fate hc'
  · cases hr
  · have hsame (hresponse : c.response = some (.ok r)) : False :=
      hbefore (by rw [response?, hc]; exact hresponse)
    cases fate with
    | same => exact (hsame hr).elim
    | turned => exact (hsame hr).elim
    | answered brings entry =>
      cases hr
      exact ⟨brings, entry⟩
    | failed entry => cases hr

/-- A response stays with its call. -/
lemma response?_stays {r : TwinResponse} (h : (run events).response? i = some (.ok r))
    {later : List (TransportEvent δ)} (hpre : events <+: later) :
    (run later).response? i = some (.ok r) := by
  obtain ⟨after, rfl⟩ := hpre
  induction after using List.reverseRecOn with
  | nil => simpa using h
  | append_singleton after event ih =>
    obtain ⟨c, hc, hr⟩ := Option.bind_eq_some_iff.1 ih
    have hsound := run_sound (events ++ after)
    obtain ⟨c', hc', -, -⟩ := (step_move _ event).keeps hc
    rw [← List.append_assoc, run_append, response?, hc', Option.bind_some]
    -- what leads to a call that has its response is no entry any more
    have hentry {id : String} (entry : (run (events ++ after)).pending.find? id = some i) :
        False := by
      have hnone := ((hsound.leads id i entry).call hc).2
      rw [hr] at hnone
      cases hnone
    cases (step_move _ event).fate_of_call hc hc' with
    | same => exact hr
    | turned => exact hr
    | answered brings entry => exact (hentry entry).elim
    | failed entry => exact (hentry (hsound.sorted.find?_of_mem entry)).elim

/-- A response has come in for a call. -/
def Received (events : List (TransportEvent δ)) (i : Nat) (r : TwinResponse) : Prop :=
  ∃ before event, before ++ [event] <+: events ∧ (run before).Completes event i r

lemma Received.response {r : TwinResponse} (h : Received events i r)
    (hc : (run events).calls[i]? = some c) : c.response = some (.ok r) := by
  obtain ⟨before, event, hpre, -, hafter⟩ := h
  rw [← run_append] at hafter
  have hstays := response?_stays hafter hpre
  rw [response?, hc] at hstays
  exact hstays

lemma received_of_response {r : TwinResponse} (h : (run events).response? i = some (.ok r)) :
    Received events i r := by
  induction events using List.reverseRecOn with
  | nil => cases h
  | append_singleton events event ih =>
    by_cases hbefore : (run events).response? i = some (.ok r)
    · obtain ⟨before, event', hpre, completes⟩ := ih hbefore
      exact ⟨before, event', hpre.trans (List.prefix_append _ _), completes⟩
    · exact ⟨events, event, List.prefix_refl _, hbefore, by rwa [run_append] at h⟩

/-- A call that waits returns what it makes of its response. -/
lemma step_awaiting {response : HubResult TwinResponse} (hc : s.calls[i]? = some c)
    (waits : c.phase = .awaiting id) (answered : c.response = some response) (id' : String) :
    (s.step (.resume i id')).phase? i = some (.returned (response.bind c.request.answer)) := by
  simp [step, resume?, hc, waits, respond?, answered, settle, finish, setPhase, phase?]

lemma Received.refused {r : TwinResponse} (received : Received events i r)
    (hc : (run events).calls[i]? = some c) (twin : c.request.isTwin = true)
    (hstatus : ¬(200 ≤ r.status ∧ r.status < 300)) {outcome : HubResult Answer}
    (hreturned : c.phase = .returned outcome) :
    outcome = .error (.status r.status (Text.decodeLossy r.payload)) ∨
      ¬Waited events i ∧ outcome = .error (.transport Connection.gone) := by
  have hr := received.response hc
  obtain ⟨response, hresponse, heq⟩ | ⟨-, hnone | hgone⟩ :=
    ((run_sound events).calls i c hc).returned twin _ hreturned
  · rw [hr] at hresponse
    cases hresponse
    exact .inl (by rw [heq, c.request.bind_answer hstatus])
  · rw [hr] at hnone
    cases hnone
  · exact .inr hgone

/-- A connection comes about, and a request about the twin is on its way to be entered. -/
def comingUp : List (TransportEvent Unit) :=
  [.start (.connect (.ok ⟨"d", "h", 8883, "u", "p", 60, .systemRoots⟩)), .resume 0 "",
    .report 0 (.acknowledged .success), .resume 0 "", .start .retrieve, .resume 1 "",
    .resume 1 ""]

end Transport
end DeviceHub.Mqtt
