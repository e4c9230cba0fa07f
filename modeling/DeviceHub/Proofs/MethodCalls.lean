import DeviceHub.Multiplexer.Registry
import DeviceHub.Proofs.Closing
import DeviceHub.Proofs.SortedMap

/-!
Handlers of a `Registry` that come and go while methods are called.  `invoke` looks its handler up
and answers later, with whatever happens to the registry in between; what it answers follows from
the registrations before it looked.
-/
namespace DeviceHub

def MethodReply.ofOutcome : HubResult Mapping → MethodReply
  | .ok response => ⟨200, (Value.mapping response).toJson⟩
  | .error e => .failure 500 e.message

/-- A call that has looked for its handler. -/
structure MethodCall where
  method : String
  payload : Bytes
  found : Option Handler
  ran : List (Handler × Mapping) := []
  reply : Option MethodReply := none

namespace MethodCall

/-- The handler that has been found, as all the call sees of the registry. -/
def seen (c : MethodCall) : Registry :=
  (c.found.map (c.method, ·)).toList

def due (c : MethodCall) : List (Handler × Mapping) :=
  match c.found, Registry.decodeRequest c.payload with
  | some handler, .ok request => [(handler, request)]
  | _, _ => []

/-- Runs the handler and answers, once. -/
def answer (c : MethodCall) : MethodCall :=
  if c.reply.isSome then c
  else { c with ran := c.ran ++ c.due, reply := some (c.seen.invoke c.method c.payload) }

def ofMethod? (name : String) (c : MethodCall) : Option MethodCall :=
  if c.method = name then some c else none

lemma answer_answer (c : MethodCall) : c.answer.answer = c.answer := by
  cases hreply : c.reply <;> simp [answer, hreply]

lemma ofMethod?_answer (name : String) (c : MethodCall) :
    c.answer.ofMethod? name = (c.ofMethod? name).map answer := by
  have hmethod : c.answer.method = c.method := by
    unfold answer
    split <;> rfl
  unfold ofMethod?
  rw [hmethod]
  split <;> rfl

end MethodCall

inductive RegistryEvent where
  | handle (name : String) (handler : Handler)
  | remove (name : String)
  | close (e : HubError)
  /-- A call looks for its handler. -/
  | invoke (name : String) (payload : Bytes)
  | answer (i : Nat)

instance : Closes RegistryEvent where
  error?
    | .close e => some e
    | _ => none

namespace RegistryEvent

/-- Whether an event takes out the handler of a name. -/
def clears (name : String) : RegistryEvent → Bool
  | remove other => other = name
  | close _ => true
  | _ => false

/-- Whether an event puts in or takes out a handler under another name. -/
def elsewhere (name : String) : RegistryEvent → Bool
  | handle other _ | remove other => other ≠ name
  | _ => false

def isInvoke : RegistryEvent → Bool
  | invoke _ _ => true
  | _ => false

end RegistryEvent

/-- A registry and the calls to it, in the order in which they looked for their handlers. -/
structure MethodTable where
  mux : Multiplexer Registry := { dispatch := [] }
  calls : List MethodCall := []

namespace MethodTable

open RegistryEvent

/-- One event; a registration that fails changes nothing. -/
def step (s : MethodTable) : RegistryEvent → MethodTable
  | .handle name handler =>
    match s.mux.handle name handler with
    | .ok mux => { s with mux }
    | .error _ => s
  | .remove name => { s with mux := s.mux.remove name }
  | .close e => { s with mux := s.mux.close e }
  | .invoke name payload =>
    { s with calls := s.calls ++ [⟨name, payload, s.mux.dispatch.find? name, [], none⟩] }
  | .answer i =>
    { s with calls := s.calls.modify i MethodCall.answer }

def run (events : List RegistryEvent) : MethodTable :=
  events.foldl step {}

@[simp] lemma run_append (events : List RegistryEvent) (event : RegistryEvent) :
    run (events ++ [event]) = (run events).step event :=
  List.foldl_append

/-- A registration goes through after these events. -/
def Succeeds (events : List RegistryEvent) (name : String) (handler : Handler) : Prop :=
  ∃ mux, (run events).mux.handle name handler = .ok mux

/-- A handler is the one of the latest registration of a name that went through, and neither a
removal of the name nor a close has come since. -/
def Stands (events : List RegistryEvent) (name : String) (handler : Handler) : Prop :=
  ∃ before after, events = before ++ .handle name handler :: after ∧
    Succeeds before name handler ∧
    (∀ event ∈ after, event.clears name = false) ∧
    ∀ middle later rest, after = middle ++ .handle name later :: rest →
      ¬ Succeeds (before ++ .handle name handler :: middle) name later

/-- What comes of a call after these events: the handlers it runs, and the answer. -/
inductive Answered (events : List RegistryEvent) (name : String) (payload : Bytes) :
    List (Handler × Mapping) → MethodReply → Prop
  | handled {handler : Handler} {request : Mapping} (stands : Stands events name handler)
      (decoded : Registry.decodeRequest payload = .ok request) :
      Answered events name payload [(handler, request)] (.ofOutcome (handler request))
  | malformed {handler : Handler} {e : HubError} (stands : Stands events name handler)
      (decoded : Registry.decodeRequest payload = .error e) :
      Answered events name payload [] (.failure 400 e.message)
  | unknown (vacant : ∀ handler, ¬ Stands events name handler) :
      Answered events name payload [] .notFound

variable {events before after : List RegistryEvent} {event : RegistryEvent} {s t : MethodTable}
  {name other : String} {handler later : Handler} {payload : Bytes} {i : Nat}

section Registrations

lemma handle_of_closed {e : HubError} (h : s.mux.closed = some e) (name : String)
    (handler : Handler) : s.mux.handle name handler = .error e := by
  simp [Multiplexer.handle, h]

lemma handle_of_taken (hopen : s.mux.closed = none) (h : s.mux.dispatch.find? name = some handler)
    (later : Handler) : s.mux.handle name later = .error (.duplicateMethod name) := by
  simp [Multiplexer.handle, hopen, h]

lemma handle_of_vacant (hopen : s.mux.closed = none) (h : s.mux.dispatch.find? name = none)
    (handler : Handler) :
    s.mux.handle name handler =
      .ok { s.mux with dispatch := s.mux.dispatch.insert name handler } := by
  simp [Multiplexer.handle, hopen, h]

lemma step_handle_cases (s : MethodTable) (name : String) (handler : Handler) :
    (s.mux.closed = none ∧ s.mux.dispatch.find? name = none ∧
      s.step (.handle name handler) =
        { s with mux := { s.mux with dispatch := s.mux.dispatch.insert name handler } }) ∨
    ((∃ e, s.mux.handle name handler = .error e) ∧ s.step (.handle name handler) = s) := by
  cases hclosed : s.mux.closed with
  | some e =>
    have hhandle := handle_of_closed hclosed name handler
    exact .inr ⟨⟨e, hhandle⟩, by simp [step, hhandle]⟩
  | none =>
    cases hfind : s.mux.dispatch.find? name with
    | some standing =>
      have hhandle := handle_of_taken hclosed hfind handler
      exact .inr ⟨⟨_, hhandle⟩, by simp [step, hhandle]⟩
    | none => exact .inl ⟨rfl, rfl, by simp [step, handle_of_vacant hclosed hfind, hclosed]⟩

/-- The names ascend, and nobody handles anything once it is closed. -/
structure Orderly (s : MethodTable) : Prop where
  sorted : s.mux.dispatch.Sorted
  emptied : s.mux.closed ≠ none → s.mux.dispatch = []

lemma Orderly.close (h : Orderly s) (e : HubError) : Orderly { s with mux := s.mux.close e } := by
  cases hclosed : s.mux.closed with
  | some first => simpa [Multiplexer.close, hclosed] using h
  | none => exact ⟨by simp [Multiplexer.close, hclosed, Dispatch.closeAll, KeyMap.sorted_nil],
      by simp [Multiplexer.close, hclosed, Dispatch.closeAll]⟩

lemma Orderly.step (h : Orderly s) (event : RegistryEvent) : Orderly (s.step event) := by
  cases event with
  | handle name handler =>
    obtain ⟨hopen, -, hstep⟩ | ⟨-, hstep⟩ := step_handle_cases s name handler
    · rw [hstep]
      exact ⟨h.sorted.insert name handler, fun hne => absurd hopen hne⟩
    · rwa [hstep]
  | remove name =>
    refine ⟨h.sorted.erase name, fun hne => ?_⟩
    simp [MethodTable.step, Multiplexer.remove, h.emptied hne, KeyMap.erase]
  | close e => exact h.close e
  | invoke name payload => exact ⟨h.sorted, h.emptied⟩
  | answer i => exact ⟨h.sorted, h.emptied⟩

lemma orderly_run (events : List RegistryEvent) : Orderly (run events) := by
  induction events using List.reverseRecOn with
  | nil => exact ⟨KeyMap.sorted_nil, fun hne => absurd rfl hne⟩
  | append_singleton events event ih =>
    rw [run_append]
    exact ih.step event

lemma closed_step (s : MethodTable) (event : RegistryEvent) :
    (s.step event).mux.closed = s.mux.closed.or (Closes.error? event) := by
  cases event with
  | handle name handler =>
    obtain ⟨-, -, hstep⟩ | ⟨-, hstep⟩ := step_handle_cases s name handler
    · rw [hstep]
      exact Option.or_none.symm
    · rw [hstep]
      exact Option.or_none.symm
  | close e => exact s.mux.closed_close e
  | remove | invoke | answer => exact Option.or_none.symm

lemma closed_run (events : List RegistryEvent) : (run events).mux.closed = firstClose? events :=
  closed_foldl (fun s : MethodTable => s.mux.closed) closed_step rfl events

end Registrations

section Lookup

/-- What a removal of the name or a close leaves under it. -/
lemma find?_step_of_clears (h : Orderly s) (hclears : event.clears name = true) :
    (s.step event).mux.dispatch.find? name = none := by
  cases event with
  | remove other =>
    obtain rfl : other = name := by simpa [clears] using hclears
    simp [step, Multiplexer.remove, h.sorted.find?_erase]
  | close e =>
    cases hclosed : s.mux.closed with
    | some first => simp [step, Multiplexer.close, hclosed, h.emptied (by simp [hclosed])]
    | none => simp [step, Multiplexer.close, hclosed, Dispatch.closeAll]
  | handle other handler => cases hclears
  | invoke other payload => cases hclears
  | answer i => cases hclears

/-- Only a registration that goes through changes what is under the name otherwise. -/
lemma find?_step_of_quiet (h : Orderly s) (hkeeps : event.clears name = false)
    (hfails : ∀ handler, event = .handle name handler →
      ∀ mux, s.mux.handle name handler ≠ .ok mux) :
    (s.step event).mux.dispatch.find? name = s.mux.dispatch.find? name := by
  cases event with
  | handle other handler =>
    obtain ⟨hopen, hvacant, hstep⟩ | ⟨-, hstep⟩ := step_handle_cases s other handler
    · have hne : name ≠ other := by
        rintro rfl
        exact hfails handler rfl _ (handle_of_vacant hopen hvacant handler)
      rw [hstep]
      exact KeyMap.find?_insert_of_ne hne handler s.mux.dispatch
    · rw [hstep]
  | remove other =>
    have hne : name ≠ other := by simpa [clears, eq_comm] using hkeeps
    simp [step, Multiplexer.remove, h.sorted.find?_erase, hne]
  | close e => cases hkeeps
  | invoke other payload => rfl
  | answer i => rfl

lemma find?_of_handle (h : ∃ mux, s.mux.handle name handler = .ok mux) :
    (s.step (.handle name handler)).mux.dispatch.find? name = some handler := by
  obtain ⟨mux, hhandle⟩ := h
  obtain ⟨-, -, hstep⟩ | ⟨⟨e, hfails⟩, -⟩ := step_handle_cases s name handler
  · rw [hstep]
    exact KeyMap.find?_insert_self name handler s.mux.dispatch
  · cases hhandle.symm.trans hfails

lemma not_succeeds_of_find? (h : (run events).mux.dispatch.find? name = some handler)
    (later : Handler) : ¬ Succeeds events name later := by
  rintro ⟨mux, hhandle⟩
  simp only [Multiplexer.handle, h] at hhandle
  split at hhandle <;> cases hhandle

lemma Stands.find? (h : Stands events name handler) :
    (run events).mux.dispatch.find? name = some handler := by
  obtain ⟨before, after, rfl, hsucceeds, hkeeps, -⟩ := h
  induction after using List.reverseRecOn with
  | nil => simpa using find?_of_handle hsucceeds
  | append_singleton after event ih =>
    have hfind := ih fun event hevent => hkeeps event (List.mem_append_left _ hevent)
    rw [← List.cons_append, ← List.append_assoc, run_append,
      find?_step_of_quiet (orderly_run _) (hkeeps event (by simp)), hfind]
    intro later _ mux hhandle
    exact not_succeeds_of_find? hfind later ⟨mux, hhandle⟩

lemma stands_of_succeeds (h : Succeeds events name handler) :
    Stands (events ++ [.handle name handler]) name handler :=
  ⟨events, [], rfl, h, by simp, by simp⟩

lemma Stands.append (h : Stands events name handler) (hkeeps : event.clears name = false) :
    Stands (events ++ [event]) name handler := by
  have hfind := h.find?
  obtain ⟨before, after, rfl, hsucceeds, hkept, hlatest⟩ := h
  refine ⟨before, after ++ [event], by simp, hsucceeds, ?_, ?_⟩
  · intro x hx
    obtain hx | hx := List.mem_append.1 hx
    · exact hkept x hx
    · exact List.mem_singleton.1 hx ▸ hkeeps
  · intro middle later rest hsplit
    obtain rfl | ⟨rest, last, rfl⟩ := List.eq_nil_or_concat' rest
    · obtain ⟨rfl, -⟩ := List.append_inj' hsplit rfl
      exact not_succeeds_of_find? hfind later
    · rw [← List.cons_append, ← List.append_assoc] at hsplit
      exact hlatest middle later rest (List.append_inj' hsplit rfl).1

lemma stands_of_find? (h : (run events).mux.dispatch.find? name = some handler) :
    Stands events name handler := by
  induction events using List.reverseRecOn generalizing handler with
  | nil => simp [run] at h
  | append_singleton events event ih =>
    rw [run_append] at h
    cases hclears : event.clears name with
    | true => simp [find?_step_of_clears (orderly_run events) hclears] at h
    | false =>
      by_cases hhandle : ∃ later, event = .handle name later ∧ Succeeds events name later
      · obtain ⟨later, rfl, hsucceeds⟩ := hhandle
        obtain rfl : later = handler := by simpa [find?_of_handle hsucceeds] using h
        exact stands_of_succeeds hsucceeds
      · refine (ih ?_).append hclears
        rwa [find?_step_of_quiet (orderly_run events) hclears] at h
        exact fun later hevent mux hok => hhandle ⟨later, hevent, mux, hok⟩

/-- What a call finds under a name is the handler of the latest registration that still stands. -/
theorem find?_run : (run events).mux.dispatch.find? name = some handler ↔
    Stands events name handler :=
  ⟨stands_of_find?, Stands.find?⟩

lemma find?_run_eq_none :
    (run events).mux.dispatch.find? name = none ↔ ∀ handler, ¬ Stands events name handler := by
  rw [Option.eq_none_iff_forall_ne_some]
  exact forall_congr' fun handler => not_congr find?_run

end Lookup

section Calls

@[simp] lemma find?_seen (c : MethodCall) : c.seen.find? c.method = c.found := by
  cases hfound : c.found <;> simp [MethodCall.seen, hfound]

/-- A call gets the answer that the registry it looked at would have given at once. -/
lemma invoke_seen (c : MethodCall) {r : Registry} (h : c.found = r.find? c.method) :
    c.seen.invoke c.method c.payload = r.invoke c.method c.payload := by
  simp only [Registry.invoke, find?_seen, h]

lemma calls_step_handle (s : MethodTable) (name : String) (handler : Handler) :
    (s.step (.handle name handler)).calls = s.calls := by
  obtain ⟨-, -, hstep⟩ | ⟨-, hstep⟩ := step_handle_cases s name handler <;> rw [hstep]

lemma calls_step_of_ne (h : i < s.calls.length) (hne : event ≠ .answer i) :
    (s.step event).calls[i]? = s.calls[i]? := by
  cases event with
  | handle name handler => rw [calls_step_handle]
  | remove name => rfl
  | close e => rfl
  | invoke name payload => exact List.getElem?_append_left h
  | answer j =>
    have hj : j ≠ i := fun heq => hne (heq ▸ rfl)
    simp [step, hj]

lemma calls_step_length (s : MethodTable) (event : RegistryEvent) :
    (s.step event).calls.length = s.calls.length + [event].countP isInvoke := by
  cases event with
  | handle name handler => simp [calls_step_handle, isInvoke]
  | remove name => rfl
  | close e => rfl
  | invoke name payload => simp [step, isInvoke]
  | answer i => simp [step, isInvoke]

lemma calls_run_length (events : List RegistryEvent) :
    (run events).calls.length = events.countP isInvoke := by
  induction events using List.reverseRecOn with
  | nil => rfl
  | append_singleton events event ih =>
    rw [run_append, calls_step_length, ih, List.countP_append]

/-- A call keeps what it has found, and answers when it goes on. -/
lemma call_run (before after : List RegistryEvent) (name : String) (payload : Bytes) :
    let i := before.countP isInvoke
    let call : MethodCall := ⟨name, payload, (run before).mux.dispatch.find? name, [], none⟩
    let s := run (before ++ .invoke name payload :: after)
    (.answer i ∉ after ∧ s.calls[i]? = some call) ∨
      (.answer i ∈ after ∧ s.calls[i]? = some call.answer) := by
  intro i call
  have hlength := calls_run_length before
  induction after using List.reverseRecOn with
  | nil =>
    refine .inl ⟨List.not_mem_nil, ?_⟩
    rw [run_append]
    simp [step, i, call, ← hlength]
  | append_singleton after event ih =>
    have hlt : i < (run (before ++ .invoke name payload :: after)).calls.length := by
      rw [calls_run_length]
      simp [i, isInvoke]
    simp only [← List.cons_append, ← List.append_assoc, run_append, List.mem_append,
      List.mem_singleton]
    by_cases hevent : event = .answer i
    · subst hevent
      refine .inr ⟨.inr rfl, ?_⟩
      obtain ⟨-, hcall⟩ | ⟨-, hcall⟩ := ih
      · simp [step, hcall]
      · simp [step, hcall, MethodCall.answer_answer]
    · rw [calls_step_of_ne hlt hevent]
      simpa [Ne.symm hevent] using ih

lemma answered_due (events : List RegistryEvent) (c : MethodCall)
    (hfound : c.found = (run events).mux.dispatch.find? c.method) :
    Answered events c.method c.payload c.due
      ((run events).mux.dispatch.invoke c.method c.payload) := by
  cases hfind : (run events).mux.dispatch.find? c.method with
  | none =>
    have hdue : c.due = [] := by simp [MethodCall.due, hfound, hfind]
    have hinvoke : (run events).mux.dispatch.invoke c.method c.payload = .notFound := by
      simp [Registry.invoke, hfind]
    rw [hdue, hinvoke]
    exact .unknown (find?_run_eq_none.1 hfind)
  | some handler =>
    have hstands := find?_run.1 hfind
    cases hdecode : Registry.decodeRequest c.payload with
    | error e =>
      have hdue : c.due = [] := by simp [MethodCall.due, hfound, hfind, hdecode]
      have hinvoke : (run events).mux.dispatch.invoke c.method c.payload =
          .failure 400 e.message := by simp [Registry.invoke, hfind, hdecode]
      rw [hdue, hinvoke]
      exact .malformed hstands hdecode
    | ok request =>
      have hdue : c.due = [(handler, request)] := by
        simp [MethodCall.due, hfound, hfind, hdecode]
      have hinvoke : (run events).mux.dispatch.invoke c.method c.payload =
          .ofOutcome (handler request) := by
        cases houtcome : handler request <;>
          simp [Registry.invoke, hfind, hdecode, houtcome, MethodReply.ofOutcome]
      rw [hdue, hinvoke]
      exact .handled hstands hdecode

lemma Answered.of_stands {ran : List (Handler × Mapping)} {reply : MethodReply} {request : Mapping}
    (h : Answered events name payload ran reply) (hstands : Stands events name handler)
    (hdecoded : Registry.decodeRequest payload = .ok request) :
    ran = [(handler, request)] ∧ reply = .ofOutcome (handler request) := by
  have hfind := hstands.find?
  cases h with
  | handled stands decoded =>
    obtain rfl := Option.some.inj (hfind.symm.trans stands.find?)
    obtain rfl := Except.ok.inj (hdecoded.symm.trans decoded)
    exact ⟨rfl, rfl⟩
  | malformed stands decoded => cases hdecoded.symm.trans decoded
  | unknown vacant => exact absurd hstands (vacant handler)

end Calls

section Independence

/-- Two registries that are the same for whoever uses one name. -/
structure Alike (name : String) (s t : MethodTable) : Prop where
  closed : s.mux.closed = t.mux.closed
  handler : s.mux.dispatch.find? name = t.mux.dispatch.find? name
  calls : s.calls.map (·.ofMethod? name) = t.calls.map (·.ofMethod? name)

lemma Alike.symm (h : Alike name s t) : Alike name t s :=
  ⟨h.closed.symm, h.handler.symm, h.calls.symm⟩

lemma Alike.call {c : MethodCall} (h : Alike name s t) (hmethod : c.method = name)
    (hcall : s.calls[i]? = some c) : t.calls[i]? = some c := by
  have hcalls : (t.calls.map (·.ofMethod? name))[i]? = some (some c) := by
    rw [← h.calls]
    simp [hcall, MethodCall.ofMethod?, hmethod]
  rw [List.getElem?_map, Option.map_eq_some_iff] at hcalls
  obtain ⟨d, hd, hsame⟩ := hcalls
  obtain ⟨-, rfl⟩ : d.method = name ∧ d = c := by simpa [MethodCall.ofMethod?] using hsame
  exact hd

lemma Alike.handle (h : Alike name s t) (handler : Handler) :
    (s.mux.handle name handler).map (fun _ => ()) =
      (t.mux.handle name handler).map fun _ => () := by
  unfold Multiplexer.handle
  rw [h.closed, h.handler]
  cases t.mux.closed <;> cases t.mux.dispatch.find? name <;> rfl

lemma Alike.find?_step (h : Alike name s t) (hs : Orderly s) (ht : Orderly t)
    (event : RegistryEvent) :
    (s.step event).mux.dispatch.find? name = (t.step event).mux.dispatch.find? name := by
  cases hclears : event.clears name with
  | true => rw [find?_step_of_clears hs hclears, find?_step_of_clears ht hclears]
  | false =>
    by_cases hhandle : ∃ handler mux, event = .handle name handler ∧
        s.mux.handle name handler = .ok mux
    · obtain ⟨handler, mux, rfl, hok⟩ := hhandle
      have hsame := h.handle handler
      have hok' : ∃ mux, t.mux.handle name handler = .ok mux := by
        cases hhandle : t.mux.handle name handler with
        | ok mux => exact ⟨mux, rfl⟩
        | error e => simp [hok, hhandle, Except.map] at hsame
      rw [find?_of_handle ⟨mux, hok⟩, find?_of_handle hok']
    · rw [find?_step_of_quiet hs hclears, find?_step_of_quiet ht hclears, h.handler]
      · rintro handler rfl mux hok
        have hsame := h.handle handler
        cases hhandled : s.mux.handle name handler with
        | ok mux => exact hhandle ⟨handler, mux, rfl, hhandled⟩
        | error e => simp [hok, hhandled, Except.map] at hsame
      · rintro handler rfl mux hok
        exact hhandle ⟨handler, mux, rfl, hok⟩

lemma Alike.step (h : Alike name s t) (hs : Orderly s) (ht : Orderly t) (event : RegistryEvent) :
    Alike name (s.step event) (t.step event) := by
  refine ⟨by rw [closed_step, closed_step, h.closed], h.find?_step hs ht event, ?_⟩
  cases event with
  | handle other handler => rw [calls_step_handle, calls_step_handle, h.calls]
  | remove other => exact h.calls
  | close e => exact h.calls
  | invoke other payload =>
    simp only [MethodTable.step, List.map_append, List.map_cons, List.map_nil, h.calls]
    by_cases hother : other = name
    · rw [hother, h.handler]
    · simp [MethodCall.ofMethod?, hother]
  | answer i =>
    have hmodify (calls : List MethodCall) :
        (calls.modify i MethodCall.answer).map (·.ofMethod? name) =
          (calls.map (·.ofMethod? name)).modify i (Option.map MethodCall.answer) := by
      refine List.ext_getElem? fun j => ?_
      by_cases hj : i = j
      · simp [hj, MethodCall.ofMethod?_answer, Function.comp_def]
      · simp [hj]
    simp only [MethodTable.step, hmodify, h.calls]

/-- What is put in or taken out under another name makes no difference. -/
lemma alike_step_of_elsewhere (h : Orderly s) (helse : event.elsewhere name = true) :
    Alike name (s.step event) s := by
  refine ⟨?_, ?_, ?_⟩
  · cases event <;> simp [elsewhere] at helse <;> simp [closed_step, Closes.error?]
  · cases event with
    | handle other handler =>
      refine find?_step_of_quiet h rfl ?_
      rintro later heq
      cases heq
      simp [elsewhere] at helse
    | remove other =>
      refine find?_step_of_quiet h (by simpa [elsewhere, clears] using helse) ?_
      rintro later heq
      cases heq
    | close e => cases helse
    | invoke other payload => rfl
    | answer i => rfl
  · cases event with
    | handle other handler => rw [calls_step_handle]
    | remove other => rfl
    | close e => rfl
    | invoke other payload => cases helse
    | answer i => cases helse

lemma alike_run (events : List RegistryEvent) (name : String) :
    Alike name (run (events.filter (!·.elsewhere name))) (run events) := by
  induction events using List.reverseRecOn with
  | nil => exact ⟨rfl, rfl, rfl⟩
  | append_singleton events event ih =>
    rw [List.filter_append, run_append]
    cases helse : event.elsewhere name with
    | true =>
      have hquiet := alike_step_of_elsewhere (orderly_run events) helse
      simp only [helse, List.filter_cons, List.filter_nil, Bool.not_true, Bool.false_eq_true,
        if_false, List.append_nil]
      exact ⟨ih.closed.trans hquiet.closed.symm, ih.handler.trans hquiet.handler.symm,
        ih.calls.trans hquiet.calls.symm⟩
    | false =>
      simp only [helse, List.filter_cons, List.filter_nil, Bool.not_false, if_true, run_append]
      exact ih.step (orderly_run _) (orderly_run _) event

end Independence

lemma Stands.firstClose?_eq_none (h : Stands events name handler) : firstClose? events = none := by
  cases hclose : firstClose? events with
  | none => rfl
  | some e =>
    have hclosed : (run events).mux.closed ≠ none := by simp [closed_run, hclose]
    have hfind := h.find?
    simp [(orderly_run events).emptied hclosed] at hfind

lemma not_stands_of_removed (hafter : ∀ later, .handle name later ∉ after) (handler : Handler) :
    ¬ Stands (before ++ .remove name :: after) name handler := by
  rw [← find?_run]
  have hnone : (run (before ++ .remove name :: after)).mux.dispatch.find? name = none := by
    induction after using List.reverseRecOn with
    | nil =>
      rw [run_append]
      exact find?_step_of_clears (orderly_run before) (by simp [clears])
    | append_singleton after event ih =>
      rw [← List.cons_append, ← List.append_assoc, run_append]
      cases hclears : event.clears name with
      | true => exact find?_step_of_clears (orderly_run _) hclears
      | false =>
        rw [find?_step_of_quiet (orderly_run _) hclears,
          ih fun later hlater => hafter later (List.mem_append_left _ hlater)]
        rintro later rfl
        exact absurd (List.mem_append_right _ (List.mem_singleton.2 rfl)) (hafter later)
  simp [hnone]

/-- Whatever has happened to a registry, a call runs the handler of the latest registration that
stood when it looked, once it goes on, and nothing else; a registration goes through exactly when
nothing stands under its name and nothing has been closed; and what happens under one name makes no
difference to another. -/
theorem calls_follow_registrations (events : List RegistryEvent) :
    (∀ before name payload after, events = before ++ .invoke name payload :: after →
      let i := before.countP isInvoke
      ∃ call, (run events).calls[i]? = some call ∧ call.method = name ∧ call.payload = payload ∧
        (.answer i ∉ after → call.ran = [] ∧ call.reply = none) ∧
        (.answer i ∈ after →
          let reply := (run before).mux.dispatch.invoke name payload
          call.reply = some reply ∧ Answered before name payload call.ran reply)) ∧
    (∀ name handler,
      (∀ e, firstClose? events = some e → (run events).mux.handle name handler = .error e) ∧
      (∀ standing, Stands events name standing →
        (run events).mux.handle name handler = .error (.duplicateMethod name) ∧
        Stands (events ++ [.handle name handler]) name standing) ∧
      (firstClose? events = none → (∀ standing, ¬ Stands events name standing) →
        Succeeds events name handler ∧ Stands (events ++ [.handle name handler]) name handler) ∧
      (∀ before after, events = before ++ .remove name :: after →
        (∀ later, .handle name later ∉ after) → firstClose? events = none →
        Succeeds events name handler ∧ Stands (events ++ [.handle name handler]) name handler)) ∧
    ∀ name,
      let kept := events.filter (!·.elsewhere name)
      (∀ handler, Stands kept name handler ↔ Stands events name handler) ∧
      (∀ handler, ((run kept).mux.handle name handler).map (fun _ => ()) =
        ((run events).mux.handle name handler).map fun _ => ()) ∧
      ∀ (i : Nat) (call : MethodCall), call.method = name →
        ((run kept).calls[i]? = some call ↔ (run events).calls[i]? = some call) := by
  have hvacant {name : String} {handler : Handler} (hopen : firstClose? events = none)
      (hnone : ∀ standing, ¬ Stands events name standing) :
      Succeeds events name handler ∧ Stands (events ++ [.handle name handler]) name handler := by
    have hsucceeds : Succeeds events name handler :=
      ⟨_, handle_of_vacant (by rw [closed_run, hopen]) (find?_run_eq_none.2 hnone) handler⟩
    exact ⟨hsucceeds, stands_of_succeeds hsucceeds⟩
  refine ⟨?_, fun name handler => ⟨?_, ?_, hvacant, ?_⟩, fun name => ⟨?_, ?_, ?_⟩⟩
  · rintro before name payload after rfl i
    let call : MethodCall := ⟨name, payload, (run before).mux.dispatch.find? name, [], none⟩
    obtain ⟨hnot, hcall⟩ | ⟨hmem, hcall⟩ := call_run before after name payload
    · exact ⟨call, hcall, rfl, rfl, fun _ => ⟨rfl, rfl⟩, fun hmem => absurd hmem hnot⟩
    · refine ⟨call.answer, hcall, rfl, rfl, fun hnot => absurd hmem hnot, fun _ => ⟨?_, ?_⟩⟩
      · exact congrArg some (invoke_seen call rfl)
      · exact answered_due before call rfl
  · exact fun e he => handle_of_closed (by rw [closed_run, he]) name handler
  · intro standing hstands
    exact ⟨handle_of_taken (by rw [closed_run, hstands.firstClose?_eq_none]) hstands.find? handler,
      hstands.append rfl⟩
  · rintro before after rfl hafter hopen
    exact hvacant hopen (not_stands_of_removed hafter)
  · intro handler
    rw [← find?_run, ← find?_run, (alike_run events name).handler]
  · exact (alike_run events name).handle
  · intro i call hmethod
    exact ⟨(alike_run events name).call hmethod, (alike_run events name).symm.call hmethod⟩

/-- A second registration fails, and the call that looked before the removal is answered by the
first handler after it. -/
theorem calls_follow_registrations_of_duplicate :
    let echo : Handler := .ok
    let before : List RegistryEvent :=
      [.handle "echo" echo, .handle "echo" fun _ => .error .closed]
    let events := before ++ [.invoke "echo" [], .remove "echo", .answer 0]
    (∃ call, (run events).calls[0]? = some call ∧ call.ran = [(echo, [])] ∧
      call.reply = some ⟨200, (Value.mapping []).toJson⟩) ∧
    Succeeds events "echo" echo := by
  intro echo before events
  have hstands : Stands before "echo" echo := find?_run.1 rfl
  obtain ⟨hcalls, hhandles, -⟩ := calls_follow_registrations events
  obtain ⟨call, hcall, -, -, -, hanswer⟩ := hcalls before "echo" [] _ rfl
  obtain ⟨hreply, hanswered⟩ := hanswer (by simp [before, isInvoke])
  have hdecoded : Registry.decodeRequest [] = .ok [] := rfl
  obtain ⟨hran, houtcome⟩ := hanswered.of_stands hstands hdecoded
  obtain ⟨-, -, -, hremoved⟩ := hhandles "echo" echo
  exact ⟨⟨call, hcall, hran, hreply.trans (congrArg some houtcome)⟩,
    (hremoved (before ++ [.invoke "echo" []]) [.answer 0] rfl (by simp) rfl).1⟩

end MethodTable
end DeviceHub
