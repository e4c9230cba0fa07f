import DeviceHub.Proofs.JsonRoundTrip
import DeviceHub.Proofs.MethodCalls

/-!
What `invoke` of `Registry` answers.  The payload decides whether the handler is run at all; it is
run once then, whatever else it does besides answering.  The body of every answer is read back: as
what the handler gave, or as the text of the error.
-/
namespace DeviceHub

lemma Value.Plain.single {v : Value} {depth : Nat} (h : v.Plain depth) (key : String) :
    (Value.mapping [(key, v)]).Plain (depth + 1) := by
  have hsorted : KeyMap.Sorted [(key, v)] := KeyMap.sorted_cons.2 ⟨by simp, KeyMap.sorted_nil⟩
  refine Value.plain_mapping.2 ⟨hsorted, fun field hfield => ?_⟩
  rw [List.mem_singleton.1 hfield]
  exact h

/-- A handler that may do more than answer, in a monad of its own. -/
abbrev ActiveHandler (m : Type → Type) := Mapping → m (HubResult Mapping)

namespace Registry

variable {m : Type → Type} [Monad m] {r : KeyMap (ActiveHandler m)} {method : String}
  {payload : Bytes} {handler : ActiveHandler m} {request : Mapping}

/-- Answers a call with handlers that may do more than answer. -/
def invokeWith (method : String) (payload : Bytes) (r : KeyMap (ActiveHandler m)) : m MethodReply :=
  match r.find? method with
  | none => pure .notFound
  | some handler =>
    match decodeRequest payload with
    | .error e => pure (.failure 400 e.message)
    | .ok request => do
      match ← handler request with
      | .ok response => return ⟨200, (Value.mapping response).toJson⟩
      | .error e => return .failure 500 e.message

lemma invokeWith_id (method : String) (payload : Bytes) (r : Registry) :
    Id.run (invokeWith method payload r) = r.invoke method payload := by
  unfold invokeWith invoke
  cases r.find? method with
  | none => rfl
  | some handler => cases decodeRequest payload <;> rfl

/-- The request that a payload makes: blanks and null make one without fields, an object the one
with its fields. -/
inductive Asks (payload : Bytes) : Mapping → Prop
  | blank (blank : ∀ b ∈ payload, isAsciiBlank b = true) : Asks payload []
  | null (written : ∃ b ∈ payload, isAsciiBlank b = false)
      (read : Value.ofJson payload = .ok .null) : Asks payload []
  | object {fields : Mapping} (written : ∃ b ∈ payload, isAsciiBlank b = false)
      (read : Value.ofJson payload = .ok (.mapping fields)) : Asks payload fields

lemma decodeRequest_of_written (written : ∃ b ∈ payload, isAsciiBlank b = false) :
    decodeRequest payload = (Value.ofJson payload).bind fun
      | .null => .ok []
      | other => other.asMapping := by
  have hnot : ¬payload.all isAsciiBlank = true := by simpa using written
  unfold decodeRequest
  exact if_neg hnot

lemma decodeRequest_eq_ok_iff : decodeRequest payload = .ok request ↔ Asks payload request := by
  by_cases hblank : ∀ b ∈ payload, isAsciiBlank b = true
  · have hdecode : decodeRequest payload = .ok [] := by
      rw [decodeRequest, if_pos (List.all_eq_true.2 hblank)]
    have hnot : ¬∃ b ∈ payload, isAsciiBlank b = false := by
      rintro ⟨b, hb, hfalse⟩
      rw [hblank b hb] at hfalse
      cases hfalse
    rw [hdecode]
    constructor
    · rintro ⟨⟩
      exact .blank hblank
    · intro h
      cases h with
      | blank => rfl
      | null written => exact absurd written hnot
      | object written => exact absurd written hnot
  · have hwritten : ∃ b ∈ payload, isAsciiBlank b = false := by simpa using hblank
    rw [decodeRequest_of_written hwritten]
    constructor
    · intro h
      cases hread : Value.ofJson payload with
      | error e =>
        rw [hread] at h
        cases h
      | ok v =>
        rw [hread] at h
        cases v <;> cases h
        · exact .null hwritten hread
        · exact .object hwritten hread
    · intro h
      cases h with
      | blank blank => exact absurd blank hblank
      | null _ read => rw [read]; rfl
      | object _ read => rw [read]; rfl

lemma decodeRequest_eq_error (h : ∀ request, ¬Asks payload request) :
    ∃ e, decodeRequest payload = .error e := by
  cases hdecode : decodeRequest payload with
  | error e => exact ⟨e, rfl⟩
  | ok request => exact absurd (decodeRequest_eq_ok_iff.1 hdecode) (h request)

end Registry

namespace MethodReply

lemma ofJson_failure (status : Int) (reason : String) :
    Value.ofJson (failure status reason).body = .ok (.mapping [("error", .string reason)]) := by
  have hstring : (Value.string reason).Plain 126 := ⟨trivial, rfl, Nat.zero_le _⟩
  have hplain : (Value.mapping [("error", .string reason)]).Plain 127 := hstring.single "error"
  simp only [failure]
  exact hplain.ofJson_toJson

end MethodReply

namespace Registry

variable {m : Type → Type} [Monad m]

/-- A call of a method that nobody handles is answered 404.  Where somebody does, it is answered 400
if its payload makes no request; otherwise the handler is run on the request, once and whatever it
does, and what it comes to is the answer, 200 with the mapping it gives or 500 with its error.  The
body is read back as that mapping, or as an object with the text of the error. -/
theorem invokeWith_replies (method : String) (payload : Bytes) (r : KeyMap (ActiveHandler m)) :
    (r.find? method = none →
      invokeWith method payload r = pure (.failure 404 "method not found")) ∧
    (∀ handler, r.find? method = some handler →
      ((∀ request, ¬Asks payload request) → ∃ e, decodeRequest payload = .error e ∧
        invokeWith method payload r = pure (.failure 400 e.message)) ∧
      ∀ request, Asks payload request →
        invokeWith method payload r = do return .ofOutcome (← handler request)) ∧
    (∀ e, MethodReply.ofOutcome (.error e) = .failure 500 e.message) ∧
    (∀ status reason, (MethodReply.failure status reason).status = status ∧
      Value.ofJson (MethodReply.failure status reason).body =
        .ok (.mapping [("error", .string reason)])) ∧
    (∀ response, (MethodReply.ofOutcome (.ok response)).status = 200 ∧
      ((Value.mapping response).Plain 127 →
        Value.ofJson (MethodReply.ofOutcome (.ok response)).body = .ok (.mapping response))) ∧
    ∀ handlers : Registry,
      handlers.invoke method payload = Id.run (invokeWith method payload handlers) := by
  refine ⟨fun hnone => ?_, fun handler hsome => ⟨fun hasks => ?_, fun request hasks => ?_⟩,
    fun e => rfl, fun status reason => ⟨rfl, MethodReply.ofJson_failure status reason⟩,
    fun response => ⟨rfl, fun hplain => hplain.ofJson_toJson⟩,
    fun handlers => (invokeWith_id method payload handlers).symm⟩
  · simp only [invokeWith, hnone]
    rfl
  · obtain ⟨e, he⟩ := decodeRequest_eq_error hasks
    exact ⟨e, he, by simp only [invokeWith, hsome, he]⟩
  · simp only [invokeWith, hsome, decodeRequest_eq_ok_iff.2 hasks]
    congr 1
    funext outcome
    cases outcome <;> rfl

/-- A handler that counts its runs and gives the request back. -/
def counted : ActiveHandler (StateM Nat) := fun request => do
  modify (· + 1)
  return .ok request

theorem invokeWith_replies_of_counted :
    (invokeWith "reset" [0x7B, 0x22, 0x61, 0x22, 0x3A, 0x31, 0x7D] [("reset", counted)]).run 0 =
      (.ofOutcome (.ok [("a", .int 1)]), 1) ∧
    (invokeWith "stop" [] [("reset", counted)]).run 0 = (.failure 404 "method not found", 0) := by
  have hint : (Value.int 1).Plain 126 := ⟨trivial, rfl, Nat.zero_le _⟩
  have hplain : (Value.mapping [("a", .int 1)]).Plain 127 := hint.single "a"
  have hwrite : (Value.mapping [("a", .int 1)]).toJson =
      [0x7B, 0x22, 0x61, 0x22, 0x3A, 0x31, 0x7D] := by decide
  have hasks : Asks [0x7B, 0x22, 0x61, 0x22, 0x3A, 0x31, 0x7D] [("a", .int 1)] :=
    .object (by decide) (hwrite ▸ hplain.ofJson_toJson)
  constructor
  · have hrun := ((invokeWith_replies "reset" [0x7B, 0x22, 0x61, 0x22, 0x3A, 0x31, 0x7D]
      [("reset", counted)]).2.1 counted rfl).2 [("a", .int 1)] hasks
    rw [hrun]
    rfl
  · rw [(invokeWith_replies "stop" [] [("reset", counted)]).1 rfl]
    rfl

end Registry
end DeviceHub
