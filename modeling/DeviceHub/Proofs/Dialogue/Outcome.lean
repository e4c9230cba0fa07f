import DeviceHub.Proofs.Dialogue

/-!
How `exchange` ends.  It has closed what it opened; it succeeds with an accepted response that
passes `check_correlation` and `check_response`, and a response that does not is never accepted but
tells the error.
-/
namespace DeviceHub.EventHub

def ExchangePhase.decided? : ExchangePhase → Option (HubResult Message)
  | .closingSender _ _ outcome | .closingReceiver _ outcome | .returned outcome => some outcome
  | _ => none

namespace Exchange

variable {x x' : Exchange} {m : Message}

lemma request?_eq_accept_iff {link : Nat} :
    x.request? = some (.accept link m) ↔ ∃ sender, x.phase = .accepting link sender m := by
  unfold request?
  cases x.phase <;> simp

lemma request?_eq_receive_iff {link : Nat} :
    x.request? = some (.receive link) ↔ ∃ sender, x.phase = .receiving link sender := by
  unfold request?
  cases x.phase <;> simp

/-- An exchange that goes away has returned before, or is dropped. -/
lemma drop_cases (x : Exchange) :
    x.drop = x ∨
      (∀ outcome, x.phase ≠ .returned outcome) ∧ x.drop = { x with phase := .dropped } := by
  unfold drop
  cases hx : x.phase <;> simp

/-- Before it closes its links an exchange has decided on nothing. -/
lemma IsBusy.decided? {receiver sender : Nat} (h : x.IsBusy receiver sender) :
    x.phase.decided? = none := by
  obtain h | h | ⟨m, h⟩ := h <;> rw [h] <;> rfl

lemma Answered.decided? {o : HubResult PeerAnswer} {phase : ExchangePhase}
    {outcome : HubResult Message} (h : x.Answered o phase)
    (hx : x.phase.decided? = some outcome) : phase.decided? = some outcome := by
  cases h with
  | closeSender hphase | closeReceiver hphase =>
    rw [hphase] at hx
    exact hx
  | fail busy => rw [busy.decided?] at hx; cases hx
  | _ => simp_all [ExchangePhase.decided?]

/-- A token is noticed only before a decision, which it then makes. -/
lemma Cancelled.decided? {phase : ExchangePhase} (h : x.Cancelled phase) :
    x.phase.decided? = none ∧ phase.decided? = some (.error .cancelled) := by
  cases h with
  | early hphase | half hphase => rw [hphase]; exact ⟨rfl, rfl⟩
  | busy busy => exact ⟨busy.decided?, rfl⟩

end Exchange

namespace Dialogue

variable {s t : Dialogue} {request : Message}

structure Sound (request : Message) (s : Dialogue) : Prop where
  asks : s.exchange.request = request
  balanced : s.exchange.phase = .dropped ∨ links.Accounts s.deeds [] s.exchange.heldLinks
  checked {link : Nat} {m : Message} : s.AsksToAccept link m → s.exchange.check m = .ok ()
  received {receiver sender : Nat} {m : Message} :
    s.exchange.phase = .accepting receiver sender m → s.Received receiver m
  judged {link : Nat} {m : Message} {e : HubError} :
    s.Received link m → s.exchange.check m = .error e →
      s.exchange.phase = .dropped ∨ s.exchange.phase.decided? = some (.error e)
  accepted {m : Message} : s.exchange.phase.decided? = some (.ok m) →
    ∃ link, s.Received link m ∧ s.Accepted link m
  refused : request.messageId = none → s.turns = [] ∧
    s.exchange.phase = .returned (.error (.invalidInput "request has no message id"))

namespace Sound

lemma answer {r : PeerRequest} {outcome : HubResult PeerAnswer} {x : Exchange}
    (h : s.Sound request) (asked : s.exchange.request? = some r)
    (answered : s.exchange.answer? outcome = some x) :
    Sound request { s with exchange := x, turns := s.turns ++ [(r, outcome)] } := by
  have haccounts := Exchange.answer?_accounts asked answered
  obtain ⟨phase, hphase, rfl⟩ := Exchange.answered_of_answer? answered
  have hundropped : s.exchange.phase ≠ .dropped := by
    intro hx
    simp [Exchange.request?, hx] at asked
  constructor
  · exact h.asks
  · have hheld := h.balanced.resolve_left hundropped
    right
    simpa [deeds] using hheld.append haccounts
  · rintro link m (hasks | ⟨outcome', hturn⟩)
    · obtain ⟨sender, hx⟩ := Exchange.request?_eq_accept_iff.1 hasks
      cases hphase <;> cases hx
      assumption
    · obtain hturn | hturn := List.mem_append.1 hturn
      · exact h.checked (.inr ⟨outcome', hturn⟩)
      · cases List.mem_singleton.1 hturn
        exact h.checked (.inl asked)
  · intro receiver sender m hx
    cases hphase <;> cases hx
    next hx _ =>
      have hr : s.exchange.request? = some (.receive receiver) :=
        Exchange.request?_eq_receive_iff.2 ⟨sender, hx⟩
      cases asked.symm.trans hr
      exact List.mem_append_right _ List.mem_cons_self
  · intro link m e hreceived hcheck
    right
    obtain hturn | hturn := List.mem_append.1 hreceived
    · have hdecided := (h.judged hturn hcheck).resolve_left hundropped
      exact hphase.decided? hdecided
    · cases List.mem_singleton.1 hturn
      obtain ⟨sender, hx⟩ := Exchange.request?_eq_receive_iff.1 asked
      cases hphase with
      | pass _ passes => cases hcheck.symm.trans passes
      | refuse _ refused =>
        cases hcheck.symm.trans refused
        rfl
      | closeSender hx' | closeReceiver hx' => cases hx.symm.trans hx'
  · intro m hdecided
    cases hphase with
    | accept hx =>
      cases hdecided
      have hr := Exchange.request?_eq_accept_iff.2 ⟨_, hx⟩
      cases asked.symm.trans hr
      exact ⟨_, List.mem_append_left _ (h.received hx), List.mem_append_right _ List.mem_cons_self⟩
    | closeSender hx | closeReceiver hx =>
      cases hdecided
      obtain ⟨link, hreceived, haccepted⟩ := h.accepted (by rw [hx]; rfl)
      exact ⟨link, List.mem_append_left _ hreceived, List.mem_append_left _ haccepted⟩
    | _ => cases hdecided
  · intro hnone
    obtain ⟨-, hx⟩ := h.refused hnone
    simp [Exchange.request?, hx] at asked

lemma cancel {x : Exchange} (h : s.Sound request)
    (cancelled : s.exchange.cancel? s.fired = some x) :
    Sound request { s with exchange := x } := by
  have haccounts := Exchange.cancel?_accounts cancelled
  obtain ⟨-, phase, hphase, rfl⟩ := Exchange.cancelled_of_cancel? cancelled
  obtain ⟨hundecided, hdecided⟩ := hphase.decided?
  have hundropped : s.exchange.phase ≠ .dropped := by
    intro hx
    cases hphase with
    | early hx' | half hx' => cases hx.symm.trans hx'
    | busy busy => obtain hx' | hx' | ⟨m, hx'⟩ := busy <;> cases hx.symm.trans hx'
  constructor
  · exact h.asks
  · have hheld := h.balanced.resolve_left hundropped
    right
    simpa [deeds] using hheld.append haccounts
  · rintro link m (hasks | hturn)
    · obtain ⟨sender, hx⟩ := Exchange.request?_eq_accept_iff.1 hasks
      cases hphase <;> cases hx
    · exact h.checked (.inr hturn)
  · intro receiver sender m hx
    cases hphase <;> cases hx
  · intro link m e hreceived hcheck
    have hold := (h.judged hreceived hcheck).resolve_left hundropped
    cases hundecided.symm.trans hold
  · intro m hok
    cases hdecided.symm.trans hok
  · intro hnone
    rw [(h.refused hnone).2] at hundecided
    cases hundecided

lemma drop (h : s.Sound request) : Sound request { s with exchange := s.exchange.drop } := by
  obtain hdrop | ⟨hunreturned, hdrop⟩ := s.exchange.drop_cases
  · rwa [hdrop]
  · rw [hdrop]
    constructor
    · exact h.asks
    · exact .inl rfl
    · rintro link m (hasks | hturn)
      · cases hasks
      · exact h.checked (.inr hturn)
    · nofun
    · exact fun _ _ => .inl rfl
    · nofun
    · intro hnone
      exact absurd (h.refused hnone).2 (hunreturned _)

theorem move (h : s.Sound request) (m : s.Move t) : t.Sound request := by
  cases m with
  | idle => exact h
  | fire token =>
    exact ⟨h.asks, h.balanced, h.checked, h.received, h.judged, h.accepted, h.refused⟩
  | answer asked answered => exact h.answer asked answered
  | cancel cancelled => exact h.cancel cancelled
  | drop => exact h.drop

lemma start (receiver sender : LinkOptions) (request : Message) (token : Token) :
    (start receiver sender request token).Sound request := by
  unfold Dialogue.start Exchange.start
  cases hid : request.messageId with
  | none =>
    exact ⟨rfl, .inr fun _ => rfl, by simp [AsksToAccept, Exchange.request?], by nofun,
      by simp [Received], by nofun, fun _ => ⟨rfl, rfl⟩⟩
  | some id =>
    exact ⟨rfl, .inr fun _ => rfl, by simp [AsksToAccept, Exchange.request?], by nofun,
      by simp [Received], by nofun, by simp [hid]⟩

/-- What is accepted names the request and reports success. -/
lemma passes {link : Nat} {m : Message} (h : s.Sound request) (hasks : s.AsksToAccept link m) :
    ∃ id, request.messageId = some id ∧ m.correlationId = some id ∧ m.statusNumber? = some 200 := by
  have hcheck := h.checked hasks
  cases hid : request.messageId with
  | none =>
    obtain ⟨hturns, hphase⟩ := h.refused hid
    obtain hasks | ⟨outcome, hturn⟩ := hasks
    · simp [Exchange.request?, hphase] at hasks
    · simp [hturns] at hturn
  | some id =>
    have hrequest : s.exchange.request.messageId = some id := by rw [h.asks, hid]
    by_cases hc : m.correlationId = some id
    · rw [Exchange.check_of_correlated hrequest hc, Message.checkStatus_eq_ok_iff] at hcheck
      exact ⟨id, rfl, hc, hcheck⟩
    · rw [Exchange.check_of_correlation hrequest hc] at hcheck
      cases hcheck

/-- A response that fails tells the outcome. -/
lemma outcome_of_received {link : Nat} {m : Message} {e : HubError} {outcome : HubResult Message}
    (h : s.Sound request) (hreceived : s.Received link m) (hcheck : s.exchange.check m = .error e)
    (ho : s.exchange.outcome? = some outcome) : outcome = .error e := by
  have hphase := Exchange.phase_eq_of_outcome? ho
  obtain hdropped | hdecided := h.judged hreceived hcheck
  · cases hphase.symm.trans hdropped
  · rw [hphase] at hdecided
    exact Option.some.inj hdecided

end Sound

/-- However the broker answers and whenever the token fires: an exchange that returns has closed the
links it opened, each once.  It succeeds only with an accepted response that names the request and
has the status of success; any other response is never accepted, but tells the error: a mismatch
when it does not name the request, else its status and description if the status has 32 bits.  A
request without an id asks for nothing. -/
theorem returned_exchange (receiver sender : LinkOptions) (request : Message) (token : Token)
    (events : List ExchangeEvent) :
    let s := (start receiver sender request token).run events
    (∀ outcome, s.exchange.outcome? = some outcome →
      (openedLinks s.deeds).Perm (closedLinks s.deeds)) ∧
    (∀ m, s.exchange.outcome? = some (.ok m) →
      ∃ id link, request.messageId = some id ∧ m.correlationId = some id ∧
        m.statusNumber? = some 200 ∧ s.Received link m ∧ s.Accepted link m) ∧
    (∀ link m, s.AsksToAccept link m →
      m.correlationId = request.messageId ∧ m.statusNumber? = some 200) ∧
    (∀ link m outcome id, s.Received link m → s.exchange.outcome? = some outcome →
      request.messageId = some id →
      (m.correlationId ≠ some id → outcome = .error (.correlationMismatch id m.correlationId)) ∧
      (m.correlationId = some id →
        (∀ code, m.statusNumber? = some code → IsInt32 code → code ≠ 200 →
          outcome = .error (.status code m.statusDescription)) ∧
        ((∀ code, m.statusNumber? = some code → ¬ IsInt32 code) →
          ∃ reason, outcome = .error (.decode reason)))) ∧
    (request.messageId = none → s.turns = [] ∧
      s.exchange.outcome? = some (.error (.invalidInput "request has no message id"))) := by
  intro s
  have h : s.Sound request :=
    run_induction (fun h m => h.move m) events (.start receiver sender request token)
  refine ⟨fun outcome ho => ?_, fun m ho => ?_, fun link m hasks => ?_,
    fun link m outcome id hreceived ho hid => ?_, fun hnone => ?_⟩
  · have hphase := Exchange.phase_eq_of_outcome? ho
    obtain hdropped | hbalanced := h.balanced
    · cases hphase.symm.trans hdropped
    · rw [Exchange.heldLinks_of_outcome? ho] at hbalanced
      have hperm := hbalanced.perm
      rwa [List.append_nil] at hperm
  · have hphase := Exchange.phase_eq_of_outcome? ho
    obtain ⟨link, hreceived, haccepted⟩ := h.accepted (by rw [hphase]; rfl)
    obtain ⟨id, hid, hc, hstatus⟩ := h.passes (.inr ⟨_, haccepted⟩)
    exact ⟨id, link, hid, hc, hstatus, hreceived, haccepted⟩
  · obtain ⟨id, hid, hc, hstatus⟩ := h.passes hasks
    exact ⟨hc.trans hid.symm, hstatus⟩
  · have hrequest : s.exchange.request.messageId = some id := by rw [h.asks, hid]
    refine ⟨fun hc => ?_, fun hc => ⟨fun code hcode fits hne => ?_, fun hnone => ?_⟩⟩
    · exact h.outcome_of_received hreceived (Exchange.check_of_correlation hrequest hc) ho
    · have hcheck : s.exchange.check m = .error (.status code m.statusDescription) := by
        rw [Exchange.check_of_correlated hrequest hc,
          Message.checkStatus_of_statusNumber? hcode fits]
        exact if_neg hne
      exact h.outcome_of_received hreceived hcheck ho
    · obtain ⟨reason, hreason⟩ := Message.checkStatus_of_no_number hnone
      have hcheck := (Exchange.check_of_correlated hrequest hc).trans hreason
      exact ⟨reason, h.outcome_of_received hreceived hcheck ho⟩
  · obtain ⟨hturns, hphase⟩ := h.refused hnone
    exact ⟨hturns, by rw [Exchange.outcome?, hphase]⟩

/-- The response has another status, and closing the sender fails. -/
def answeredWith (code : Int64) : List ExchangeEvent :=
  [.answer (.ok (.opened 0)), .answer (.ok (.opened 1)), .answer (.ok .done),
    .answer (.ok (.received
      { correlationId := some "q"
        applicationProperties :=
          [("status-code", .int code), ("status-description", .string "gone")] })),
    .answer (.error .closed), .answer (.ok .done)]

def afterStatus (code : Int64) : Dialogue :=
  (start {} {} { messageId := some "q" } "t").run (answeredWith code)

theorem returned_exchange_of_not_found :
    (openedLinks (afterStatus 404).deeds).Perm (closedLinks (afterStatus 404).deeds) ∧
      (afterStatus 404).exchange.outcome? = some (.error (.status 404 "gone")) := by
  obtain ⟨hlinks, -, -, hjudged, -⟩ :=
    returned_exchange {} {} { messageId := some "q" } "t" (answeredWith 404)
  have ho : ∃ outcome, (afterStatus 404).exchange.outcome? = some outcome := ⟨_, rfl⟩
  obtain ⟨outcome, ho⟩ := ho
  have hreceived : (afterStatus 404).Received 0
      { correlationId := some "q"
        applicationProperties :=
          [("status-code", .int 404), ("status-description", .string "gone")] } :=
    List.mem_of_getElem? (i := 3) rfl
  refine ⟨hlinks outcome ho, ?_⟩
  obtain rfl := ((hjudged 0 _ outcome "q" hreceived ho rfl).2 rfl).1 404 rfl (by decide) (by decide)
  exact ho

/-- A number of more than 32 bits is a status, but not one that an exchange can report. -/
theorem wide_status_not_reported :
    ¬ ∀ (events : List ExchangeEvent) (m : Message) (outcome : HubResult Message) (code : Int),
      let s := (start {} {} { messageId := some "q" } "t").run events
      s.Received 0 m → s.exchange.outcome? = some outcome → m.correlationId = some "q" →
      m.statusNumber? = some code → code ≠ 200 →
      outcome = .error (.status code m.statusDescription) := by
  intro h
  have hreceived : (afterStatus 2147483648).Received 0
      { correlationId := some "q"
        applicationProperties :=
          [("status-code", .int 2147483648), ("status-description", .string "gone")] } :=
    List.mem_of_getElem? (i := 3) rfl
  have := h (answeredWith 2147483648) _ _ 2147483648 hreceived rfl rfl rfl (by decide)
  cases this

end Dialogue
end DeviceHub.EventHub
