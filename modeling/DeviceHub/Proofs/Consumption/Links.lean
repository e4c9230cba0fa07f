import DeviceHub.Proofs.Consumption.Ledger

/-!
The links of `subscribe_partitions`.  At every moment what was opened is what was closed together
with what is held: by the `exchange` for the partitions, or by a worker that has not finished.
-/
namespace DeviceHub.EventHub

def Deed.openedLink? : Deed → Option Nat
  | .opened link => some link
  | _ => none

def Deed.closedLink? : Deed → Option Nat
  | .closed link => some link
  | _ => none

def openedLinks (deeds : List Deed) : List Nat :=
  deeds.filterMap Deed.openedLink?

def closedLinks (deeds : List Deed) : List Nat :=
  deeds.filterMap Deed.closedLink?

/-- The links an exchange has to close. -/
def Exchange.heldLinks (x : Exchange) : List Nat :=
  match x.phase with
  | .openingReceiver | .returned _ | .dropped => []
  | .openingSender receiver | .closingReceiver receiver _ => [receiver]
  | .sending receiver sender | .receiving receiver sender => [receiver, sender]
  | .accepting receiver sender _ | .closingSender receiver sender _ => [receiver, sender]

/-- The links a consumer has to close itself. -/
def ConsumerPhase.heldLinks : ConsumerPhase → List Nat
  | .discovering x => x.heldLinks
  | _ => []

def Worker.heldLink? (w : Worker) : Option Nat :=
  match w.phase with
  | .finished => none
  | _ => some w.link

/-- Links that are open until they are closed. -/
def links : Ledger Nat where
  taken := Deed.openedLink?
  given := Deed.closedLink?
  heldOwn := ConsumerPhase.heldLinks
  heldByWorker := Worker.heldLink?

namespace Exchange

variable {fired : List Token} {x x' : Exchange}

lemma discoveries_accounts (x : Exchange) (held : List Nat) :
    links.Accounts x.discoveries held held := by
  intro p
  cases h : x.outcome? <;>
    simp [discoveries, links, Deed.openedLink?, Deed.closedLink?, List.filterMap_cons, h]

lemma answer?_accounts {r : PeerRequest} {outcome : HubResult PeerAnswer}
    (hr : x.request? = some r) (h : x.answer? outcome = some x') :
    links.Accounts (r.linkDeeds outcome) x.heldLinks x'.heldLinks := by
  obtain ⟨phase, hphase, rfl⟩ := Option.map_eq_some_iff.1 h
  intro p
  unfold request? at hr
  unfold next? at hphase
  cases hx : x.phase with
  | receiving receiver sender =>
    simp only [hx, Option.some.injEq] at hr hphase
    subst hr
    rcases outcome with e | _ | _ | m
    · cases hphase
      simp [PeerRequest.linkDeeds, heldLinks, hx]
    · cases hphase
    · cases hphase
    · cases hphase
      -- a response that is refused and one that is accepted leave the same links to close
      cases x.check m <;> simp [PeerRequest.linkDeeds, heldLinks, hx]
  | returned outcome => simp [hx] at hr
  | dropped => simp [hx] at hr
  | _ =>
    simp only [hx, Option.some.injEq] at hr hphase
    subst hr
    rcases outcome with e | _ | _ | m <;> cases hphase <;>
      simp [PeerRequest.linkDeeds, links, Deed.openedLink?, Deed.closedLink?, heldLinks, hx,
        List.countP_cons, Nat.add_comm]

lemma cancel?_accounts (h : x.cancel? fired = some x') :
    links.Accounts [] x.heldLinks x'.heldLinks := by
  intro p
  simp only [cancel?, Option.ite_none_right_eq_some, Option.map_eq_some_iff] at h
  obtain ⟨-, phase, hphase, rfl⟩ := h
  unfold cancelled? at hphase
  cases hx : x.phase <;> simp only [hx] at hphase <;> cases hphase <;> simp [heldLinks, hx]

lemma Move.accounts {deeds : List Deed} (h : x.Move fired deeds x') :
    links.Accounts deeds x.heldLinks x'.heldLinks := by
  cases h with
  | answer asked answered => exact answer?_accounts asked answered
  | cancel cancelled => exact cancel?_accounts cancelled

lemma heldLinks_of_outcome? {outcome : HubResult Message} (h : x.outcome? = some outcome) :
    x.heldLinks = [] := by
  unfold outcome? at h
  cases hx : x.phase <;> simp_all [heldLinks]

end Exchange

namespace Consumer

variable {fired : List Token} {c c' : Consumer} {deeds : List Deed}

lemma WorkerMove.accounts_links (h : c.WorkerMove fired deeds c') :
    links.Accounts deeds (links.held c) (links.held c') := by
  cases h with
  | fail split busy =>
    refine Ledger.accounts_of_split rfl split rfl fun p => ?_
    obtain hw | ⟨m, hw⟩ := busy <;>
      simp [links, Worker.heldLink?, Deed.openedLink?, Deed.closedLink?, List.filterMap_cons, hw]
  | receive split | accept split | enqueue split room | stop split stopped | discard split stopped
  | close split =>
    refine Ledger.accounts_of_split rfl split rfl fun p => ?_
    simp [links, Worker.heldLink?, Deed.openedLink?, Deed.closedLink?, List.filterMap_cons]

/-- What the consumer does with the outcome of its exchange opens and closes nothing. -/
lemma discovered_heldLinks (c : Consumer) (x : Exchange) :
    links.held (c.discovered x) = x.heldLinks ++ c.workers.filterMap Worker.heldLink? := by
  unfold discovered
  split
  next => rfl
  next outcome houtcome =>
    rw [Exchange.heldLinks_of_outcome? houtcome]
    split <;> rfl

lemma OwnMove.accounts_links (h : c.OwnMove fired deeds c') :
    links.Accounts deeds (links.held c) (links.held c') := by
  cases h with
  | @ask x exchanged x' phase move =>
    have := (move.accounts.append (x'.discoveries_accounts x'.heldLinks)).frame
      (c.workers.filterMap Worker.heldLink?)
    rw [discovered_heldLinks]
    simpa [Ledger.held, links, ConsumerPhase.heldLinks, phase] using this
  | @join id rest link phase =>
    intro p
    cases rest <;>
      simp [Ledger.held, links, ConsumerPhase.heldLinks, phase, Worker.heldLink?,
        Deed.openedLink?, Deed.closedLink?, List.filterMap_cons, List.countP_cons] <;> omega
  | refuse phase | giveUp phase cancelled | take phase reported | notice phase quiet cancelled
  | hand phase next | finish phase joined =>
    intro p
    simp [Ledger.held, links, ConsumerPhase.heldLinks, phase, Deed.openedLink?, Deed.closedLink?,
      List.filterMap_cons]

end Consumer

theorem links_lawful : links.Lawful where
  fire _ := ⟨rfl, rfl⟩
  worker move := move.accounts_links
  own move := move.accounts_links

end DeviceHub.EventHub
