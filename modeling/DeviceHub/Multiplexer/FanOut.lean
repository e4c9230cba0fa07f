import DeviceHub.Multiplexer

/-!
`FanOut`: every subscriber receives every item.  A subscriber goes by its id; its channel holds what
was published and not yet received, and after the items the error of the close.
-/
namespace DeviceHub

/-- The channel between a fan-out and a subscription. -/
structure Channel (α : Type) where
  /-- The fan-out still has the sending end. -/
  registered : Bool := true
  queue : List (HubResult α) := []
  /-- The terminal error, once it was received. -/
  ended : Option HubError := none
  /-- The handle of the subscription is not dropped. -/
  held : Bool := true

/-- The channels of all subscribers there ever were, by id. -/
structure FanOut (α : Type) where
  channels : List (Channel α) := []

namespace Channel

variable {α : Type}

/-- Without an error in the queue the end is that of `unsub`. -/
def receive? (c : Channel α) : Option (HubResult α × Channel α) :=
  match c.ended, c.queue with
  | some e, _ => some (.error e, c)
  | none, .ok a :: queue => some (.ok a, { c with queue })
  | none, .error e :: queue => some (.error e, { c with queue, ended := some e })
  | none, [] =>
    if c.registered then none else some (.error .closed, { c with ended := some .closed })

/-- A subscriber whose handle was dropped is forgotten. -/
def publish (a : α) (c : Channel α) : Channel α :=
  if !c.registered then c
  else if c.held then { c with queue := c.queue ++ [.ok a] }
  else { c with registered := false }

def close (e : HubError) (c : Channel α) : Channel α :=
  if c.registered then { c with registered := false, queue := c.queue ++ [.error e] } else c

def unregister (c : Channel α) : Channel α :=
  { c with registered := false }

def release (c : Channel α) : Channel α :=
  { c with held := false }

end Channel

namespace FanOut

variable {α : Type}

def subscriberCount (f : FanOut α) : Nat :=
  f.channels.countP Channel.registered

def modify (id : Nat) (change : Channel α → Channel α) (f : FanOut α) : FanOut α :=
  ⟨f.channels.modify id change⟩

def receive? (id : Nat) (f : FanOut α) : Option (HubResult α × FanOut α) :=
  (f.channels[id]?.bind Channel.receive?).map fun (item, c) => (item, ⟨f.channels.set id c⟩)

instance : Dispatch (FanOut α) where
  closeAll e f := ⟨f.channels.map (Channel.close e)⟩

end FanOut

namespace Multiplexer

variable {α : Type}

/-- One more subscriber and its id, as `sub` gives it. -/
def subscribe (m : Multiplexer (FanOut α)) : HubResult (Multiplexer (FanOut α) × Nat) :=
  match m.closed with
  | some e => .error e
  | none =>
    .ok ({ m with dispatch := ⟨m.dispatch.channels ++ [{}]⟩ }, m.dispatch.channels.length)

/-- An unknown id is ignored by `unsub`. -/
def unsubscribe (id : Nat) (m : Multiplexer (FanOut α)) : Multiplexer (FanOut α) :=
  { m with dispatch := m.dispatch.modify id Channel.unregister }

def publish (item : α) (m : Multiplexer (FanOut α)) : Multiplexer (FanOut α) :=
  { m with dispatch := ⟨m.dispatch.channels.map (Channel.publish item)⟩ }

def release (id : Nat) (m : Multiplexer (FanOut α)) : Multiplexer (FanOut α) :=
  { m with dispatch := m.dispatch.modify id Channel.release }

def receive? (id : Nat) (m : Multiplexer (FanOut α)) :
    Option (HubResult α × Multiplexer (FanOut α)) :=
  (m.dispatch.receive? id).map fun (item, dispatch) => (item, { m with dispatch })

end Multiplexer
end DeviceHub
