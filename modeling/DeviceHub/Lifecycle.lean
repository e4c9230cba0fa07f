import DeviceHub.Error

/-!
`Lifecycle`, the states of a client: unready, then ready at most once, then closed for good.  A
transition happens under a lock, which is handed on in the order of asking; `wait_ready` learns of
the state without the lock.
-/
namespace DeviceHub

inductive ConnectionState where
  | unready
  | ready
  | closed
  deriving DecidableEq, Inhabited

namespace ConnectionState

def name : ConnectionState → String
  | unready => "Unready"
  | ready => "Ready"
  | closed => "Closed"

/-- What `wait_ready` gives; `none` while the state is undecided. -/
def readiness? : ConnectionState → Option (HubResult Unit)
  | unready => none
  | ready => some (.ok ())
  | closed => some (.error .closed)

end ConnectionState

/-- The transition lock and those who want it, by number, the next one first. -/
structure Lock where
  holder : Option Nat := none
  waiting : List Nat := []
  deriving DecidableEq, Inhabited

namespace Lock

def ask (id : Nat) (l : Lock) : Lock :=
  match l.holder with
  | none => { l with holder := some id }
  | some _ => { l with waiting := l.waiting ++ [id] }

/-- Hands the lock to the next one, or stops waiting for it. -/
def leave (id : Nat) (l : Lock) : Lock :=
  if l.holder = some id then ⟨l.waiting.head?, l.waiting.tail⟩
  else { l with waiting := l.waiting.erase id }

end Lock

/-- A cancellation token; once fired it stays so. -/
abbrev Token := String

end DeviceHub
