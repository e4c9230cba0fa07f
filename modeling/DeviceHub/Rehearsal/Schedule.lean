import DeviceHub.Lifecycle

/-!
Calls that run side by side, in one fixed order of moves.  What a call can do next by itself is a
move; moves are made until none is left.  Time passes only when told to, from one deadline to the
next.
-/
namespace DeviceHub.Rehearsal

class Stage (σ : Type) where
  /-- A move of the call of a number, if it can make one by itself. -/
  move? : σ → Nat → Option σ
  size : σ → Nat
  drop : σ → Nat → σ
  fire : σ → Token → σ
  /-- In milliseconds. -/
  clock : σ → Nat := fun _ => 0
  setClock : σ → Nat → σ := fun s _ => s
  deadline? : σ → Option Nat := fun _ => none

variable {σ : Type} [Stage σ]

def move? (s : σ) : Option σ :=
  (List.range (Stage.size s)).findSome? (Stage.move? s)

/-- Makes so many moves at most. -/
def settle : Nat → σ → σ
  | 0, s => s
  | moves + 1, s =>
    match move? s with
    | none => s
    | some s => settle moves s

/-- Stops at so many deadlines at most. -/
def advanceTo (moves : Nat) (target : Nat) : Nat → σ → σ
  | 0, s => s
  | stops + 1, s =>
    match (Stage.deadline? s).filter (· ≤ target) with
    | none => settle moves (Stage.setClock s target)
    | some deadline =>
      advanceTo moves target stops
        (settle moves (Stage.setClock s (Nat.max deadline (Stage.clock s))))

def advance (moves : Nat) (ms : Nat) (s : σ) : σ :=
  advanceTo moves (Stage.clock s + ms) moves s

/-- A gate is a token that opens it by firing, or there is none. -/
def isOpen (fired : List Token) : Option Token → Bool
  | none => true
  | some gate => fired.contains gate

end DeviceHub.Rehearsal
