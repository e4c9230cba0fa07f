import DeviceHub.Rehearsal.Schedule

/-!
Programs: steps made one after the other on a stage.  An action is over at once, or it begins a
call.  A call is waited for until nothing moves any more, and then it is dropped; with a name it
goes on in the background, and its outcome is told after the step that it comes with.
-/
namespace DeviceHub.Rehearsal

/-- It gives its result at once, or it has begun a call. -/
abbrev Action (σ ρ : Type) := σ → σ × Option ρ

inductive Step (σ ρ : Type) where
  | fire (token : Token)
  | advance (ms : Nat)
  | abort (task : String)
  | act (action : Action σ ρ) (task : Option String)

inductive StepResult (ρ : Type) where
  | done
  | started
  /-- The call had not returned when nothing moved any more. -/
  | pending
  /-- There was no such task. -/
  | finished
  | returned (result : ρ)

structure Program (σ ρ : Type) where
  stage : σ
  outcome? : σ → Nat → Option ρ
  tasks : List (String × Nat) := []

namespace Program

variable {σ ρ : Type}

/-- How many moves are made between two steps at most. -/
def moves : Nat := 100000

def forget (task : String) (p : Program σ ρ) : Program σ ρ :=
  { p with tasks := p.tasks.filter (·.1 != task) }

def onStage (change : σ → σ) (p : Program σ ρ) : Program σ ρ :=
  { p with stage := change p.stage }

variable [Stage σ]

def await (call : Nat) (task : Option String) (p : Program σ ρ) : Program σ ρ × StepResult ρ :=
  let p := p.onStage (settle moves)
  match task with
  | some task => ({ p.forget task with tasks := (p.forget task).tasks ++ [(task, call)] }, .started)
  | none =>
    match p.outcome? p.stage call with
    | some result => (p, .returned result)
    | none => (p.onStage (Stage.drop · call), .pending)

def make (step : Step σ ρ) (p : Program σ ρ) : Program σ ρ × StepResult ρ × Option String :=
  match step with
  | .fire token => (p.onStage (Stage.fire · token), .done, none)
  | .advance ms => (p.onStage (Rehearsal.advance moves ms), .done, none)
  | .abort task =>
    match p.tasks.lookup task with
    | some call => ((p.onStage (Stage.drop · call)).forget task, .done, some task)
    | none => (p, .finished, none)
  | .act action task =>
    match action p.stage with
    | (stage, some result) => ({ p with stage }, .returned result, none)
    | (stage, none) =>
      let (p, result) := await (Stage.size p.stage) task { p with stage }
      (p, result, none)

def collect (p : Program σ ρ) : Program σ ρ × List (String × ρ) :=
  let outcome? (task : String × Nat) := (p.outcome? p.stage task.2).map fun r => (task.1, r)
  ({ p with tasks := p.tasks.filter fun task => (outcome? task).isNone },
    p.tasks.filterMap outcome?)

/-- What the step comes to, the task it aborts and the tasks that return. -/
def step (step : Step σ ρ) (p : Program σ ρ) :
    Program σ ρ × StepResult ρ × Option String × List (String × ρ) :=
  let (p, result, aborted) := p.make step
  let (p, returned) := (p.onStage (settle moves)).collect
  (p, result, aborted, returned)

end Program
end DeviceHub.Rehearsal
