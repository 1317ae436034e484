import CtorScan.Run.Basic

/-!
# Schedules of a run

Functions are looked at by tasks that run at the same time.  A loop goes through
the functions and starts a task for each one that has a body, but never more than
a limit of them at once.  A task first asks whether the run was cancelled.  If so,
it reports that; otherwise it applies the pass and stores the outcome in the slot
of its function.  When the loop is through and all tasks have returned, the
outcomes in the slots are written.

A schedule says who takes the next step: the caller, who may cancel at any time,
the loop, or one of the tasks.
-/

namespace CtorScan
namespace Run

/-- How far the task of a function is. -/
inductive Stage where
  /-- There is no task: the loop did not come here, or there is no body. -/
  | idle
  /-- The task has done nothing yet. -/
  | started
  /-- It has seen that the run goes on. -/
  | admitted
  /-- It has applied the pass. -/
  | computed (outcome : Outcome)
  /-- It has seen that the run was cancelled. -/
  | refused
  /-- It has stored its outcome or reported that it was refused. -/
  | leaving
  /-- It has made room for another task. -/
  | returned

/-- The task takes up room. -/
def Stage.isRunning : Stage -> Bool
  | idle => false
  | returned => false
  | _ => true

/-- Who takes a step. -/
inductive Actor where
  /-- The caller, who cancels the run. -/
  | caller
  /-- The loop that starts tasks. -/
  | loop
  /-- The task of the function at a position. -/
  | task (index : Nat)
deriving DecidableEq

/-- What the tasks of a run have to do. -/
structure Plan where
  /-- The functions of the program. -/
  functions : List (Function Nat)
  /-- What the pass does with a function. -/
  pass : Function Nat -> Outcome
  /-- How many tasks may run at once. -/
  limit : Nat

/-- A moment of a run.  Slots and stages are in the order of the functions. -/
structure Moment where
  /-- How many functions the loop has gone past. -/
  reached : Nat
  /-- How far the tasks are. -/
  stages : List Stage
  /-- What the tasks have stored. -/
  slots : List Outcome
  /-- Whether the caller has cancelled the run. -/
  canceled : Bool
  /-- Whether a task has reported that it was refused. -/
  failed : Bool

namespace Moment

/-- The task at a position goes on to a stage. -/
def setStage
    (moment : Moment)
    (index : Nat)
    (stage : Stage) : Moment :=
  { moment with stages := moment.stages.set index stage }

/-- The number of tasks that take up room. -/
def running (moment : Moment) : Nat :=
  moment.stages.countP Stage.isRunning

end Moment

namespace Plan

/-- The moment in which a run begins; it may have been cancelled before. -/
def initial
    (plan : Plan)
    (canceled : Bool) : Moment where
  reached := 0
  stages := plan.functions.map fun _ => .idle
  slots := plan.functions.map fun _ => ⟨[], false⟩
  canceled := canceled
  failed := false

/-- The loop goes past the next function.  It waits while there is no room for
the task of a function with a body. -/
def loopStep?
    (plan : Plan)
    (moment : Moment) : Option Moment :=
  match plan.functions[moment.reached]? with
  | none => none
  | some function =>
      if function.isDeclaration then
        some { moment with reached := moment.reached + 1 }
      else if moment.running < plan.limit then
        some { moment.setStage moment.reached .started with reached := moment.reached + 1 }
      else
        none

/-- The task of a function takes its next step.  What one task reports cancels
the others too. -/
def taskStep?
    (plan : Plan)
    (moment : Moment)
    (index : Nat) : Option Moment :=
  match plan.functions[index]?, moment.stages[index]? with
  | some function, some stage =>
      match stage with
      | .started =>
          if moment.canceled || moment.failed then
            some (moment.setStage index .refused)
          else
            some (moment.setStage index .admitted)
      | .admitted => some (moment.setStage index (.computed (plan.pass function)))
      | .computed outcome =>
          some { moment.setStage index .leaving with slots := moment.slots.set index outcome }
      | .refused => some { moment.setStage index .leaving with failed := true }
      | .leaving => some (moment.setStage index .returned)
      | .idle => none
      | .returned => none
  | _, _ => none

/-- One step of a run. -/
def step?
    (plan : Plan)
    (moment : Moment) : Actor -> Option Moment
  | .caller => if moment.canceled then none else some { moment with canceled := true }
  | .loop => plan.loopStep? moment
  | .task index => plan.taskStep? moment index

/-- The moment after a schedule, if each step of it is possible. -/
def follow?
    (plan : Plan) :
    Moment -> List Actor -> Option Moment
  | moment, [] => some moment
  | moment, actor :: rest => (plan.step? moment actor).bind fun next => plan.follow? next rest

/-- The loop is through and no task is running. -/
def isDone
    (plan : Plan)
    (moment : Moment) : Bool :=
  moment.reached == plan.functions.length && moment.running == 0

/-- What is written in the end: the outcomes in the slots of the functions that
have a body. -/
def collected
    (plan : Plan)
    (moment : Moment) : List (String × Outcome) :=
  ((plan.functions.zip moment.slots).filter fun entry => !entry.1.isDeclaration).map
    fun entry => (entry.1.name, entry.2)

end Plan

/-- What a run is asked for. -/
structure Order where
  /-- The registered passes. -/
  registry : Pass.Registry
  /-- Where the records go. -/
  sink : Report.Sink
  /-- How many tasks may run at once; zero or less leaves that to the machine. -/
  jobs : Int
  /-- The name of the pass. -/
  pass : String
  /-- The marker for the pass. -/
  marker : String
  /-- The program. -/
  program : Program

namespace Order

/-- What a registered pass does with the functions of the program. -/
def apply
    (order : Order)
    (entry : Pass.Registered) : Function Nat -> Outcome :=
  entry.build order.marker order.program

/-- The plan for a registered pass on a machine with some processors. -/
def plan
    (order : Order)
    (processors : Nat)
    (entry : Pass.Registered) : Plan where
  functions := order.program.functions
  pass := order.apply entry
  limit := if order.jobs ≤ 0 then processors else order.jobs.toNat

/-- How a run ends whose tasks are done. -/
def resultAt
    (order : Order)
    (processors : Nat)
    (entry : Pass.Registered)
    (moment : Moment) : Result :=
  if moment.failed then
    ⟨.zero, [], order.sink, some (.canceled order.pass)⟩
  else
    finish entry.mutates order.program.name
      (writeOutcomes ⟨{ Summary.zero with pass := order.pass }, [], order.sink, none⟩
        ((order.plan processors entry).collected moment))

/-- The run, begun cancelled or not, can follow a schedule and end with a result.
The pass is looked up before any task is started. -/
inductive Yields
    (order : Order)
    (processors : Nat)
    (canceled : Bool) : List Actor -> Result -> Prop
  /-- There is no such pass. -/
  | refused
      {error : Pass.RegistryError}
      (unknown : order.registry.lookup order.pass = .error error) :
      Yields order processors canceled [] ⟨.zero, [], order.sink, some (.registry error)⟩
  /-- All tasks are done. -/
  | finished
      {entry : Pass.Registered}
      {schedule : List Actor}
      {last : Moment}
      (registered : order.registry.lookup order.pass = .ok entry)
      (followed : (order.plan processors entry).follow?
        ((order.plan processors entry).initial canceled) schedule = some last)
      (done : (order.plan processors entry).isDone last = true) :
      Yields order processors canceled schedule (order.resultAt processors entry last)

end Order
end Run
end CtorScan
