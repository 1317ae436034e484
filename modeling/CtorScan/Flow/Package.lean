import CtorScan.Flow.Endless
import CtorScan.Flow.Iteration

/-!
# The functions of a package

Declared functions come in order, each followed by the functions inside of it.  The
last one gives the variables of the package their first values.
-/

namespace CtorScan
namespace Flow

open Source
open Build

variable {π : Type}

/-- Make the graph of one function and the functions inside of it.  The next number and the
functions that were used go on to the functions that are made after it. -/
def made?
    (state : BuildState π)
    (routine : Routine)
    (making : Build π Unit) : Option ((Graph π × List (Nested π)) × BuildState π) := do
  let (_, after) <- making.run { state with frames := [Frame.start routine] }
  match after.frames with
  | [frame] =>
      return ((finishedGraph after.env frame, frame.inner),
        { state with nextNumber := after.nextNumber, known := after.known })
  | _ => none

/-- A declared function and the functions inside of it. -/
def declaredFunction?
    (builders : Builders π)
    (state : BuildState π)
    (function : TypedFunction π) : Option (Nested π × BuildState π) :=
  let routine := Routine.declared state.env function.index []
  match function.body with
  | none => some (⟨routine, function.place, none, []⟩, state)
  | some stmts => do
      let ((graph, inner), state) <- made? state routine
        (builders.body (function.receiver.toList ++ function.params) function.results stmts)
      return (⟨routine, function.place, some graph, inner⟩, state)

/-- Declared functions one after the other. -/
def declaredFunctions?
    (builders : Builders π) :
    BuildState π -> List (TypedFunction π) -> Option (List (Nested π) × BuildState π)
  | state, [] => some ([], state)
  | state, function :: rest => do
      let (first, state) <- declaredFunction? builders state function
      let (others, state) <- declaredFunctions? builders state rest
      return (first :: others, state)

/-- Call a function without parameters and results. -/
def callRoutine (routine : Routine) : Build π Unit := do
  let _ <- compute (.call false) [.routine routine] (.tuple []) none

/-- The address of a variable of a package. -/
def globalAddress (env : Env) (index : Nat) : Value :=
  let declared := env.globals.getD index default
  .global declared.name (.pointer declared.type)

/-- Give variables their first values. -/
def giveFirst (builders : Builders π) (initializer : Initializer π) : Build π Unit := do
  let env <- env
  match initializer.targets with
  | [target] =>
      let location :=
        match target with
        | some index => Location.cell (globalAddress env index)
        | none => .blank
      builders.assignNow location initializer.value true
  | targets =>
      let tuple <- builders.several initializer.value
      targets.zipIdx.forM fun (target, position) =>
        match target with
        | some index => do
            store (globalAddress env index) (<- extract tuple position)
        | none => pure ()

/-- What happens once when a package is loaded: the packages that it uses are loaded,
variables get their first values, and the functions that run by themselves are
called. -/
def startBody (builders : Builders π) (package : TypedPackage π) : Build π Unit := do
  let env <- env
  let guard := Value.global "init$guard" (.pointer (.basic .bool))
  let start <- newBlock "init.start"
  let done <- newBlock "init.done"
  branch (<- load guard) done start
  continueIn start
  store guard (truth true)
  package.imports.forM fun path => callRoutine (Routine.start path)
  package.initializers.forM (giveFirst builders)
  package.functions.forM fun function => do
    if Routine.runsAtStart (env.callable function.index) then
      callRoutine (Routine.declared env function.index [])
  jump done
  continueIn done
  act (.other "return") [] none

/-- The functions of a package. -/
structure Functions (π : Type) where
  /-- The declared ones, in order. -/
  declared : List (Nested π)
  /-- The one that gives the variables of the package their first values. -/
  start : Made π
  /-- The functions directly inside of that one, in order. -/
  inner : List (Nested π)
  /-- The one that gives first values has no place. -/
  startless : start.place = none

/-- All functions, each followed by those inside of it. -/
def Functions.all (functions : Functions π) : List (Made π) :=
  Nested.allOf functions.declared ++ functions.start :: Nested.allOf functions.inner

/-- The functions of a package, of which the one that starts it is made first.  The depth
is a bound on the nesting of its trees, and some declared functions are known never to
return. -/
def functions?
    (env : Env)
    (endless : List Nat)
    (depth : Nat)
    (package : TypedPackage π) : Option (Functions π) := do
  let builders := Builders.upTo depth
  let state : BuildState π := ⟨env, endless, [], 1, []⟩
  let routine := Routine.start package.path
  let ((graph, inner), state) <- made? state routine (startBody builders package)
  let (declared, _) <- declaredFunctions? builders state package.functions
  return ⟨declared, ⟨routine, none, some graph⟩, inner, rfl⟩

end Flow
end CtorScan
