import CtorScan.Flow.Frame

/-!
# Functions that never return

A declared function never returns if no way through its body leads to its end or to a
statement that ends it.  Conditions are not looked at; a call that stands alone ends a
way if the called function never returns, where a function that is being looked at
counts as one that returns.
-/

namespace CtorScan
namespace Flow

open Source

variable {π : Type}

/-- The ways through a body: numbered points and the steps between them. -/
structure Sketch where
  /-- The steps. -/
  steps : List (Nat × Nat)
  /-- The number of points. -/
  count : Nat
  /-- The point at hand. -/
  current : Nat
  /-- The points at which the function returns. -/
  ends : List Nat
  /-- Where jumps without a label go, the innermost first. -/
  targets : List Target
  /-- Where jumps with a label go. -/
  labels : List Label

namespace Sketch

/-- The ways through a body before its first statement. -/
def start : Sketch := ⟨[], 1, 0, [], [], []⟩

/-- The points that can be reached. -/
def reachable (sketch : Sketch) : List Nat :=
  let next (point : Nat) : List Nat :=
    sketch.steps.filterMap fun (source, target) =>
      if source == point then some target else none
  Graph.reachUpTo next (2 * sketch.steps.length + sketch.count + 2) [] [0]

/-- The function can return: at its end or before. -/
def returns (sketch : Sketch) : Bool :=
  let reached := sketch.reachable
  reached.contains sketch.current || sketch.ends.any reached.contains

end Sketch

/-- What is known about functions while bodies are looked at. -/
structure Trace where
  /-- The functions that are or were looked at. -/
  begun : List Nat
  /-- The functions that never return. -/
  endless : List Nat
  /-- The ways through the body at hand. -/
  sketch : Sketch

/-- A computation that looks at bodies. -/
abbrev Tracing := StateM Trace

namespace Tracing

/-- Change the ways through the body at hand. -/
def modifySketch (change : Sketch -> Sketch) : Tracing Unit :=
  modify fun trace => { trace with sketch := change trace.sketch }

/-- A new point. -/
def newPoint : Tracing Nat := do
  let point := (<- get).sketch.count
  modifySketch fun sketch => { sketch with count := point + 1 }
  return point

/-- Go on from a point. -/
def goOnAt (point : Nat) : Tracing Unit :=
  modifySketch fun sketch => { sketch with current := point }

/-- Go on from a point that nothing leads to. -/
def cut : Tracing Unit := do
  goOnAt (<- newPoint)

/-- A step to a point. -/
def stepTo (point : Nat) : Tracing Unit :=
  modifySketch fun sketch =>
    { sketch with steps := (sketch.current, point) :: sketch.steps }

/-- Do something with targets for jumps. -/
def withTarget (target : Target) (action : Tracing Unit) : Tracing Unit := do
  modifySketch fun sketch => { sketch with targets := target :: sketch.targets }
  action
  modifySketch fun sketch => { sketch with targets := sketch.targets.tail }

/-- The label with a name; one that is new gets a point. -/
def label (name : String) : Tracing Label := do
  match (<- get).sketch.labels.find? fun label => label.name == name with
  | some label => return label
  | none =>
      let label : Label := ⟨name, <- newPoint, false, none, none⟩
      modifySketch fun sketch => { sketch with labels := label :: sketch.labels }
      return label

/-- Change a label, if there is one. -/
def modifyLabel (name : Option String) (change : Label -> Label) : Tracing Unit :=
  modifySketch fun sketch =>
    { sketch with
      labels := sketch.labels.map fun label =>
        if some label.name == name then change label else label }

/-- A jump by a word, perhaps with a label. -/
def jump (word : String) (name : Option String) : Tracing Unit := do
  let point <-
    match name with
    | some name => do pure ((<- label name).block? word)
    | none => do pure ((<- get).sketch.targets.findSome? fun target => target.block? word)
  match point with
  | some point => stepTo point
  | none => pure ()
  cut

/-- The ways to the body of a clause, and past it, for each of its cases. -/
def cases (body : Nat) : Nat -> Tracing Unit
  | 0 => return ()
  | count + 1 => do
      let next <- newPoint
      stepTo body
      stepTo next
      goOnAt next
      cases body count

/-- The clauses of a choice by the number of their cases; each can pass on to the next
one, and the default comes last. -/
def clauses
    (statements : List (TypedStmt π) -> Tracing Unit)
    (done : Nat) :
    Nat -> List (Bool × Nat × List (TypedStmt π)) ->
      Tracing (Option (Nat × Nat × List (TypedStmt π)))
  | _, [] => return none
  | body, (isDefault, count, stmts) :: rest => do
      let next <- if rest.isEmpty then pure done else newPoint
      if isDefault then
        let _ <- clauses statements done next rest
        return some (body, next, stmts)
      else
        cases body count
        let otherwise := (<- get).sketch.current
        goOnAt body
        withTarget ⟨some done, none, some next⟩ (statements stmts)
        stepTo done
        goOnAt otherwise
        clauses statements done next rest

/-- A choice among clauses. -/
def choice
    (statements : List (TypedStmt π) -> Tracing Unit)
    (name : Option String)
    (all : List (Bool × Nat × List (TypedStmt π))) : Tracing Unit := do
  let done <- newPoint
  modifyLabel name fun label => { label with leave := some done }
  match <- clauses statements done (<- newPoint) all with
  | some (body, next, stmts) =>
      stepTo body
      goOnAt body
      withTarget ⟨some done, none, some next⟩ (statements stmts)
  | none => pure ()
  stepTo done
  goOnAt done

/-- A loop, whose end can be reached if it has a condition. -/
def loop
    (name : Option String)
    (conditional : Bool)
    (body : Tracing Unit)
    (post : Tracing Unit) : Tracing Unit := do
  let start <- newPoint
  let inside <- newPoint
  let next <- newPoint
  let done <- newPoint
  modifyLabel name fun label => { label with leave := some done, next := some next }
  stepTo start
  goOnAt start
  stepTo inside
  if conditional then
    stepTo done
  goOnAt inside
  withTarget ⟨some done, some next, none⟩ body
  stepTo next
  goOnAt next
  post
  stepTo start
  goOnAt done

/-- The body of a communication. -/
def commBody : TypedComm π -> List (TypedStmt π)
  | .default body => body
  | .send _ _ body => body
  | .receive _ _ body => body

/-- A communication is the default. -/
def isDefault : TypedComm π -> Bool
  | .default _ => true
  | _ => false

/-- A choice among communications; it goes nowhere if none of them happens. -/
def select
    (statements : List (TypedStmt π) -> Tracing Unit)
    (name : Option String)
    (all : List (TypedComm π)) : Tracing Unit := do
  let done <- newPoint
  modifyLabel name fun label => { label with leave := some done }
  all.forM fun clause => do
    unless isDefault clause do
      let body <- newPoint
      let next <- newPoint
      stepTo body
      stepTo next
      goOnAt body
      withTarget ⟨some done, none, none⟩ (statements (commBody clause))
      stepTo done
      goOnAt next
  match all.find? isDefault with
  | some clause =>
      withTarget ⟨some done, none, none⟩ (statements (commBody clause))
      stepTo done
  | none => pure ()
  goOnAt done

/-- The declared function that a call is of, if that is known. -/
def calledFunction? (env : Env) : Typed π -> Option Nat
  | .function index _ _ => some index
  | .methodValue _ (.declared index _) _ _ =>
      if (env.callable index).typeParams.isEmpty then some index else none
  | .methodOf _ (.declared index _) _ _ =>
      if (env.callable index).typeParams.isEmpty then some index else none
  | _ => none

/-- A call that stands alone does not return, as far as is known. -/
def endsWay (env : Env) (look : Nat -> Tracing Bool) : Typed π -> Tracing Bool
  | .call (.builtin "panic" _) _ _ _ _ _ => return true
  | .call function _ _ _ _ _ =>
      match calledFunction? env function with
      | some index => look index
      | none => return false
  | _ => return false

/-- Look at a statement, down to a depth. -/
def statementUpTo
    (env : Env)
    (look : Nat -> Tracing Bool) :
    Nat -> Option String -> TypedStmt π -> Tracing Unit
  | 0, _, _ => return ()
  | depth + 1, name, stmt => do
      let statements (stmts : List (TypedStmt π)) : Tracing Unit :=
        stmts.forM (statementUpTo env look depth none)
      let optional (stmt : Option (TypedStmt π)) : Tracing Unit :=
        statements stmt.toList
      match stmt with
      | .expression tree true =>
          if <- endsWay env look tree then
            cut
      | .finish _ =>
          modifySketch fun sketch => { sketch with ends := sketch.current :: sketch.ends }
          cut
      | .jump word target => jump word target
      | .block stmts => statements stmts
      | .conditional init _ body other =>
          optional init
          let inside <- newPoint
          let done <- newPoint
          let otherwise <- newPoint
          stepTo inside
          stepTo otherwise
          goOnAt inside
          statements body
          stepTo done
          goOnAt otherwise
          optional other
          stepTo done
          goOnAt done
      | .choice init _ all =>
          optional init
          choice statements name (all.map fun (.mk isDefault values stmts) =>
            (isDefault, values.length, stmts))
      | .typeChoice init _ all =>
          optional init
          choice statements name (all.map fun (.mk isDefault types _ stmts) =>
            (isDefault, types.length, stmts))
      | .select all => select statements name all
      | .loop init condition post body =>
          optional init
          loop name condition.isSome (statements body) (optional post)
      | .range _ _ _ _ body => loop name true (statements body) (pure ())
      | .labeled label body =>
          let found <- Tracing.label label
          stepTo found.start
          goOnAt found.start
          statementUpTo env look depth (some label) body
      | _ => return ()

end Tracing

namespace Endless

/-- The functions of other packages that never return by their nature. -/
def byNature : List (String × String) :=
  [("syscall", "Exit"), ("syscall", "ExitProcess"), ("syscall", "ExitThread"),
   ("runtime", "Goexit")]

/-- Look at a declared function if it was not looked at before, and tell whether it
never returns, as far as is known.  The bound is one on the functions that are looked
at within each other. -/
def look
    (env : Env)
    (depth : Nat)
    (bodies : List (Nat × Option (List (TypedStmt π)))) :
    Nat -> Nat -> Tracing Bool
  | 0, _ => return false
  | bound + 1, function => do
      let trace <- get
      if !trace.begun.contains function then
        match bodies.lookup function with
        | none => pure ()
        | some body =>
            set { trace with begun := function :: trace.begun, sketch := Sketch.start }
            let callable := env.callable function
            let isIntrinsic := byNature.contains (callable.package, callable.name)
            let isEndless <-
              match body with
              | none => pure isIntrinsic
              | some stmts => do
                  stmts.forM
                    (Tracing.statementUpTo env (look env depth bodies bound) depth none)
                  pure (isIntrinsic || !(<- get).sketch.returns)
            modify fun after =>
              { after with
                sketch := trace.sketch
                endless := if isEndless then function :: after.endless else after.endless }
      return (<- get).endless.contains function

/-- The declared functions of a package that never return, added to those of other
packages. -/
def ofPackage
    (env : Env)
    (depth : Nat)
    (known : List Nat)
    (package : TypedPackage π) : List Nat :=
  let bodies := package.functions.map fun function => (function.index, function.body)
  let all : Tracing Unit := package.functions.forM fun function => do
    let _ <- look env depth bodies (bodies.length + 1) function.index
  (all.run ⟨[], known, .start⟩).2.endless

end Endless
end Flow
end CtorScan
