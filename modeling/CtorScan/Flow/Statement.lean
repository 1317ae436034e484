import CtorScan.Flow.Call

/-!
# Statements as instructions
-/

namespace CtorScan
namespace Flow
namespace Builders

open Source
open Build

variable {π : Type}

/-! ## Assignments -/

/-- The location of a target, and whether there are zeros; a new variable is made
first. -/
def targetLocation (builders : Builders π) : TypedTarget π -> Build π (Location × Bool)
  | .blank => return (.blank, false)
  | .fresh var => return (.cell (<- newVariable var), true)
  | .existing tree => return (<- builders.location false tree, false)

/-- Assign values to locations, writing only when all values are known. -/
def assignEach
    (builders : Builders π)
    (locations : List (Location × Bool))
    (values : List (Typed π)) : Build π Unit := do
  let pending <- (locations.zip values).mapM fun ((location, isZero), value) =>
    builders.assign location value isZero
  flush pending.flatten

/-- Assign to locations, from one value each or from an expression that yields
several. -/
def assignAll
    (builders : Builders π)
    (locations : List (Location × Bool))
    (values : List (Typed π)) : Build π Unit := do
  match values with
  | [value] =>
      if locations.length == 1 then
        builders.assignEach locations values
      else
        let tuple <- builders.several value
        locations.zipIdx.forM fun ((location, _), index) => do
          storeAt location (<- extract tuple index)
  | _ => builders.assignEach locations values

/-- Assign to targets. -/
def assignment
    (builders : Builders π)
    (targets : List (TypedTarget π))
    (values : List (Typed π)) : Build π Unit := do
  builders.assignAll (<- targets.mapM builders.targetLocation) values

/-- Declare variables one after the other. -/
def declaration
    (builders : Builders π)
    (targets : List (TypedTarget π))
    (values : List (Typed π)) : Build π Unit := do
  if values.length == targets.length then
    (targets.zip values).forM fun (target, value) => do
      let (location, _) <- builders.targetLocation target
      builders.assignNow location value true
  else
    match values with
    | [value] =>
        let tuple <- builders.several value
        targets.zipIdx.forM fun (target, index) =>
          match target with
          | .fresh var => do
              let address <- newVariable var
              store address (<- extract tuple index)
          | _ => pure ()
    | _ =>
        targets.forM fun target => do
          let _ <- builders.targetLocation target

/-- Change what is at a location by an operation with a value. -/
def change (location : Location) (operator : String) (value : Value) : Build π Unit := do
  let type := location.type (<- env)
  let found <- loadAt location
  storeAt location (<- arithmetic operator found value type)

/-- Adding or subtracting one. -/
def step (builders : Builders π) (target : Typed π) (upwards : Bool) : Build π Unit := do
  let location <- builders.location false target
  let one := Value.constant (some (.int 1)) (location.type (<- env))
  change location (if upwards then "+" else "-") one

/-! ## The end of a function -/

/-- The block with which to go on after a failure, in the function around all loops
over functions. -/
def ensureRecovery : Build π Unit :=
  modify fun state => { state with frames := go state.frames }
where
  /-- Add the block to the first function that is no body of such a loop. -/
  go : List (Frame π) -> List (Frame π)
    | [] => []
    | frame :: rest =>
        if frame.signal.isSome then
          frame :: go rest
        else if frame.recovery.isSome then
          frame :: rest
        else
          let first := frame.nextRegister
          let loads := frame.results.zipIdx.map fun (address, index) =>
            (⟨.load, [address], some (first + index), none⟩ : Instruction π)
          let values := frame.results.zipIdx.map fun (address, index) =>
            Value.register (first + index) (Lift.pointedType address.type)
          let ending : Instruction π := ⟨.other "return", values, none, none⟩
          { frame with
            blocks := frame.blocks.push ⟨"recover", (loads ++ [ending]).toArray, []⟩
            nextRegister := first + loads.length
            recovery := some frame.blocks.size } :: rest

/-- A call that is not waited for. -/
def suspended
    (builders : Builders π)
    (operation : Bool -> Operation)
    (place : π)
    (tree : Typed π) : Build π Unit := do
  match tree with
  | .call function signature _ trees spread _ =>
      let found <- builders.fullCall function signature trees spread
      act (operation found.invoked) (found.value :: found.arguments) (some place)
  | _ => failure

/-- The function around all loops over functions, counted from the outermost one. -/
def sourceLevel : Build π Nat := do
  let frames := (<- get).frames
  let bodies := frames.takeWhile fun frame => frame.signal.isSome
  return frames.length - 1 - bodies.length

/-- Set the state of the loop over a function whose body is at hand. -/
def setSignal (slot : Slot) (value : Value) : Build π Unit := do
  store (<- addressOf slot "jump$" true) value

/-- End the body of a loop over a function, and the loop with it. -/
def exitLoop (goal : Goal) : Build π Unit := do
  match (<- frame).signal with
  | none => failure
  | some slot =>
      let count <- freshNumber
      modifyFrame fun frame => { frame with exits := frame.exits ++ [⟨count, goal⟩] }
      setSignal slot (number count)
      act (.other "return") [truth false] none

/-- Read all results and end the function. -/
def finishWithResults : Build π Unit := do
  act .runPostponed [] none
  let values <- (<- frame).results.mapM load
  act (.other "return") values none

/-- The end of the function with some results. -/
def finish (builders : Builders π) (trees : List (Typed π)) : Build π Unit := do
  let vars := (<- frame).resultVars
  let values <-
    match trees with
    | [tree] =>
        if vars.length == 1 then do
          let value <- builders.value tree
          converted [value] (vars.map Var.type)
        else do
          let tuple <- builders.several tree
          vars.zipIdx.mapM fun (var, index) => do
            convert (<- extract tuple index) var.type
    | _ =>
        (trees.zip vars).mapM fun (tree, var) => do
          convert (<- builders.value tree) var.type
  let isBody := (<- frame).signal.isSome
  (values.zip vars).zipIdx.forM fun ((value, var), index) => do
    let address <-
      if isBody then variableAddress var false
      else pure ((<- frame).results.getD index default)
    store address value
  if isBody then
    exitLoop (.finish (<- sourceLevel))
  else
    finishWithResults
  continueIn (<- newBlock "unreachable")

/-! ## Jumps -/

/-- The block that a jump without a label leads to, here or in a function around. -/
def targetBlock? (word : String) : List (Frame π) -> Option (Nat × Nat)
  | [] => none
  | frame :: rest =>
      match frame.targets.findSome? fun target => target.block? word with
      | some block => some (rest.length, block)
      | none => targetBlock? word rest

/-- The block that a jump with a label leads to, here or around the loops over
functions whose body is at hand. -/
def labelBlock? (word name : String) : List (Frame π) -> Option (Nat × Nat)
  | [] => none
  | frame :: rest =>
      let found := (frame.labels.find? fun label => label.name == name).bind fun label =>
        label.block? word
      match found with
      | some block => some (rest.length, block)
      | none => if frame.signal.isSome then labelBlock? word name rest else none

/-- A jump. -/
def goTo (word : String) (name : Option String) : Build π Unit := do
  let frames := (<- get).frames
  let own <- level
  let found :=
    match name with
    | none => targetBlock? word frames
    | some name => labelBlock? word name frames
  match found, name with
  | some (target, block), _ =>
      if target == own then jump block else exitLoop (.block target block)
  | none, some name =>
      let label <- label name
      if (<- frame).signal.isSome then
        let count <- freshNumber
        modifyFrame fun frame =>
          { frame with exits := frame.exits ++ [⟨count, .label name⟩] }
      jump label.start
  | none, none => failure
  continueIn (<- newBlock "unreachable")

/-! ## Conditions and choices -/

/-- Statements one after the other. -/
def statements (builders : Builders π) (stmts : List (TypedStmt π)) : Build π Unit :=
  stmts.forM (builders.statement none)

/-- A statement that may be absent. -/
def optional (builders : Builders π) : Option (TypedStmt π) -> Build π Unit
  | some stmt => builders.statement none stmt
  | none => return ()

/-- A condition with one or two branches. -/
def conditional
    (builders : Builders π)
    (condition : Typed π)
    (body : List (TypedStmt π))
    (other : Option (TypedStmt π)) : Build π Unit := do
  let onTrue <- newBlock "if.then"
  let done <- newBlock "if.done"
  match other with
  | none =>
      builders.test condition onTrue done
      continueIn onTrue
      builders.statements body
      jump done
  | some stmt =>
      let onFalse <- newBlock "if.else"
      builders.test condition onTrue onFalse
      continueIn onTrue
      builders.statements body
      jump done
      continueIn onFalse
      builders.statement none stmt
      jump done
  continueIn done

/-- The condition that a value is that of a clause; without a value to choose by it is
the clause itself. -/
def clauseTest (tag : Option Value) (value : Value) : Build π Value := do
  match tag with
  | some tag => compare tag value
  | none =>
      if (<- env).isBasicWith Basic.isBoolean value.type then return value
      else compare (truth true) value

/-- Branch to a body by each of some values in turn. -/
def clauseTests
    (builders : Builders π)
    (tag : Option Value)
    (body : Nat) : List (Typed π) -> Build π Unit
  | [] => return ()
  | tree :: rest => do
      let next <- newBlock "switch.next"
      let value <- builders.value tree
      branch (<- clauseTest tag value) body next
      continueIn next
      builders.clauseTests tag body rest

/-- The clauses of a choice in turn; the default comes last, and is given back with its
block and the one after it. -/
def clauses
    (builders : Builders π)
    (tag : Option Value)
    (done : Nat) :
    Option Nat -> List (TypedClause π) -> Build π (Option (Nat × Nat × List (TypedStmt π)))
  | _, [] => return none
  | ready, .mk isDefault values stmts :: rest => do
      let body <-
        match ready with
        | some body => pure body
        | none => newBlock "switch.body"
      let next <- if rest.isEmpty then pure done else newBlock "switch.body"
      if isDefault then
        let _ <- builders.clauses tag done (some next) rest
        return some (body, next, stmts)
      else
        builders.clauseTests tag body values
        let otherwise := (<- frame).current
        continueIn body
        withTarget ⟨some done, none, some next⟩ (builders.statements stmts)
        jump done
        continueIn otherwise
        builders.clauses tag done (some next) rest

/-- A choice by a value. -/
def choice
    (builders : Builders π)
    (label : Option String)
    (tag : Option (Typed π))
    (all : List (TypedClause π)) : Build π Unit := do
  let tag <-
    match tag with
    | some tree => some <$> builders.value tree
    | none => pure none
  let done <- newBlock "switch.done"
  modifyLabel label fun label => { label with leave := some done }
  match <- builders.clauses tag done none all with
  | some (body, next, stmts) =>
      jump body
      continueIn body
      withTarget ⟨some done, none, some next⟩ (builders.statements stmts)
  | none => pure ()
  jump done
  continueIn done

/-- The body of a clause of a choice by type, in which the value has a name. -/
def typeClauseBody
    (builders : Builders π)
    (done : Nat)
    (binder : Option Var)
    (value : Value)
    (stmts : List (TypedStmt π)) : Build π Unit := do
  if let some var := binder then
    store (<- newVariable var) value
  withTarget ⟨some done, none, none⟩ (builders.statements stmts)
  jump done

/-- Branch to a body by each of some types in turn; the value as one of the last
type. -/
def typeTests (operand : Value) (body : Nat) : List (Option Ty) -> Build π Value
  | [] => return operand
  | type :: rest => do
      let next <- newBlock "typeswitch.next"
      let env <- env
      let value <-
        match type with
        | none => do
            branch (<- compare operand (zero env operand.type)) body next
            pure operand
        | some type => do
            let both <- simple "typeassert" [operand] (.tuple [type, .basic .bool])
            let value <- extract both 0
            branch (<- extract both 1) body next
            pure value
      continueIn next
      match rest with
      | [] => return value
      | _ => typeTests operand body rest

/-- A choice by the type of a value. -/
def typeChoice
    (builders : Builders π)
    (label : Option String)
    (operandTree : Typed π)
    (all : List (TypeClause π)) : Build π Unit := do
  let operand <- builders.value operandTree
  let done <- newBlock "typeswitch.done"
  modifyLabel label fun label => { label with leave := some done }
  all.forM fun (.mk isDefault types binder stmts) => do
    unless isDefault do
      let body <- newBlock "typeswitch.body"
      let value <- typeTests operand body types
      let otherwise := (<- frame).current
      continueIn body
      let value := if types.length == 1 then value else operand
      builders.typeClauseBody done binder value stmts
      continueIn otherwise
  match all.find? fun (.mk isDefault _ _ _) => isDefault with
  | some (.mk _ _ binder stmts) => builders.typeClauseBody done binder operand stmts
  | none => jump done
  continueIn done

/-! ## Communication -/

/-- The channel of a receipt. -/
def receivedFrom : Typed π -> Typed π
  | .checked (.unary _ channel _) _ => channel
  | .unary _ channel _ => channel
  | other => other

/-- The type of the elements of a channel. -/
def elementType (env : Env) (type : Ty) : Ty :=
  match env.core? type with
  | some (.node (.channel _) [element]) => element
  | _ => default

/-- The channels and values of communications, and the types of what is received. -/
def commOperands (builders : Builders π) : List (TypedComm π) -> Build π (List Value × List Ty)
  | [] => return ([], [])
  | .default _ :: rest => builders.commOperands rest
  | .send channel value _ :: rest => do
      let channel <- builders.value channel
      let value <- convert (<- builders.value value) (elementType (<- env) channel.type)
      let (operands, types) <- builders.commOperands rest
      return (channel :: value :: operands, types)
  | .receive value _ _ :: rest => do
      let channel <- builders.value (receivedFrom value)
      let type := elementType (<- env) channel.type
      let (operands, types) <- builders.commOperands rest
      return (channel :: operands, type :: types)

/-- Store what was received. -/
def storeReceived
    (builders : Builders π)
    (selected : Value)
    (position : Nat) : List (TypedTarget π) -> Build π Unit
  | [] => return ()
  | first :: rest => do
      let (location, _) <- builders.targetLocation first
      storeAt location (<- extract selected position)
      match rest with
      | second :: _ =>
          let (location, _) <- builders.targetLocation second
          storeAt location (<- extract selected 1)
      | [] => pure ()

/-- The clauses of communications in turn, by the number of the one that happened. -/
def commClauses
    (builders : Builders π)
    (selected index : Value)
    (done : Nat) : Nat -> Nat -> List (TypedComm π) -> Build π Unit
  | _, _, [] => return ()
  | state, position, .default _ :: rest =>
      builders.commClauses selected index done state position rest
  | state, position, clause :: rest => do
      let body <- newBlock "select.body"
      let next <- newBlock "select.next"
      branch (<- compare index (number state)) body next
      continueIn body
      let position <- withTarget ⟨some done, none, none⟩ do
        match clause with
        | .receive _ targets stmts =>
            builders.storeReceived selected position targets
            builders.statements stmts
            pure (position + 1)
        | .send _ _ stmts =>
            builders.statements stmts
            pure position
        | .default _ => pure position
      jump done
      continueIn next
      builders.commClauses selected index done (state + 1) position rest

/-- The statement that a communication is by itself. -/
def commStatement : TypedComm π -> Option (TypedStmt π × List (TypedStmt π))
  | .default _ => none
  | .send channel value body => some (.send channel value, body)
  | .receive value [] body => some (.expression value false, body)
  | .receive value targets body => some (.assign targets [value], body)

/-- A choice among communications. -/
def selectMany
    (builders : Builders π)
    (label : Option String)
    (all : List (TypedComm π)) : Build π Unit := do
  let (operands, types) <- builders.commOperands all
  let selected <-
    simple "select" operands (.tuple (.basic .int :: .basic .bool :: types))
  let index <- extract selected 0
  let done <- newBlock "select.done"
  modifyLabel label fun label => { label with leave := some done }
  builders.commClauses selected index done 0 2 all
  let otherwise := all.findSome? fun
    | .default body => some body
    | _ => none
  match otherwise with
  | some body => withTarget ⟨some done, none, none⟩ (builders.statements body)
  | none =>
      fail (words "blocking select matched no case")
      continueIn (<- newBlock "unreachable")
  jump done
  continueIn done

/-- A choice among communications; a single one is waited for. -/
def select
    (builders : Builders π)
    (label : Option String)
    (all : List (TypedComm π)) : Build π Unit := do
  let single :=
    match all with
    | [clause] => commStatement clause
    | _ => none
  match single with
  | some (stmt, body) =>
      builders.statement none stmt
      let done <- newBlock "select.done"
      modifyLabel label fun label => { label with leave := some done }
      withTarget ⟨some done, none, none⟩ (builders.statements body)
      jump done
      continueIn done
  | none => builders.selectMany label all

end Builders
end Flow
end CtorScan
