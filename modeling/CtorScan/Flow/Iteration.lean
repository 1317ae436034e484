import CtorScan.Flow.Statement

/-!
# Loops as instructions

A loop with variables of its own has new ones in every turn; they are one variable
after all if their addresses are not known elsewhere.  The body of a loop over a
function becomes a function of its own, which that function calls.
-/

namespace CtorScan
namespace Flow
namespace Builders

open Source
open Build

variable {π : Type}

/-! ## Loops with a condition -/

/-- A loop without variables of its own. -/
def plainLoop
    (builders : Builders π)
    (label : Option String)
    (condition : Option (Typed π))
    (post : Option (TypedStmt π))
    (stmts : List (TypedStmt π)) : Build π Unit := do
  let body <- newBlock "for.body"
  let done <- newBlock "for.done"
  let loop <- if condition.isSome then newBlock "for.loop" else pure body
  let next <- if post.isSome then newBlock "for.post" else pure loop
  modifyLabel label fun label => { label with leave := some done, next := some next }
  jump loop
  continueIn loop
  if let some tree := condition then
    builders.test tree body done
    continueIn body
  withTarget ⟨some done, some next, none⟩ (builders.statements stmts)
  jump next
  if let some stmt := post then
    continueIn next
    builders.statement none stmt
    jump loop
  continueIn done

/-- A variable of a loop: its address before the loop, in a turn, and in the next
turn, and the instructions that carry its value over. -/
structure TurnVar where
  /-- The variable. -/
  var : Var
  /-- Its address before the loop. -/
  first : Value
  /-- Its address in a turn. -/
  inTurn : Value
  /-- Its address in the next turn. -/
  following : Value
  /-- The value that is carried over. -/
  carried : Value

/-- Make a variable of a loop. -/
def newTurnVar (before loop post : Nat) (var : Var) : Build π TurnVar := do
  continueIn before
  let first <- alloc var.type false
  continueIn loop
  let inTurn <- compute .phi [] (.pointer var.type) none
  continueIn post
  let carried <- load inTurn
  let following <- alloc var.type false
  store following carried
  let edges := [first, following]
  modifyFrame fun frame =>
    { frame with
      turns := (inTurn.register?.getD 0, edges.filterMap Value.register?) :: frame.turns
      blocks := frame.blocks.modify loop fun block =>
        { block with
          instructions := block.instructions.map fun instruction =>
            if instruction.register == inTurn.register? then
              { instruction with operands := edges }
            else
              instruction } }
  return ⟨var, first, inTurn, following, carried⟩

/-- The variable has one address in all turns. -/
def TurnVar.isOne (frame : Frame π) (turn : TurnVar) : Bool :=
  !turn.following.register?.any frame.escaped.contains

/-- The instruction only carries a variable over to the next turn. -/
def TurnVar.carries (turn : TurnVar) (instruction : Instruction π) : Bool :=
  let own := [turn.inTurn, turn.following, turn.carried].filterMap Value.register?
  match instruction.register with
  | some number => own.contains number
  | none =>
      match instruction.operation, instruction.operands with
      | .store, [address, value] =>
          address.register? == turn.following.register? &&
            value.register? == turn.carried.register?
      | _, _ => false

/-- The address of a variable that has one address in all turns. -/
def TurnVar.united (turns : List TurnVar) (value : Value) : Value :=
  match value.register? with
  | none => value
  | some number =>
      match turns.find? fun turn =>
          turn.inTurn.isRegister number || turn.following.isRegister number with
      | some turn => turn.first
      | none => value

/-- Unite the addresses of variables whose address is not known elsewhere, in the
blocks from some number on. -/
def uniteTurns (start : Nat) (turns : List TurnVar) : Build π Unit :=
  modifyFrame fun frame =>
    let united := turns.filter (TurnVar.isOne frame)
    { frame with
      blocks := frame.blocks.mapIdx fun number block =>
        if number < start then
          block
        else
          { block with
            instructions := (block.instructions.filter fun instruction =>
              !united.any fun turn => turn.carries instruction).map fun instruction =>
                { instruction with
                  operands := instruction.operands.map (TurnVar.united united) } } }

/-- The variables that start in some targets. -/
def freshVars (targets : List (TypedTarget π)) : List Var :=
  targets.filterMap fun
    | .fresh var => some var
    | _ => none

/-- A loop with variables of its own. -/
def turnLoop
    (builders : Builders π)
    (label : Option String)
    (targets : List (TypedTarget π))
    (values : List (Typed π))
    (condition : Option (Typed π))
    (post : Option (TypedStmt π))
    (stmts : List (TypedStmt π)) : Build π Unit := do
  let start := (<- frame).blocks.size
  let before := (<- frame).current
  let loop <- newBlock "for.loop"
  let body <- newBlock "for.body"
  let next <- newBlock "for.post"
  let done <- newBlock "for.done"
  let turns <- (freshVars targets).mapM (newTurnVar before loop next)
  let keep (address : TurnVar -> Value) : Build π Unit :=
    turns.forM fun turn => keepAt (.var turn.var.id) (address turn)
  continueIn before
  keep TurnVar.first
  let locations <- targets.mapM fun target =>
    match target with
    | .fresh var => return (Location.cell (<- variableAddress var false), false)
    | other => builders.targetLocation other
  builders.assignAll locations values
  modifyLabel label fun label => { label with leave := some done, next := some next }
  jump loop
  continueIn loop
  keep TurnVar.inTurn
  match condition with
  | some tree => builders.test tree body done
  | none => jump body
  continueIn body
  withTarget ⟨some done, some next, none⟩ (builders.statements stmts)
  jump next
  keep TurnVar.following
  continueIn next
  builders.optional post
  jump loop
  continueIn done
  uniteTurns start turns

/-- A loop with a condition. -/
def loop
    (builders : Builders π)
    (label : Option String)
    (init : Option (TypedStmt π))
    (condition : Option (Typed π))
    (post : Option (TypedStmt π))
    (stmts : List (TypedStmt π)) : Build π Unit := do
  match init with
  | some (.assign targets values) =>
      if (freshVars targets).isEmpty then
        builders.assignment targets values
        builders.plainLoop label condition post stmts
      else
        builders.turnLoop label targets values condition post stmts
  | other =>
      builders.optional other
      builders.plainLoop label condition post stmts

/-! ## Loops over values -/

/-- A loop of which the head is made: the key and value of a turn, and the blocks of
the next turn and after the loop. -/
structure Turning where
  /-- The key. -/
  key : Option Value
  /-- The value. -/
  value : Option Value
  /-- The block of the next turn. -/
  next : Nat
  /-- The block after the loop. -/
  done : Nat

/-- A loop over the elements of a sequence. -/
def overElements (operand : Value) (wantsValue : Bool) : Build π Turning := do
  let env <- env
  let int := Ty.basic .int
  let length <-
    match arrayLength? env operand.type with
    | some length => pure (number length)
    | none => compute (.call false) [.builtin "len" default, operand] int none
  let index <- alloc int false
  store index (number (-1))
  let next <- newBlock "rangeindex.loop"
  jump next
  continueIn next
  let before <- load index
  let count <- simple "binop" [before, number 1] int
  store index count
  let body <- newBlock "rangeindex.body"
  let done <- newBlock "rangeindex.done"
  branch (<- compare count length) body done
  continueIn body
  let key <- load index
  let value <-
    if !wantsValue then
      pure none
    else
      match env.core? operand.type with
      | some (.node (.array _) [element]) =>
          some <$> simple "index" [operand, key] element
      | some (.node .slice [element]) => do
          some <$> (load (<- simple "indexaddr" [operand, key] (.pointer element)))
      | _ => do
          let element := (env.arrayElement? operand.type).getD default
          some <$> (load (<- simple "indexaddr" [operand, key] (.pointer element)))
  return ⟨some key, value, next, done⟩

/-- A loop over the entries of a map or the characters of a text. -/
def overEntries
    (operand : Value)
    (keyType valueType : Ty)
    (wantsKey wantsValue : Bool) : Build π Turning := do
  let iterator <- simple "range" [operand] default
  let next <- newBlock "rangeiter.loop"
  jump next
  continueIn next
  let found <- simple "next" [iterator] (.tuple [.basic .bool, keyType, valueType])
  let body <- newBlock "rangeiter.body"
  let done <- newBlock "rangeiter.done"
  branch (<- extract found 0) body done
  continueIn body
  let key <- if wantsKey then some <$> extract found 1 else pure none
  let value <- if wantsValue then some <$> extract found 2 else pure none
  return ⟨key, value, next, done⟩

/-- A loop over what a channel delivers. -/
def overChannel (operand : Value) (wantsKey : Bool) : Build π Turning := do
  let next <- newBlock "rangechan.loop"
  jump next
  continueIn next
  let element := elementType (<- env) operand.type
  let found <- simple "unop" [operand] (.tuple [element, .basic .bool])
  let body <- newBlock "rangechan.body"
  let done <- newBlock "rangechan.done"
  branch (<- extract found 1) body done
  continueIn body
  let key <- if wantsKey then some <$> extract found 0 else pure none
  return ⟨key, none, next, done⟩

/-- A loop over the numbers below one. -/
def overNumbers (operand : Value) (wantsKey : Bool) : Build π Turning := do
  let env <- env
  let operand <-
    if env.isUntyped operand.type then convert operand (.basic .int) else pure operand
  let type := operand.type
  let count <- alloc type false
  let body <- newBlock "rangeint.body"
  let done <- newBlock "rangeint.done"
  branch (<- compare (zero env type) operand) body done
  let next <- newBlock "rangeint.loop"
  continueIn next
  let before <- load count
  let following <- simple "binop" [before, <- convert (number 1) type] type
  store count following
  branch (<- compare following operand) body done
  continueIn body
  let key <- if wantsKey then some <$> load count else pure none
  return ⟨key, none, next, done⟩

/-- The target is one. -/
def isWanted : TypedTarget π -> Bool
  | .blank => false
  | _ => true

/-- The locations of the key and the value of a turn are found before either is
written. -/
def storeTurn
    (builders : Builders π)
    (key value : TypedTarget π)
    (keyFound valueFound : Option Value) : Build π Unit := do
  let (keyLocation, _) <- builders.targetLocation key
  let (valueLocation, _) <- builders.targetLocation value
  if let some found := keyFound then
    storeAt keyLocation found
  if let some found := valueFound then
    storeAt valueLocation found

/-! ## Loops over functions -/

/-- The state in which the body can be called. -/
def readySignal : Value := number 0

/-- The state while the body runs. -/
def busySignal : Value := number (-1)

/-- The state after the loop. -/
def doneSignal : Value := number (-2)

/-- The body of a loop over a function, as a function of its own. -/
def loopBody
    (builders : Builders π)
    (slot : Slot)
    (label : Option String)
    (key value : TypedTarget π)
    (stmts : List (TypedStmt π)) : Build π Unit := do
  let names := (<- frame).routine.signature.params
  let params := names.zipIdx.map fun ((name, type), index) =>
    Value.param (if name.isEmpty then "arg" ++ toString index else name) type
  let entry := (<- frame).current
  let next <- newBlock "yield-continue"
  modifyFrame fun frame =>
    { frame with
      parameters := params
      labels := (label.map fun name => (⟨name, next, true, none, some next⟩ : Label)).toList }
  continueIn next
  setSignal slot readySignal
  act (.other "return") [truth true] none
  continueIn entry
  let body <- newBlock "yield-loop"
  let invalid <- newBlock "yield-invalid"
  let state <- load (<- addressOf slot "jump$" true)
  branch (<- compare state readySignal) body invalid
  continueIn invalid
  fail (words "yield function called after range loop exit")
  continueIn body
  setSignal slot busySignal
  builders.storeTurn key value
    (if isWanted key then params[0]? else none)
    (if isWanted value then params[1]? else none)
  withTarget ⟨none, some next, none⟩ (builders.statements stmts)
  if <- isLive then
    jump next

/-- The jump ends in a function that is around the one with a number. -/
def isBeyond (own : Nat) (exit : Exit) : Bool :=
  match exit.goal with
  | .finish level => level != own
  | .block level _ => level != own
  | .label _ => true

/-- Make the blocks of labels that were not met exits, and tell which jumps go
further out. -/
def closeExits (slot : Slot) : Build π (List Exit) := do
  let own <- level
  let exits := (<- frame).exits
  exits.filterMapM fun exit => do
    match exit.goal with
    | .label name =>
        let label <- label name
        if label.isMet then
          return none
        else
          continueIn label.start
          setSignal slot (number exit.number)
          act (.other "return") [truth false] none
          return some exit
    | _ => return if isBeyond own exit then some exit else none

/-- Go where an exit leads, after the loop. -/
def resume (exit : Exit) : Build π Unit := do
  let own <- level
  if let .label name := exit.goal then
    jump (<- label name).start
  else if isBeyond own exit then
    match (<- frame).signal with
    | some slot =>
        setSignal slot (number exit.number)
        act (.other "return") [truth false] none
    | none => failure
  else
    match exit.goal with
    | .block _ block => jump block
    | _ => finishWithResults

/-- Go on after the loop by the state in which it ended. -/
def resumeAll (slot : Slot) (exits : List Exit) (done : Nat) : Build π Unit := do
  let state <- load (<- addressOf slot "jump$" false)
  let isBusy <- newBlock "rangefunc.resume.busy"
  let ifReady <- newBlock "rangefunc.resume.ready.check"
  branch (<- compare state busySignal) isBusy ifReady
  continueIn isBusy
  fail (words "iterator call did not preserve panic")
  continueIn ifReady
  let isReady <- newBlock "rangefunc.resume.ready"
  let isExit <- newBlock "rangefunc.resume.exits"
  branch (<- compare state readySignal) isReady isExit
  continueIn isReady
  setSignal slot doneSignal
  jump done
  continueIn isExit
  exits.forM fun exit => do
    let isMatch <- newBlock "rangefunc.resume.match"
    let otherwise <- newBlock "rangefunc.resume.cnd"
    branch (<- compare state (number exit.number)) isMatch otherwise
    continueIn isMatch
    resume exit
    continueIn otherwise

/-- A loop over a function. -/
def overFunction
    (builders : Builders π)
    (label : Option String)
    (place : π)
    (operand : Value)
    (key value : TypedTarget π)
    (stmts : List (TypedStmt π)) : Build π Unit := do
  let env <- env
  let signature := ((env.core? operand.type).bind Source.Signature.ofType?).getD default
  let yieldType := (signature.params.head?.map Prod.snd).getD default
  let yieldSignature := ((env.core? yieldType).bind Source.Signature.ofType?).getD default
  let start <- newBlock "rangefunc.loop"
  let done <- newBlock "rangefunc.done"
  withTarget ⟨some done, none, none⟩ do
    modifyLabel label fun label => { label with leave := some done }
    jump start
    continueIn start
    let slot := Slot.signal (<- freshNumber)
    keepAt slot (<- alloc (.basic .int) false)
    let resultVars := (<- frame).resultVars
    let routine <- newInside yieldSignature
    enter { Frame.start routine with signal := some slot, resultVars := resultVars }
    builders.loopBody slot label key value stmts
    let exits <- closeExits slot
    let captures <- leave place
    modifyFrame fun frame => { frame with exits := frame.exits ++ exits }
    let closure <- compute (.closure routine) captures yieldSignature.type none
    let _ <- compute (.call false) [operand, closure] signature.result none
    resumeAll slot exits done
    jump done
  continueIn done

/-- A loop over something. -/
def range
    (builders : Builders π)
    (label : Option String)
    (place : π)
    (key value : TypedTarget π)
    (operandTree : Typed π)
    (stmts : List (TypedStmt π)) : Build π Unit := do
  let operand <- builders.value operandTree
  let env <- env
  let core := (env.core? operand.type).getD default
  match core with
  | .node (.func _ _ _) _ => builders.overFunction label place operand key value stmts
  | _ =>
      let wantsKey := isWanted key
      let wantsValue := isWanted value
      let turning <-
        match core with
        | .node (.channel _) _ => overChannel operand wantsKey
        | .node .map [keyType, valueType] =>
            overEntries operand keyType valueType wantsKey wantsValue
        | .node (.basic basic) _ =>
            if basic.isString then
              overEntries operand (.basic .int) (.basic .rune) wantsKey wantsValue
            else
              overNumbers operand wantsKey
        | _ => overElements operand wantsValue
      builders.storeTurn key value
        (if wantsKey then turning.key else none) turning.value
      modifyLabel label fun label =>
        { label with leave := some turning.done, next := some turning.next }
      withTarget ⟨some turning.done, some turning.next, none⟩ (builders.statements stmts)
      jump turning.next
      continueIn turning.done

/-! ## All statements -/

/-- A statement, perhaps with a label. -/
def statementAt
    (builders : Builders π)
    (label : Option String)
    (stmt : TypedStmt π) : Build π Unit := do
  match stmt with
  | .empty => return ()
  | .expression tree _ =>
      let _ <- builders.several tree
  | .send channel value =>
      let channel <- builders.value channel
      let value <- convert (<- builders.value value) (elementType (<- env) channel.type)
      act (.other "send") [channel, value] none
  | .step target upwards => builders.step target upwards
  | .assign targets values => builders.assignment targets values
  | .declare targets values => builders.declaration targets values
  | .update target operator value =>
      let location <- builders.location false target
      change location operator (<- builders.value value)
  | .spawn place tree => builders.suspended .spawn place tree
  | .postpone place tree =>
      let _ <- load (<- addressOf .postponed "defer$stack" false)
      builders.suspended .postpone place tree
      ensureRecovery
  | .finish trees => builders.finish trees
  | .jump word name => goTo word name
  | .block stmts => builders.statements stmts
  | .conditional init condition body other =>
      builders.optional init
      builders.conditional condition body other
  | .choice init tag clauses =>
      builders.optional init
      builders.choice label tag clauses
  | .typeChoice init operand clauses =>
      builders.optional init
      builders.typeChoice label operand clauses
  | .select clauses => builders.select label clauses
  | .loop init condition post body => builders.loop label init condition post body
  | .range place key value operand body => builders.range label place key value operand body
  | .labeled name body =>
      if name == "_" then
        builders.statement none body
      else
        let found <- Build.label name
        modifyLabel (some name) fun label => { label with isMet := true }
        jump found.start
        continueIn found.start
        builders.statement (some name) body

/-- The parts of making instructions, down to a depth. -/
def upTo : Nat -> Builders π
  | 0 => failing
  | depth + 1 =>
      { value := fun tree => (upTo depth).valueAt tree
        location := fun escaping tree => (upTo depth).locationAt escaping tree
        test := fun tree onTrue onFalse => (upTo depth).testAt tree onTrue onFalse
        compose := fun address type elements isZero =>
          (upTo depth).composeAt address type elements isZero
        statement := fun label stmt => (upTo depth).statementAt label stmt }

end Builders
end Flow
end CtorScan
