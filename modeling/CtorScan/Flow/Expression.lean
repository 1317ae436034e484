import CtorScan.Flow.Emit
import CtorScan.Flow.Routine

/-!
# Expressions as instructions

The parts of making instructions refer to each other, and so each of them is given
the others for one level of nesting less.
-/

namespace CtorScan
namespace Flow

open Source

variable {π : Type}

/-- The parts of making instructions, for the trees inside the one at hand. -/
structure Builders (π : Type) where
  /-- The value of an expression. -/
  value : Typed π -> Build π Value
  /-- The location of an expression, whose address may become known elsewhere. -/
  location : Bool -> Typed π -> Build π Build.Location
  /-- Branch by an expression. -/
  test : Typed π -> Nat -> Nat -> Build π Unit
  /-- Put the elements of a composite value of a type at an address, at which there
  may be zeros already. -/
  compose : Value -> Ty -> List (TypedElement π) -> Bool -> Build π Build.Pending
  /-- A statement, perhaps with a label. -/
  statement : Option String -> TypedStmt π -> Build π Unit

/-- The parts of making instructions for no depth at all. -/
def Builders.failing : Builders π where
  value := fun _ => failure
  location := fun _ _ => failure
  test := fun _ _ _ => failure
  compose := fun _ _ _ _ => failure
  statement := fun _ _ => failure

/-- An expression has an address. -/
def hasAddress (env : Env) : Typed π -> Bool
  | .variable_ _ => true
  | .global _ _ => true
  | .deref _ _ => true
  | .field operand route _ => route.indirect || hasAddress env operand
  | .index operand _ _ =>
      let terms := env.terms operand.type
      let isBehind : Ty -> Bool
        | .node .slice _ => true
        | .node .pointer _ => true
        | _ => false
      let isArray : Ty -> Bool
        | .node (.array _) _ => true
        | _ => false
      !terms.isEmpty &&
        terms.all fun term => isBehind term || (isArray term && hasAddress env operand)
  | _ => false

namespace Builders

open Build

/-! ## Locations -/

/-- The value, or its address, that a field or method is selected from. -/
def receiver
    (builders : Builders π)
    (operand : Typed π)
    (path : List Nat)
    (indirect wantAddress escaping : Bool) : Build π Value := do
  let env <- env
  let start <-
    if wantAddress && !indirect && !isPointerCore env operand.type then do
      addressAt (<- builders.location escaping operand)
    else
      builders.value operand
  let found <- throughFields start path
  if !env.isInterface found.type && !wantAddress && isPointerCore env found.type then
    load found
  else
    return found

/-- An index; one without a type of its own is a whole number. -/
def indexValue (builders : Builders π) (index : Typed π) : Build π Value := do
  let value <- builders.value index
  if (<- env).isUntyped value.type then convert value (.basic .int) else return value

/-- The location of an element. -/
def elementLocation
    (builders : Builders π)
    (escaping : Bool)
    (operand index : Typed π)
    (type : Ty) : Build π Location := do
  match (<- env).core? operand.type with
  | some (.node .map [key, element]) =>
      let map <- builders.value operand
      let key <- convert (<- builders.value index) key
      return .entry map key element
  | some (.node (.array _) _) =>
      let base <- addressAt (<- builders.location escaping operand)
      return .element base (<- builders.indexValue index) type
  | _ =>
      let base <- builders.value operand
      return .element base (<- builders.indexValue index) type

/-- The location of an expression. -/
def locationAt (builders : Builders π) (escaping : Bool) (tree : Typed π) : Build π Location := do
  match tree with
  | .variable_ var => return .cell (<- variableAddress var escaping)
  | .global index type =>
      let name := ((<- env).globals.getD index default).name
      return .cell (.global name (.pointer type))
  | .composite type elements =>
      let base := pointed (<- env) type
      let address <- alloc base escaping
      flush (<- builders.compose address base elements true)
      return .cell address
  | .field operand route _ =>
      let address <-
        builders.receiver operand route.path.dropLast route.indirect true escaping
      return .field address (route.path.getLast?.getD 0)
  | .index operand index type => builders.elementLocation escaping operand index type
  | .deref operand _ => return .cell (<- builders.value operand)
  | _ => failure

/-! ## Assignments -/

/-- Assign an expression to a location, at which there may be zeros already: what is
left to write.  A composite value is put in its place element by element. -/
def assign
    (builders : Builders π)
    (location : Location)
    (tree : Typed π)
    (isZero : Bool) : Build π Pending := do
  let env <- env
  match tree with
  | .composite type elements =>
      let target := location.type env
      if !location.isBlank && isPointerCore env target then
        let address <- addressAt (<- builders.location true tree)
        return [(location, address)]
      else if location.isCell && !env.isPlainInterface target then
        builders.compose (<- addressAt location) (pointed env type) elements isZero
      else
        return [(location, <- builders.value tree)]
  | _ => return [(location, <- builders.value tree)]

/-- Assign at once. -/
def assignNow
    (builders : Builders π)
    (location : Location)
    (tree : Typed π)
    (isZero : Bool) : Build π Unit := do
  flush (<- builders.assign location tree isZero)

/-! ## Composite values -/

/-- Write zeros first if not all parts are given. -/
def cleared (address : Value) (isZero : Bool) (given size : Nat) : Build π Pending := do
  if !isZero && given != size then
    let env <- env
    return [(.cell address, zero env (pointed env address.type))]
  else
    return []

/-- The elements of a structure. -/
def composeFields
    (builders : Builders π)
    (address : Value)
    (isZero : Bool) : List (TypedElement π) -> Build π Pending
  | [] => return []
  | .at index value :: rest => do
      let field <- fieldAddress address index
      let first <- builders.assign (.cell field) value isZero
      return first ++ (<- builders.composeFields address isZero rest)
  | .under _ _ :: _ => failure

/-- The elements of an array; those behind a slice are written at once. -/
def composeElements
    (builders : Builders π)
    (address : Value)
    (type : Ty)
    (atOnce : Bool) : List (TypedElement π) -> Build π Pending
  | [] => return []
  | .at index value :: rest => do
      let element <- simple "indexaddr" [address, number index] (.pointer type)
      let first <- builders.assign (.cell element) value true
      if atOnce then
        flush first
        builders.composeElements address type atOnce rest
      else
        return first ++ (<- builders.composeElements address type atOnce rest)
  | .under _ _ :: _ => failure

/-- The entries of a map. -/
def composeEntries
    (builders : Builders π)
    (map : Value)
    (keyType valueType : Ty) : List (TypedElement π) -> Build π Unit
  | [] => return ()
  | .under key value :: rest => do
      let env <- env
      let keyValue <-
        match key with
        | .composite _ _ => do
            if isPointerCore env keyType then
              addressAt (<- builders.location true key)
            else
              builders.value key
        | _ => builders.value key
      let keyValue <- convert keyValue keyType
      builders.assignNow (.entry map keyValue valueType) value true
      builders.composeEntries map keyType valueType rest
  | .at _ _ :: _ => failure

/-- The number of elements that a slice needs. -/
def neededLength (elements : List (TypedElement π)) : Nat :=
  elements.foldl (fun length element =>
    match element with
    | .at index _ => max length (index + 1)
    | .under _ _ => length) 0

/-- Put the elements of a composite value of a type at an address. -/
def composeAt
    (builders : Builders π)
    (address : Value)
    (type : Ty)
    (elements : List (TypedElement π))
    (isZero : Bool) : Build π Pending := do
  match (<- env).core? type with
  | some (.node (.struct fields) _) =>
      let zeros <- cleared address isZero elements.length fields.length
      let rest <- builders.composeFields address (isZero || !zeros.isEmpty) elements
      return zeros ++ rest
  | some (.node (.array length) [element]) =>
      let zeros <- cleared address isZero elements.length length
      return zeros ++ (<- builders.composeElements address element false elements)
  | some (.node .slice [element]) =>
      let array <- alloc (.array (neededLength elements) element) true
      let _ <- builders.composeElements array element true elements
      let slice <- simple "slice" [array] type
      return [(.cell address, slice)]
  | some (.node .map [key, value]) =>
      let map <- simple "makemap" [number elements.length] type
      builders.composeEntries map key value elements
      return [(.cell address, map)]
  | _ => failure

/-! ## Conditions -/

/-- The written form of a constant that connects truth values, or the expression
itself. -/
def shapeOf : Typed π -> Typed π
  | .constant _ _ (some shape) => shape
  | other => other

/-- Branch by an expression. -/
def testAt (builders : Builders π) (tree : Typed π) (onTrue onFalse : Nat) : Build π Unit := do
  match shapeOf tree with
  | .binary "&&" left right _ =>
      let next <- newBlock "cond.true"
      builders.test left next onFalse
      continueIn next
      builders.test right onTrue onFalse
  | .binary "||" left right _ =>
      let next <- newBlock "cond.false"
      builders.test left onTrue next
      continueIn next
      builders.test right onTrue onFalse
  | .unary "!" operand _ => builders.test operand onFalse onTrue
  | _ => branch (<- builders.value tree) onTrue onFalse

/-- A connection of two truth values, where the second one may not be needed. -/
def connection
    (builders : Builders π)
    (isAnd : Bool)
    (left right : Typed π)
    (type : Ty) : Build π Value := do
  let next <- newBlock "binop.rhs"
  let done <- newBlock "binop.done"
  if isAnd then
    builders.test left next done
  else
    builders.test left done next
  continueIn next
  let found <- builders.value right
  jump done
  continueIn done
  compute .phi [.constant (some (.bool !isAnd)) type, found] type none

/-! ## Operations -/

/-- An operation with one operand. -/
def unary
    (builders : Builders π)
    (operator : String)
    (operand : Typed π)
    (type : Ty) : Build π Value := do
  if operator == "+" then
    builders.value operand
  else
    simple "unop" [<- builders.value operand] type

/-- An operation with two operands. -/
def binary
    (builders : Builders π)
    (operator : String)
    (left right : Typed π)
    (type : Ty) : Build π Value := do
  match operator with
  | "&&" => builders.connection true left right type
  | "||" => builders.connection false left right type
  | _ =>
      let leftValue <- builders.value left
      let rightValue <- builders.value right
      if Typed.comparisons.contains operator then
        let found <- compare leftValue rightValue
        let final :=
          match type with
          | .node (.basic basic) _ => .basic basic.default
          | other => other
        convert found final
      else
        arithmetic operator leftValue rightValue type

/-- The address of something.  Taking it of what a pointer points to reads that. -/
def address (builders : Builders π) (operand : Typed π) : Build π Value := do
  let location <- builders.location true operand
  match operand with
  | .deref _ _ =>
      let _ <- loadAt location
      addressAt location
  | _ => addressAt location

/-- A part of a sequence. -/
def slice
    (builders : Builders π)
    (operand : Typed π)
    (low high max : Option (Typed π))
    (type : Ty) : Build π Value := do
  let base <-
    match (<- env).core? operand.type with
    | some (.node (.array _) _) => do addressAt (<- builders.location true operand)
    | _ => builders.value operand
  let bounds <- ([low, high, max].filterMap id).mapM builders.value
  simple "slice" (base :: bounds) type

/-- An element of something without an address. -/
def element
    (builders : Builders π)
    (operand index : Typed π)
    (type : Ty) : Build π Value := do
  match (<- env).core? operand.type with
  | some (.node .map [key, found]) =>
      let map <- builders.value operand
      let key <- convert (<- builders.value index) key
      simple "lookup" [map, key] found
  | _ =>
      let index <- builders.indexValue index
      simple "index" [<- builders.value operand, index] type

/-! ## Functions as values -/

/-- Make sure that there is something in a value of an interface whose method is
used. -/
def checkReceiver (operand : Typed π) (found : Value) (owner : Ty) : Build π Unit := do
  let env <- env
  if env.isInterface owner then
    if env.isParam operand.type then
      if (env.terms operand.type).isEmpty then
        let converted <- convert found .empty
        let _ <- simple "typeassert" [converted] .empty
    else
      let _ <- simple "typeassert" [found] owner

/-- A method that is fixed to a receiver. -/
def methodValue
    (builders : Builders π)
    (operand : Typed π)
    (target : MethodTarget)
    (route : Route)
    (type : Ty) : Build π Value := do
  let env <- env
  let owner := Routine.targetReceiver env target
  let wantAddress := env.isPointer owner
  let found <- builders.receiver operand route.path route.indirect wantAddress true
  checkReceiver operand found owner
  let routine := Routine.bound env (<- freshNumber) target type
  compute (.closure routine) [found] type none

/-- The parameters of a function, kept at addresses if they have names. -/
def parameters (vars : List Var) : Build π Unit :=
  vars.forM fun var => do
    let count := (<- frame).parameters.length
    let name := if var.name.isEmpty then "arg" ++ toString count else var.name
    let value := Value.param name var.type
    modifyFrame fun frame => { frame with parameters := frame.parameters ++ [value] }
    unless var.name.isEmpty do
      let address <- newVariable var
      act .store [address, value] none

/-- The results of a function, kept at addresses. -/
def results (vars : List Var) : Build π Unit := do
  let addresses <- vars.mapM newVariable
  modifyFrame fun frame => { frame with results := addresses, resultVars := vars }

/-- Something to keep the calls that are left for the end. -/
def keepPostponed : Build π Unit := do
  let type := Ty.pointer (.struct [] [])
  let call <- compute (.call false) [.builtin "deferstack" default] type none
  let address <- alloc type false
  keepAt .postponed address
  store address call
  match call, address with
  | .register callNumber _, .register number _ =>
      modifyFrame fun frame => { frame with postponed := some (callNumber, number) }
  | _, _ => pure ()

/-- The block at hand can be reached. -/
def isLive : Build π Bool := do
  let frame <- frame
  return frame.current == 0 || frame.recovery == some frame.current ||
    frame.blocks.any fun block => block.successors.contains frame.current

/-- The body of a function in the making. -/
def body
    (builders : Builders π)
    (params resultVars : List Var)
    (stmts : List (TypedStmt π)) : Build π Unit := do
  parameters params
  results resultVars
  keepPostponed
  stmts.forM (builders.statement none)
  if <- isLive then
    act .runPostponed [] none
    act (.other "return") [] none

/-- A new function inside of the one at hand. -/
def newInside (signature : Source.Signature) : Build π Routine := do
  let outer <- frame
  modifyFrame fun frame => { frame with innerCount := frame.innerCount + 1 }
  return Routine.inside outer.routine (outer.innerCount + 1) signature

/-- A function with its body.  It is made at once, since it may use variables of the
functions around. -/
def closure
    (builders : Builders π)
    (place : π)
    (type : Ty)
    (params resultVars : List Var)
    (stmts : List (TypedStmt π)) : Build π Value := do
  let routine <- newInside ((Source.Signature.ofType? type).getD default)
  enter (Frame.start routine)
  builders.body params resultVars stmts
  let captures <- leave place
  if captures.isEmpty then
    return .routine routine
  else
    compute (.closure routine) captures type none

end Builders
end Flow
end CtorScan
