import CtorScan.Flow.Expression

/-!
# Calls as instructions
-/

namespace CtorScan
namespace Flow
namespace Builders

open Source
open Build

variable {π : Type}

/-- What is called: a value, or a method of one; and the arguments so far. -/
structure Callee where
  /-- The value. -/
  value : Value
  /-- Whether a method of it is invoked. -/
  invoked : Bool
  /-- The arguments so far. -/
  arguments : List Value

/-- The called function, with the receiver of a method. -/
def callee (builders : Builders π) (function : Typed π) : Build π Callee := do
  match function with
  | .methodValue operand target route _ =>
      let env <- env
      let owner := Routine.targetReceiver env target
      let found <-
        builders.receiver operand route.path route.indirect (env.isPointer owner) true
      match target with
      | .declared index args =>
          let routine <- firstUse (Routine.method env index args)
          return ⟨.routine routine, false, [found]⟩
      | .required _ _ => return ⟨found, true, []⟩
  | _ => return ⟨<- builders.value function, false, []⟩

/-- The values of arguments; a call that yields several is taken apart. -/
def argumentValues (builders : Builders π) : List (Typed π) -> Build π (List Value)
  | [] => return []
  | tree :: rest => do
      let value <- builders.value tree
      let values <-
        match value.type with
        | .node .tuple types => (List.range types.length).mapM (extract value)
        | _ => pure [value]
      return values ++ (<- builders.argumentValues rest)

/-- Convert values to types at the same positions. -/
def converted : List Value -> List Ty -> Build π (List Value)
  | value :: values, type :: types => do
      let first <- convert value type
      return first :: (<- converted values types)
  | _, _ => return []

/-- A slice of the values that any number of arguments stand for. -/
def gathered (values : List Value) (type : Ty) : Build π Value := do
  let env <- env
  let element :=
    match type with
    | .node .slice [element] => element
    | _ => default
  if values.isEmpty then
    return zero env type
  else
    let array <- alloc (.array values.length element) true
    values.zipIdx.forM fun (value, index) => do
      let address <- simple "indexaddr" [array, number index] (.pointer element)
      store address value
    simple "slice" [array] type

/-- The arguments of a call by a signature. -/
def arguments
    (builders : Builders π)
    (signature : Source.Signature)
    (trees : List (Typed π))
    (spread : Bool) : Build π (List Value) := do
  let types := signature.params.map Prod.snd
  if spread then
    (trees.zip types).mapM fun (tree, type) => do convert (<- builders.value tree) type
  else
    let values <- builders.argumentValues trees
    if signature.variadic then
      let count := types.length - 1
      let fixed <- converted (values.take count) (types.take count)
      let rest <- gathered (values.drop count) (types.getLast?.getD default)
      return fixed ++ [rest]
    else
      converted values types

/-- What is called, with all its arguments. -/
def fullCall
    (builders : Builders π)
    (function : Typed π)
    (signature : Ty)
    (trees : List (Typed π))
    (spread : Bool) : Build π Callee := do
  let found <- builders.callee function
  let signature := (Source.Signature.ofType? ((<- env).core? signature |>.getD signature)).getD
    default
  let arguments <- builders.arguments signature trees spread
  return { found with arguments := found.arguments ++ arguments }

/-- The called function never returns. -/
def isEndless (state : BuildState π) : Value -> Bool
  | .routine routine => routine.subject.any state.endless.contains
  | _ => false

/-- A call whose value has a type.  After one that never returns, nothing can be
reached. -/
def plainCall
    (builders : Builders π)
    (function : Typed π)
    (signature : Ty)
    (place : π)
    (trees : List (Typed π))
    (spread : Bool)
    (type : Ty) : Build π Value := do
  let found <- builders.fullCall function signature trees spread
  let result <-
    compute (.call found.invoked) (found.value :: found.arguments) type (some place)
  if !found.invoked && isEndless (<- get) found.value then
    fail (words "noreturn")
    continueIn (<- newBlock "unreachable.noreturn")
  return result

/-- The making of a slice, map or channel. -/
def make (builders : Builders π) (sizes : List (Typed π)) (type : Ty) : Build π Value := do
  let values <- sizes.mapM builders.value
  match (<- env).core? type, values with
  | some (.node .slice [element]), length :: rest =>
      match rest.headD length with
      | .constant (some capacity) _ =>
          let size := (capacity.toInt?.getD 0).toNat
          let array <- alloc (.array size element) true
          simple "slice" [array, length] type
      | room => simple "makeslice" [length, room] type
  | some (.node .map _), _ => simple "makemap" values type
  | some (.node (.channel _) _), _ => simple "makechan" values type
  | _, _ => failure

/-- The length of the array that something is or points to. -/
def arrayLength? (env : Env) (type : Ty) : Option Nat :=
  match env.core? (pointed env type) with
  | some (.node (.array length) _) => some length
  | _ => none

/-- A call. -/
def call
    (builders : Builders π)
    (function : Typed π)
    (signature : Ty)
    (place : π)
    (trees : List (Typed π))
    (spread : Bool)
    (type : Ty) : Build π Value := do
  let plain := builders.plainCall function signature place trees spread type
  match function, trees with
  | .builtin "make" _, _ => builders.make trees type
  | .builtin "new" _, _ => do alloc (pointed (<- env) type) true
  | .builtin "panic" _, [tree] =>
      fail (<- builders.value tree)
      continueIn (<- newBlock "unreachable")
      return truth true
  | .builtin name _, [tree] =>
      match name == "len" || name == "cap", arrayLength? (<- env) tree.type with
      | true, some length =>
          let _ <- builders.value tree
          return number length
      | _, _ => plain
  | _, _ => plain

/-! ## All expressions -/

/-- The value of an expression that yields several. -/
def several (builders : Builders π) (tree : Typed π) : Build π Value := do
  match tree with
  | .checked (.index operand index _) type =>
      let map <- builders.value operand
      let key <-
        match (<- env).core? operand.type with
        | some (.node .map [keyType, _]) => do convert (<- builders.value index) keyType
        | _ => builders.value index
      simple "lookup" [map, key] type
  | .checked (.assertion operand _) type =>
      simple "typeassert" [<- builders.value operand] type
  | .checked (.unary _ operand _) type => simple "unop" [<- builders.value operand] type
  | other => builders.value other

/-- The value of an expression. -/
def valueAt (builders : Builders π) (tree : Typed π) : Build π Value := do
  let env <- env
  if hasAddress env tree then
    loadAt (<- builders.location false tree)
  else
    match tree with
    | .constant value type _ => return .constant (some value) type
    | .nil => return .constant none (.basic .untypedNil)
    | .function index args _ => return .routine (<- firstUse (Routine.declared env index args))
    | .builtin name type => return .builtin name type
    | .closure place type params results body =>
        builders.closure place type params results body
    | .composite _ _ => loadAt (<- builders.location false tree)
    | .field operand route _ =>
        let start <- builders.value operand
        throughFields start route.path
    | .methodValue operand target route type =>
        builders.methodValue operand target route type
    | .methodOf receiver target _ type =>
        return .routine (Routine.unbound env (<- freshNumber) receiver target type)
    | .index operand index type => builders.element operand index type
    | .slice operand low high max type => builders.slice operand low high max type
    | .assertion operand type => simple "typeassert" [<- builders.value operand] type
    | .conversion operand type => convert (<- builders.value operand) type
    | .call function signature place arguments spread type =>
        builders.call function signature place arguments spread type
    | .address operand _ => builders.address operand
    | .unary operator operand type => builders.unary operator operand type
    | .binary operator left right type => builders.binary operator left right type
    | .checked _ _ => builders.several tree
    | _ => failure

end Builders
end Flow
end CtorScan
