import CtorScan.Source.Checking.Call
import CtorScan.Source.Type.Size

/-!
# Checking calls of functions of the language

Each function has its own rules, and in each call a signature of its own, by which
its arguments are passed.
-/

namespace CtorScan
namespace Source
namespace Checkers

open Check

variable {π : Type}

/-- A call of a function of the language. -/
structure BuiltinCall (π : Type) where
  /-- The name of the function. -/
  name : String
  /-- The place of the call. -/
  place : π
  /-- The arguments as they are written. -/
  exprs : List (Expr π)
  /-- Whether the last argument is spread. -/
  spread : Bool

/-- The signature with some types of parameters and results. -/
def plainSignature (params results : List Ty) (variadic : Bool) : Signature :=
  ⟨params.map fun type => ("", type), results.map fun type => ("", type), variadic⟩

namespace BuiltinCall

/-- The call with some arguments. -/
def result
    (call : BuiltinCall π)
    (params results : List Ty)
    (variadic : Bool)
    (trees : List (Typed π)) : Operand π :=
  let signature := plainSignature params results variadic
  callResult (.builtin call.name signature.type) signature call.place trees call.spread

/-- The arguments as trees: one by one, or the call that yields all of them. -/
def trees (arguments : Arguments π) (operands : List (Operand π)) : List (Typed π) :=
  match arguments.together with
  | some tree => [tree]
  | none => operands.map Operand.tree

end BuiltinCall

/-! ## Sequences and maps -/

/-- Values are appended to a slice. -/
def append (call : BuiltinCall π) (arguments : Arguments π) : Check π (Operand π) := do
  let env <- env
  match arguments.operands with
  | [] => failure
  | first :: rest =>
      let sequence <- single first
      ensure (!sequence.isNil)
      match env.core? sequence.type with
      | some (.node .slice [element]) =>
          let bytes := call.spread && env.assignable sequence.type (.slice (.basic .byte))
          let text? :=
            match bytes, rest with
            | true, [other] =>
                match env.coreText? other.type with
                | some (.node (.basic basic) _) => if basic.isString then some other else none
                | _ => none
            | _, _ => none
          match text? with
          | some other =>
              let other <- if other.untyped?.isSome then giveDefault other else pure other
              return call.result [sequence.type, other.type] [sequence.type] true
                [sequence.tree, other.tree]
          | none =>
              let signature :=
                plainSignature [sequence.type, .slice element] [sequence.type] true
              let types <- passedAs signature arguments.operands.length call.spread
              let trees <- pass arguments types
              return call.result [sequence.type, .slice element] [sequence.type] true trees
      | _ => failure

/-- The number of elements can be asked of a type, and is part of an array type. -/
def hasLength (env : Env) (name : String) (type : Ty) : Bool :=
  match type with
  | .node (.basic basic) _ => basic.isString && name == "len"
  | .node .slice _ => true
  | .node (.channel _) _ => true
  | .node .map _ => name == "len"
  | _ => (arrayOf? env type).isSome

/-- The number of elements, or the number of elements there is room for. -/
def length (call : BuiltinCall π) (operand : Operand π) (hasCall : Bool) : Check π (Operand π) := do
  let env <- env
  ensure (env.allTerms (hasLength env call.name) operand.type)
  let fixed? :=
    match constantLength? operand with
    | some length => some length
    | none =>
        if env.isParam operand.type || hasCall then
          none
        else
          (arrayOf? env (env.underlying operand.type)).map Prod.fst
  match fixed? with
  | some length => return .ofConstant (.int length) (.basic .int)
  | none =>
      let operand <- plainValue operand
      return call.result [operand.type] [.basic .int] false [operand.tree]

/-- All elements are removed or set to zero. -/
def clear (call : BuiltinCall π) (operand : Operand π) : Check π (Operand π) := do
  let isClearable : Ty -> Bool
    | .node .slice _ => true
    | .node .map _ => true
    | _ => false
  ensure ((<- env).allTerms isClearable operand.type)
  return call.result [operand.type] [] false [operand.tree]

/-- A channel is closed. -/
def close (call : BuiltinCall π) (operand : Operand π) : Check π (Operand π) := do
  let isClosable : Ty -> Bool
    | .node (.channel channelUse) _ => channelUse != .receive
    | _ => false
  ensure ((<- env).allTerms isClosable operand.type)
  return call.result [operand.type] [] false [operand.tree]

/-- Elements are copied. -/
def copy
    (call : BuiltinCall π)
    (arguments : Arguments π)
    (target source : Operand π) : Check π (Operand π) := do
  let env <- env
  let target <- single target
  let source <- plainValue source
  let element? (type : Option Ty) : Option Ty :=
    match type with
    | some (.node .slice [element]) => some element
    | some (.node (.basic basic) _) =>
        if basic.isString then some (.basic .byte) else none
    | _ => none
  match env.core? target.type with
  | some (.node .slice [left]) =>
      match element? (env.coreText? source.type) with
      | some right =>
          ensure (env.identical left right)
          return call.result [target.type, source.type] [.basic .int] false
            (BuiltinCall.trees arguments [target, source])
      | none => failure
  | _ => failure

/-- The type of keys that all maps have that a type stands for. -/
def commonKey? (env : Env) (type : Ty) : Option Ty := do
  let keys <- (env.terms type).mapM fun
    | .node .map [key, _] => some key
    | _ => none
  match keys with
  | [] => none
  | key :: rest => if rest.all (env.identical key) then some key else none

/-- An element of a map is removed. -/
def delete
    (call : BuiltinCall π)
    (arguments : Arguments π)
    (map key : Operand π) : Check π (Operand π) := do
  let map <- single map
  match commonKey? (<- env) map.type with
  | some keyType =>
      let tree <- assign key keyType
      let trees :=
        match arguments.together with
        | some together => [together]
        | none => [map.tree, tree]
      return call.result [map.type, keyType] [] false trees
  | none => failure

/-! ## New values -/

/-- The least number of arguments after the type of a new value, and the most. -/
def makeArity? : Ty -> Option (Nat × Nat)
  | .node .slice _ => some (1, 2)
  | .node .map _ => some (0, 1)
  | .node (.channel _) _ => some (0, 1)
  | _ => none

/-- A new slice, map or channel. -/
def make (checkers : Checkers π) (call : BuiltinCall π) : Check π (Operand π) := do
  match call.exprs with
  | [] => failure
  | typeExpr :: sizeExprs =>
      let type <- checkers.ordinaryType typeExpr
      match ((<- env).core? type).bind makeArity? with
      | none => failure
      | some (least, most) =>
          ensure (least ≤ sizeExprs.length && sizeExprs.length ≤ most)
          let sizes <- sizeExprs.mapM (checkers.index none)
          match sizes.map Prod.snd with
          | [some length, some capacity] => ensure (length ≤ capacity)
          | _ => pure ()
          let trees := sizes.map Prod.fst
          return call.result (type :: trees.map Typed.type) [type] false trees

/-- A pointer to a new variable. -/
def new (checkers : Checkers π) (call : BuiltinCall π) : Check π (Operand π) := do
  match call.exprs with
  | [typeExpr] =>
      let type <- checkers.ordinaryType typeExpr
      return call.result [type] [.pointer type] false []
  | _ => failure

/-! ## Numbers -/

/-- The complex type whose parts have a type. -/
def complexOf? : Basic -> Option Basic
  | .float32 => some .complex64
  | .float64 => some .complex128
  | .untypedInt | .untypedRune | .untypedFloat => some .untypedComplex
  | _ => none

/-- The type of the parts of a complex type. -/
def partOf? : Basic -> Option Basic
  | .complex64 => some .float32
  | .complex128 => some .float64
  | .untypedInt | .untypedRune | .untypedFloat | .untypedComplex => some .untypedFloat
  | _ => none

/-- A complex number from its parts. -/
def complex
    (call : BuiltinCall π)
    (arguments : Arguments π)
    (re im : Operand π) : Check π (Operand π) := do
  let re <- single re
  let im <- single im
  let (re, im) <-
    match re.untyped?, im.untyped? with
    | some _, none => do pure (<- convertUntyped re im.type, im)
    | none, some _ => do pure (re, <- convertUntyped im re.type)
    | some _, some _ => do
        if re.isConstant && im.isConstant then
          matched re im
        else
          pure (<- convertUntyped re (.basic .float64), <- convertUntyped im (.basic .float64))
    | none, none => pure (re, im)
  let env <- env
  ensure (env.identical re.type im.type)
  match (env.basic? re.type).bind complexOf? with
  | none => failure
  | some basic =>
      match re.constant?.bind Constant.toRat?, im.constant?.bind Constant.toRat? with
      | some a, some b => return .ofConstant (.complex a b) (.basic basic)
      | _, _ =>
          return call.result [re.type, im.type] [.basic basic] false
            (BuiltinCall.trees arguments [re, im])

/-- A part of a complex number. -/
def part (call : BuiltinCall π) (operand : Operand π) : Check π (Operand π) := do
  let operand <- single operand
  let operand <-
    if operand.untyped?.isSome && !operand.isConstant then
      convertUntyped operand (.basic .complex128)
    else
      pure operand
  match ((<- env).basic? operand.type).bind partOf? with
  | none => failure
  | some basic =>
      match operand.constant?.bind Constant.toComplex? with
      | some (re, im) =>
          let value := if call.name == "real" then re else im
          return .ofConstant (.float value) (.basic basic)
      | none => return call.result [operand.type] [.basic basic] false [operand.tree]

/-- The larger or smaller of two values. -/
def extremeOf (call : BuiltinCall π) (left right : Operand π) : Check π (Operand π) := do
  let (left, right) <- matched left right
  let env <- env
  ensure (env.identical left.type right.type)
  match left.constant?, right.constant? with
  | some a, some b =>
      let operator := if call.name == "min" then "<" else ">"
      match Constant.comparison operator b a with
      | some true => return right
      | some false => return left
      | none => failure
  | _, _ => return { left with mode := .value }

/-- The largest or smallest of some values. -/
def extreme (call : BuiltinCall π) (arguments : Arguments π) : Check π (Operand π) := do
  let operands <- arguments.operands.mapM single
  let env <- env
  operands.forM fun operand => ensure (env.allBasic Basic.isOrdered operand.type)
  match operands with
  | [] => failure
  | first :: rest =>
      let best <- rest.foldlM (extremeOf call) first
      if operands.all Operand.isConstant then
        return best
      else
        let best <- giveDefault best
        let trees <- operands.mapM fun operand => do
          return (<- convertUntyped operand best.type)
        return call.result (trees.map Operand.type) [best.type] false
          (BuiltinCall.trees arguments trees)

/-! ## The rest -/

/-- The arguments are printed. -/
def print (call : BuiltinCall π) (arguments : Arguments π) : Check π (Operand π) := do
  let operands <- arguments.operands.mapM plainValue
  return call.result (operands.map Operand.type) [] false
    (BuiltinCall.trees arguments operands)

/-- The size of something in bytes, its alignment, or the offset of a field. -/
def extentConstant (value : Nat) : Operand π :=
  .ofConstant (.int value) (.basic .uintptr)

/-- The offset of a path through embedded fields. -/
def pathOffset (env : Env) : Ty -> List Nat -> Nat
  | _, [] => 0
  | type, number :: rest =>
      env.fieldOffset type number +
        match env.underlying type with
        | .node (.struct _) types => pathOffset env (types.getD number default) rest
        | _ => 0

/-- The offset of a field that is selected. -/
def offset (checkers : Checkers π) (call : BuiltinCall π) : Check π (Operand π) := do
  match call.exprs.map Expr.unparen with
  | [.selector operandExpr field] =>
      let operand <- checkers.value operandExpr
      let env <- env
      let base := (env.corePointee? operand.type).getD operand.type
      match env.select? base false (<- memberName field.text) with
      | some (.field path _ false) => return extentConstant (pathOffset env base path)
      | _ => failure
  | _ => failure

/-- The type of machine addresses. -/
def addressType : Ty := .basic .unsafePointer

/-- A count of elements. -/
def countOf (operand : Operand π) : Check π (Operand π) := do
  let operand <- convertUntyped (<- single operand) (.basic .int)
  ensure ((<- env).allBasic Basic.isInteger operand.type)
  match operand.constant?.bind Constant.toInt? with
  | some number => ensure (0 ≤ number)
  | none => pure ()
  return operand

/-- An operation of the package of machine addresses that is no constant. -/
def addressCall
    (call : BuiltinCall π)
    (arguments : Arguments π) : Check π (Operand π) := do
  let env <- env
  match call.name, arguments.operands with
  | "unsafe.Add", [pointer, count] =>
      let tree <- assign pointer addressType
      let count <- convertUntyped (<- single count) (.basic .int)
      ensure (env.allBasic Basic.isInteger count.type)
      return call.result [addressType, count.type] [addressType] false [tree, count.tree]
  | "unsafe.Slice", [pointer, count] =>
      let pointer <- single pointer
      let count <- countOf count
      match env.corePointee? pointer.type with
      | some element =>
          return call.result [pointer.type, count.type] [.slice element] false
            [pointer.tree, count.tree]
      | none => failure
  | "unsafe.String", [pointer, count] =>
      let tree <- assign pointer (.pointer (.basic .byte))
      let count <- countOf count
      return call.result [.pointer (.basic .byte), count.type] [.basic .string] false
        [tree, count.tree]
  | "unsafe.StringData", [text] =>
      let tree <- assign text (.basic .string)
      return call.result [.basic .string] [.pointer (.basic .byte)] false [tree]
  | "unsafe.SliceData", [sequence] =>
      let sequence <- single sequence
      match env.core? sequence.type with
      | some (.node .slice [element]) =>
          return call.result [sequence.type] [.pointer element] false [sequence.tree]
      | _ => failure
  | _, _ => failure

/-- A call of a function of the language on its values. -/
def builtinOn
    (call : BuiltinCall π)
    (arguments : Arguments π)
    (hasCall : Bool) : Check π (Operand π) := do
  match call.name, arguments.operands with
  | "append", _ => append call arguments
  | "len", [operand] => length call operand hasCall
  | "cap", [operand] => length call operand hasCall
  | "clear", [operand] => clear call (<- single operand)
  | "close", [operand] => close call (<- single operand)
  | "complex", [re, im] => complex call arguments re im
  | "copy", [target, source] => copy call arguments target source
  | "delete", [map, key] => delete call arguments map key
  | "real", [operand] => part call operand
  | "imag", [operand] => part call operand
  | "max", _ :: _ => extreme call arguments
  | "min", _ :: _ => extreme call arguments
  | "panic", [operand] =>
      let tree <- assign operand .empty
      return call.result [.empty] [] false [tree]
  | "print", _ => print call arguments
  | "println", _ => print call arguments
  | "recover", [] => return call.result [] [.empty] false []
  | "unsafe.Sizeof", [operand] =>
      let operand <- plainValue operand
      return extentConstant ((<- env).extent operand.type).size
  | "unsafe.Alignof", [operand] =>
      let operand <- plainValue operand
      return extentConstant ((<- env).extent operand.type).alignment
  | _, _ => addressCall call arguments

/-- A call of a function of the language. -/
def builtin (checkers : Checkers π) (call : BuiltinCall π) : Check π (Operand π) := do
  ensure (!call.spread || call.name == "append")
  let operand <-
    match call.name with
    | "make" => checkers.make call
    | "new" => checkers.new call
    | "unsafe.Offsetof" => checkers.offset call
    | _ => do
        let (arguments, hasCall) <- watchCalls (checkers.arguments call.exprs)
        builtinOn call arguments hasCall
  unless operand.isConstant do noteCall
  return operand

end Checkers
end Source
end CtorScan
