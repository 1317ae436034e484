import CtorScan.Source.Checking.Operand

/-!
# Checking operations

Names, written values, and operations with one or two operands.
-/

namespace CtorScan
namespace Source
namespace Checkers

open Check

variable {π : Type}

/-! ## Names and written values -/

/-- What an object is as an expression. -/
def objectOperand : Object -> Check π (Operand π)
  | .typeName declaration => do
      let declared <- ask fun env => env.typeDecl declaration
      if declared.params.isEmpty then
        return .ofType (<- objectType (.typeName declaration))
      else
        return ⟨.genericType declaration, default, .nil⟩
  | .basicType basic => return .ofType (.basic basic)
  | .typeParam id => return .ofType (.param id)
  | .constant value type => return .ofConstant value type
  | .iota => do
      match (<- get).iota with
      | some number => return .ofConstant (.int number) (.basic .untypedInt)
      | none => failure
  | .variable_ var => do
      use var
      return ⟨.place, var.type, .variable_ var⟩
  | .global index => do
      depend (.global index)
      let type <- ask fun env => (env.globals.getD index default).type
      return ⟨.place, type, .global index type⟩
  | .function index => do
      depend (.function index)
      let callable <- ask fun env => env.callable index
      if callable.typeParams.isEmpty then
        return .ofValue (.function index [] callable.signature.type)
      else
        return ⟨.generic index [], callable.signature.type, .nil⟩
  | .builtin name => return ⟨.builtin name, default, .nil⟩
  | .nil => return ⟨.nil, .basic .untypedNil, .nil⟩
  | .package _ => failure

/-- The exponents beyond which a written number is refused. -/
def exponentLimit : Nat := 100000

/-- A written number whose exponent is not excessive. -/
def numberParts (text : String) : Check π NumberParts := do
  let parts := NumberParts.ofText text.toList
  ensure (decide ((Constant.exponentValue (parts.exponent.drop 1)).natAbs ≤ exponentLimit))
  return parts

/-- A written value. -/
def literal (kind : LiteralKind) (text : String) : Check π (Operand π) := do
  match kind with
  | .integer =>
      let value := Constant.ofParts (<- numberParts text)
      ensure value.isModest
      return .ofConstant value (.basic .untypedInt)
  | .decimal => return .ofConstant (.ofParts (<- numberParts text)) (.basic .untypedFloat)
  | .imaginary =>
      return .ofConstant (.ofImaginary (<- numberParts text)) (.basic .untypedComplex)
  | .char =>
      match charCode? text with
      | some code => return .ofConstant (.int code) (.basic .untypedRune)
      | none => failure
  | .string =>
      match stringBytes? text with
      | some bytes => return .ofConstant (.string bytes) (.basic .untypedString)
      | none => failure

/-! ## Single values -/

/-- An expression that stands for one value. -/
def value (checkers : Checkers π) (expr : Expr π) : Check π (Operand π) := do
  single (<- checkers.operand none expr)

/-- The result of an operation on constants, if its type can hold it. -/
def constantResult (value : Constant) (type : Ty) : Check π (Operand π) := do
  let env <- env
  if env.isUntyped type then
    ensure value.isModest
    match env.basic? type with
    | some basic => return .ofConstant ((value.as? basic).getD value) type
    | none => failure
  else
    match (env.basic? type).bind value.as? with
    | some rounded => return .ofConstant rounded type
    | none => failure

/-- How an operation on truth values was written. -/
def withShape (shape : Typed π) (operand : Operand π) : Operand π :=
  match operand.tree with
  | .constant value type _ => { operand with tree := .constant value type (some shape) }
  | _ => operand

/-! ## One operand -/

/-- The types that an operator with one operand takes. -/
def unaryTakes (operator : String) (basic : Basic) : Bool :=
  match operator with
  | "+" | "-" => basic.isNumeric
  | "^" => basic.isInteger
  | "!" => basic.isBoolean
  | _ => false

/-- An operation on one constant. -/
def unaryConstant? (operator : String) (basic : Basic) (value : Constant) : Option Constant :=
  match operator, value with
  | "+", _ => some value
  | "-", _ => value.negated
  | "!", .bool truth => some (.bool !truth)
  | "^", .int number =>
      match basic.isUnsigned, basic.bounds? with
      | true, some (_, most) => some (.int (most - number))
      | _, _ => some (.int (Number.complement number))
  | _, _ => none

/-- The address of something. -/
def addressOf (checkers : Checkers π) (expr : Expr π) : Check π (Operand π) := do
  let operand <- checkers.value expr
  let isComposite :=
    match expr.unparen with
    | .composite _ _ => true
    | _ => false
  ensure (isComposite || operand.isPlace)
  return .ofValue (.address operand.tree (.pointer operand.type))

/-- A value received from a channel. -/
def received (checkers : Checkers π) (expr : Expr π) : Check π (Operand π) := do
  let operand <- checkers.value expr
  noteCall
  match (<- env).core? operand.type with
  | some (.node (.channel channelUse) [element]) =>
      ensure (channelUse != .send)
      return ⟨.checkable, element, .unary "<-" operand.tree element⟩
  | _ => failure

/-- An operation with one operand. -/
def unary (checkers : Checkers π) (operator : String) (expr : Expr π) : Check π (Operand π) := do
  match operator with
  | "&" => checkers.addressOf expr
  | "<-" => checkers.received expr
  | _ =>
      let operand <- checkers.value expr
      let env <- env
      ensure (env.allBasic (unaryTakes operator) operand.type)
      match operand.constant? with
      | some value =>
          match (env.basic? operand.type).bind fun basic =>
              unaryConstant? operator basic value with
          | some result =>
              let result <- constantResult result operand.type
              return if operator == "!" then
                withShape (.unary operator operand.tree operand.type) result
              else
                result
          | none => failure
      | none =>
          return if operator == "+" then operand.asValue
            else .ofValue (.unary operator operand.tree operand.type)

/-! ## Two operands -/

/-- The types that an operator with two operands takes. -/
def binaryTakes (operator : String) (basic : Basic) : Bool :=
  match operator with
  | "+" => basic.isNumeric || basic.isString
  | "-" | "*" | "/" => basic.isNumeric
  | "%" | "&" | "|" | "^" | "&^" => basic.isInteger
  | "&&" | "||" => basic.isBoolean
  | _ => false

/-- One of two operands may be converted to the type of the other. -/
def mayConvert (env : Env) (left right : Operand π) : Bool :=
  if env.isPlainInterface left.type || env.isPlainInterface right.type then
    true
  else if env.allBasic Basic.isBoolean left.type != env.allBasic Basic.isBoolean right.type then
    false
  else if env.allBasic Basic.isString left.type != env.allBasic Basic.isString right.type then
    false
  else if left.isNil then
    env.hasNil right.type
  else if right.isNil then
    env.hasNil left.type
  else
    !env.isPointer left.type && !env.isPointer right.type

/-- Operands of which one may have no type of its own get a type in common. -/
def matched (left right : Operand π) : Check π (Operand π × Operand π) := do
  let env <- env
  if left.untyped?.isNone && right.untyped?.isNone then
    return (left, right)
  else if mayConvert env left right then
    let left <- convertUntyped left right.type
    let right <- convertUntyped right left.type
    return (left, right)
  else
    return (left, right)

/-- A comparison of two operands. -/
def comparison (operator : String) (left right : Operand π) : Check π (Operand π) := do
  let env <- env
  ensure (isAssignable env left right.type || isAssignable env right left.type)
  if operator == "==" || operator == "!=" then
    if left.isNil || right.isNil then
      ensure (env.hasNil (if left.isNil then right.type else left.type))
    else
      ensure (env.isComparable left.type && env.isComparable right.type)
  else
    ensure (env.allBasic Basic.isOrdered left.type && env.allBasic Basic.isOrdered right.type)
  match left.constant?, right.constant? with
  | some a, some b =>
      match Constant.comparison operator a b with
      | some truth => return .ofConstant (.bool truth) (.basic .untypedBool)
      | none => failure
  | _, _ =>
      let final (operand : Operand π) : Check π (Operand π) :=
        if operand.isNil then pure operand else giveDefault operand
      let left <- final left
      let right <- final right
      return .ofValue (.binary operator left.tree right.tree (.basic .untypedBool))

/-- The count of a shift by a constant. -/
def shiftCount (env : Env) (operand : Operand π) (value : Constant) : Check π Unit := do
  match value.toInt? with
  | none => failure
  | some count =>
      ensure (0 ≤ count)
      if operand.untyped?.isSome then
        ensure (value.as? .uint).isSome
      else
        ensure (env.allBasic Basic.isInteger operand.type)

/-- The largest count of a shift of a constant. -/
def shiftLimit : Nat := 1074

/-- A shift. -/
def shift (operator : String) (left right : Operand π) : Check π (Operand π) := do
  let env <- env
  let whole? := left.constant?.bind Constant.toInt?
  ensure (env.allBasic Basic.isInteger left.type ||
    (left.untyped?.isSome && whole?.isSome))
  let right <-
    match right.constant? with
    | some count =>
        shiftCount env right count
        pure right
    | none =>
        if right.untyped?.isSome then
          convertUntyped right (.basic .uint)
        else
          ensure (env.allBasic Basic.isInteger right.type)
          pure right
  match left.constant?, right.constant?.bind Constant.toInt? with
  | some _, some count =>
      ensure (count ≤ shiftLimit)
      let type :=
        if env.isBasicWith Basic.isInteger left.type then left.type else .basic .untypedInt
      match whole?.bind fun whole => Constant.shifted operator whole count.toNat with
      | some result => constantResult (.int result) type
      | none => failure
  | some _, none =>
      let type := left.type
      unless left.untyped?.isSome do
        ensure (env.allBasic Basic.isInteger type)
      return .ofValue (.binary operator left.tree right.tree type)
  | none, _ =>
      ensure (env.allBasic Basic.isInteger left.type)
      return .ofValue (.binary operator left.tree right.tree left.type)

/-- The divisor is not a constant that is zero. -/
def divides (env : Env) (operator : String) (left right : Operand π) : Bool :=
  if operator == "/" || operator == "%" then
    match right.constant? with
    | some value =>
        !((left.isConstant || env.allBasic Basic.isInteger left.type) && value.isZero)
    | none => true
  else
    true

/-- An operation on two operands of one type. -/
def arithmetic (operator : String) (left right : Operand π) : Check π (Operand π) := do
  let env <- env
  ensure (env.identical left.type right.type)
  ensure (env.allBasic (binaryTakes operator) left.type)
  ensure (divides env operator left right)
  let tree := Typed.binary operator left.tree right.tree left.type
  match left.constant?, right.constant? with
  | some a, some b =>
      let whole := env.isBasicWith Basic.isInteger left.type
      match Constant.operation operator whole a b with
      | some result =>
          let result <- constantResult result left.type
          return if operator == "&&" || operator == "||" then withShape tree result else result
      | none => failure
  | _, _ => return .ofValue tree

/-- An operation on two operands. -/
def binaryOperands (operator : String) (left right : Operand π) : Check π (Operand π) := do
  if Typed.shifts.contains operator then
    shift operator left right
  else
    let (left, right) <- matched left right
    if Typed.comparisons.contains operator then
      comparison operator left right
    else
      arithmetic operator left right

/-- An operation with two operands. -/
def binary
    (checkers : Checkers π)
    (operator : String)
    (left right : Expr π) : Check π (Operand π) := do
  let left <- checkers.value left
  let right <- checkers.value right
  binaryOperands operator left right

end Checkers
end Source
end CtorScan
