import CtorScan.Source.Checking.Type

/-!
# Values in their context

What an expression without a type of its own becomes where a type is wanted, and
when a value can be assigned or converted.
-/

namespace CtorScan
namespace Source

variable {π : Type}

namespace Operand

/-- A constant of a type. -/
def ofConstant (value : Constant) (type : Ty) : Operand π :=
  ⟨.constant, type, .constant value type none⟩

/-- A value. -/
def ofValue (tree : Typed π) : Operand π :=
  ⟨.value, tree.type, tree⟩

/-- A type. -/
def ofType (type : Ty) : Operand π :=
  ⟨.type, type, .nil⟩

/-- The value of a constant. -/
def constant? (operand : Operand π) : Option Constant :=
  match operand.mode with
  | .constant => operand.tree.constant?
  | _ => none

/-- The operand is a constant. -/
def isConstant (operand : Operand π) : Bool :=
  operand.constant?.isSome

/-- The operand stands for nothing. -/
def isNil (operand : Operand π) : Bool :=
  match operand.mode with
  | .nil => true
  | _ => false

/-- The operand is a type. -/
def isType (operand : Operand π) : Bool :=
  match operand.mode with
  | .type => true
  | _ => false

/-- The operand has an address. -/
def isPlace (operand : Operand π) : Bool :=
  match operand.mode with
  | .place => true
  | _ => false

/-- The operand is a value of any kind. -/
def isValue (operand : Operand π) : Bool :=
  match operand.mode with
  | .constant | .place | .element | .value | .nil | .checkable => true
  | _ => false

/-- The operand has no type of its own. -/
def untyped? (operand : Operand π) : Option Basic :=
  match operand.type with
  | .node (.basic basic) _ => if basic.isUntyped then some basic else none
  | _ => none

/-- The same operand as a plain value. -/
def asValue (operand : Operand π) : Operand π :=
  { operand with mode := .value }

end Operand

namespace Env

/-- The wider of two types of constants without a type. -/
def widerUntyped? (left right : Basic) : Option Basic :=
  if left == right then some left
  else if left.rank = 0 || right.rank = 0 then none
  else some (if left.rank < right.rank then right else left)

/-- What a value without a type becomes as a value of a basic type. -/
def implicitBasic?
    (operand : Operand π)
    (untyped basic : Basic)
    (target : Ty) : Option (Ty × Option Constant) :=
  match operand.constant? with
  | some value => (value.as? basic).map fun rounded => (target, some rounded)
  | none =>
      match untyped with
      | .untypedBool => if basic.isBoolean then some (target, none) else none
      | .untypedString => if basic.isString then some (target, none) else none
      | .untypedNil =>
          if basic == .unsafePointer then some (.basic .untypedNil, none) else none
      | _ => if basic.isNumeric then some (target, none) else none

/-- The type, and for a constant the value, that a value without a type gets where
another type is wanted. -/
def implicit?
    (env : Env)
    (operand : Operand π)
    (target : Ty) : Option (Ty × Option Constant) :=
  match operand.untyped? with
  | none => some (operand.type, none)
  | some untyped =>
      match target with
      | .node (.basic basic) _ =>
          if basic.isUntyped then
            (widerUntyped? untyped basic).map fun wider => (.basic wider, none)
          else
            implicitBasic? operand untyped basic target
      | _ =>
          if env.isParam target then
            let fits : Ty -> Bool
              | .node (.basic basic) _ =>
                  (implicitBasic? operand untyped basic target).isSome
              | type => untyped == .untypedNil && env.hasNil type
            if env.allTerms fits target then
              some (if untyped == .untypedNil then .basic .untypedNil else target, none)
            else
              none
          else
            match env.underlying target with
            | .node (.basic basic) _ => implicitBasic? operand untyped basic target
            | .node (.interface _ _ _) _ =>
                if untyped == .untypedNil then some (.basic .untypedNil, none)
                else if env.asksNothing target then some (.basic untyped.default, none)
                else none
            | _ =>
                if untyped == .untypedNil && env.hasNil target then
                  some (.basic .untypedNil, none)
                else
                  none

end Env

namespace Check

/-- The value stands alone: it is no type, no function of the language, and not
several values. -/
def single (operand : Operand π) : Check π (Operand π) := do
  ensure operand.isValue
  match operand.type with
  | .node .tuple _ => failure
  | _ => return operand

/-- All shifts of constants in a value without a type can have the type. -/
def shiftsFit (env : Env) (type : Ty) : Typed π -> Bool
  | .binary operator left right old =>
      if !env.isUntyped old || Typed.comparisons.contains operator then
        true
      else if Typed.shifts.contains operator then
        env.allBasic Basic.isInteger type && shiftsFit env type left
      else
        shiftsFit env type left && shiftsFit env type right
  | .unary _ inner old => !env.isUntyped old || shiftsFit env type inner
  | _ => true

/-- A constant left of a shift can have the type. -/
def shiftedFits (env : Env) (type : Ty) : Typed π -> Bool
  | .constant value _ _ =>
      match env.basic? type with
      | some basic => basic.isUntyped || (value.as? basic).isSome
      | none => true
  | .binary operator left right old =>
      if !env.isUntyped old || Typed.comparisons.contains operator then true
      else if Typed.shifts.contains operator then shiftedFits env type left
      else shiftedFits env type left && shiftedFits env type right
  | .unary _ inner old => !env.isUntyped old || shiftedFits env type inner
  | _ => true

/-- Give an operand without a type a type, with a new value for a constant. -/
def giveType (operand : Operand π) (type : Ty) (value : Option Constant) : Check π (Operand π) := do
  let env <- env
  match operand.tree, operand.mode with
  | .constant old _ shape, .constant =>
      let value :=
        match value with
        | some value => value
        | none =>
            match type with
            | .node (.basic basic) _ => (old.as? basic).getD old
            | _ => old
      return ⟨.constant, type, .constant value type shape⟩
  | .nil, _ => return operand
  | tree, mode =>
      unless env.isUntyped type do
        ensure (shiftsFit env type tree && shiftedFits env type tree)
      let tree := Typed.retype type tree
      return ⟨mode, type, tree⟩

/-- Convert a value without a type where another type is wanted. -/
def convertUntyped (operand : Operand π) (target : Ty) : Check π (Operand π) := do
  if operand.untyped?.isNone then
    return operand
  else
    match (<- env).implicit? operand target with
    | some (type, value) => giveType operand type value
    | none => failure

/-- Give a value without a type its default type. -/
def giveDefault (operand : Operand π) : Check π (Operand π) := do
  match operand.untyped? with
  | some .untypedNil => failure
  | some basic => convertUntyped operand (.basic basic.default)
  | none => return operand

/-- A value that is used as it is, where no type is wanted. -/
def plainValue (operand : Operand π) : Check π (Operand π) := do
  giveDefault (<- single operand)

/-- A value can be assigned to a variable of a type. -/
def isAssignable (env : Env) (operand : Operand π) (target : Ty) : Bool :=
  match operand.untyped? with
  | some _ => (env.implicit? operand target).isSome
  | none => env.assignable operand.type target

/-- Find the type arguments of a generic function where a type is wanted. -/
def instantiateFor (operand : Operand π) (target : Ty) : Check π (Operand π) := do
  match operand.mode with
  | .generic index given =>
      let callable <- ask fun env => env.callable index
      let fresh <- freshParams callable.typeParams
      let env <- env
      let wanted := callable.signature.type.instantiate callable.typeParams (fresh.map .param)
      match env.infer? fresh (fresh.zip given) [(wanted, target)] [] with
      | none => failure
      | some args =>
          demand (.arguments callable.typeParams args)
          let type := callable.signature.type.instantiate callable.typeParams args
          return ⟨.value, type, .function index args type⟩
  | _ => return operand

/-- Assign a value to a variable of a type. -/
def assign (operand : Operand π) (target : Ty) : Check π (Typed π) := do
  let operand <- single (<- instantiateFor operand target)
  let env <- env
  let wanted :=
    match operand.untyped? with
    | some .untypedNil => target
    | some basic => if env.isPlainInterface target then .basic basic.default else target
    | none => target
  let operand <- convertUntyped operand wanted
  ensure (isAssignable env operand target)
  return operand.tree

/-! ## Conversions -/

/-- A constant converted to a basic type. -/
def convertConstant? (env : Env) (operand : Operand π) (basic : Basic) : Option Constant :=
  operand.constant?.bind fun value =>
    match value.as? basic with
    | some rounded => some rounded
    | none =>
        if env.isBasicWith Basic.isInteger operand.type && basic.isString then
          value.toInt?.map Constant.ofCode
        else
          none

/-- The constant can be converted to each type that a type parameter stands for. -/
def convertsToTerms (env : Env) (operand : Operand π) (target : Ty) : Bool :=
  env.allTerms (fun
    | .node (.basic basic) parts =>
        (convertConstant? env operand basic).isSome ||
          (env.isBasicWith Basic.isString operand.type &&
            env.isBytesOrRunes (.node (.basic basic) parts))
    | type => env.isBasicWith Basic.isString operand.type && env.isBytesOrRunes type) target

/-- The value of an operand before a conversion, with its final type. -/
def beforeConversion (operand : Operand π) (target : Ty) : Check π (Operand π) := do
  let env <- env
  match operand.untyped? with
  | none => return operand
  | some .untypedNil => return operand
  | some basic =>
      let isConstantType := env.isBasicWith Basic.isConstant target
      if env.isPlainInterface target || (operand.isConstant && !isConstantType) then
        giveDefault operand
      else if basic.isInteger && env.allBasic Basic.isString target then
        giveDefault operand
      else
        giveType operand target none

/-- Convert a value to a type. -/
def convert (operand : Operand π) (target : Ty) : Check π (Operand π) := do
  let operand <- single operand
  let env <- env
  ensure (!isConstraintOnly env target)
  let basic? := if env.isParam target then none else env.basic? target
  match operand.isConstant, basic?.filter Basic.isConstant with
  | true, some basic =>
      match convertConstant? env operand basic with
      | some value => return .ofConstant value target
      | none => failure
  | _, _ =>
      if operand.isConstant && env.isParam target then
        ensure (convertsToTerms env operand target)
      else
        ensure <|
          match operand.untyped? with
          | none => env.convertible operand.type target
          | some untyped =>
              (env.implicit? operand target).isSome ||
                (operand.isConstant && untyped != .untypedNil &&
                  env.convertible (.basic untyped.default) target)
      let inner <- beforeConversion operand target
      return .ofValue (.conversion inner.tree target)

end Check
end Source
end CtorScan
