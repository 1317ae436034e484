import CtorScan.Source.Checking.Composite

/-!
# Checking selections

Fields and methods, elements and parts of sequences, type arguments, and assertions.
-/

namespace CtorScan
namespace Source
namespace Checkers

open Check

variable {π : Type}

/-! ## Fields and methods -/

/-- The name of the receiver in the type of a method as a function: it has one where
the other parameters have. -/
def receiverName (env : Env) (target : MethodTarget) (signature : Signature) : String :=
  match signature.params with
  | ("", _) :: _ => ""
  | [] => ""
  | _ =>
      match target with
      | .declared function _ =>
          match (env.callable function).receiver with
          | some receiver => if receiver.name == "" then "_" else receiver.name
          | none => "_"
      | .required _ _ => "_"

/-- A method of a type, as a function of the receiver. -/
def methodExpression
    (receiver : Ty)
    (target : MethodTarget)
    (name : String)
    (signature : Signature) : Check π (Operand π) := do
  let first := (receiverName (<- env) target signature, receiver)
  let type := { signature with params := first :: signature.params }.type
  return .ofValue (.methodOf receiver target name type)

/-- What is selected from a value or a type. -/
def selectFrom (operand : Operand π) (name : MethodName) : Check π (Operand π) := do
  let env <- env
  match env.select? operand.type operand.isPlace name with
  | none => failure
  | some (.field path type indirect) =>
      ensure (!operand.isType)
      let tree := Typed.field operand.tree ⟨path, indirect⟩ type
      return ⟨if operand.isPlace || indirect then .place else .value, type, tree⟩
  | some (.method path function args indirect) =>
      depend (.function function)
      let signature := env.methodSignature function args
      let target := MethodTarget.declared function args
      if operand.isType then
        methodExpression operand.type target name.name signature
      else
        return .ofValue (.methodValue operand.tree target ⟨path, indirect⟩ signature.type)
  | some (.requirement path owner method type indirect) =>
      let target := MethodTarget.required owner method
      if operand.isType then
        match Signature.ofType? type with
        | some signature => methodExpression operand.type target name.name signature
        | none => failure
      else
        return .ofValue (.methodValue operand.tree target ⟨path, indirect⟩ type)

/-- A selection by a name. -/
def selection (checkers : Checkers π) (expr : Expr π) (field : Name π) : Check π (Operand π) := do
  ensure (!field.isBlank)
  let qualified <-
    match expr with
    | .name package => do
        match <- checkers.object package.text with
        | .package path => pure (some path)
        | _ => pure none
    | _ => pure none
  match qualified with
  | some path => objectOperand (<- packageObject path field.text)
  | none =>
      let operand <- checkers.operand none expr
      if operand.isType then
        selectFrom operand (<- memberName field.text)
      else
        selectFrom (<- single operand) (<- memberName field.text)

/-! ## Elements -/

/-- What indexing yields: the length if it is known, the kind of the result and its
type. -/
structure Indexing where
  /-- The type of keys, for a map. -/
  key : Option Ty
  /-- The length, if it is known. -/
  length : Option Nat
  /-- Whether the result has an address. -/
  place : Bool
  /-- The type of the elements. -/
  element : Ty

/-- The array that something is or points to. -/
def arrayOf? (env : Env) : Ty -> Option (Nat × Ty × Bool)
  | .node (.array length) [element] => some (length, element, false)
  | .node .pointer [target] =>
      match env.underlying target with
      | .node (.array length) [element] => some (length, element, true)
      | _ => none
  | _ => none

/-- How a type is indexed. -/
def indexing? (env : Env) (isPlace : Bool) (type : Ty) : Option Indexing :=
  match type with
  | .node (.basic basic) _ =>
      if basic.isString then some ⟨none, none, false, .basic .byte⟩ else none
  | .node .slice [element] => some ⟨none, none, true, element⟩
  | .node .map [key, element] => some ⟨some key, none, false, element⟩
  | _ =>
      (arrayOf? env type).map fun (length, element, behind) =>
        ⟨none, some length, behind || isPlace, element⟩

/-- How all types that a type parameter stands for are indexed together. -/
def commonIndexing? (env : Env) : List Indexing -> Option Indexing
  | [] => none
  | [one] => some one
  | one :: rest => do
      let other <- commonIndexing? env rest
      let sameKeys :=
        match one.key, other.key with
        | none, none => true
        | some left, some right => env.identical left right
        | _, _ => false
      if sameKeys && env.identical one.element other.element then
        let length :=
          match one.length, other.length with
          | some left, some right => some (min left right)
          | some left, none => some left
          | none, right => right
        some ⟨one.key, length, one.place && other.place, one.element⟩
      else
        none

/-- The length of a constant text. -/
def constantLength? (operand : Operand π) : Option Nat :=
  match operand.constant? with
  | some (.string bytes) => some bytes.length
  | _ => none

/-- An element of something. -/
def indexed
    (checkers : Checkers π)
    (operand : Operand π)
    (indexExpr : Expr π) : Check π (Operand π) := do
  let operand <-
    if operand.untyped?.isSome then giveDefault operand else pure operand
  let env <- env
  let found :=
    if env.isParam operand.type then
      ((env.terms operand.type).mapM (indexing? env operand.isPlace)).bind (commonIndexing? env)
    else
      indexing? env operand.isPlace (env.underlying operand.type)
  match found with
  | none => failure
  | some indexing =>
      match indexing.key with
      | some key =>
          let tree <- assign (<- checkers.operand none indexExpr) key
          return ⟨.element, indexing.element, .index operand.tree tree indexing.element⟩
      | none =>
          let length := (constantLength? operand).or indexing.length
          let (tree, _) <- checkers.index length indexExpr
          return ⟨if indexing.place then .place else .value, indexing.element,
            .index operand.tree tree indexing.element⟩

/-- A generic function with some type arguments; with all of them it is a value. -/
def instantiated (functionIndex : Nat) (args : List Ty) : Check π (Operand π) := do
  let callable <- ask fun env => env.callable functionIndex
  ensure (args.length ≤ callable.typeParams.length)
  if args.length == callable.typeParams.length then
    demand (.arguments callable.typeParams args)
    let type := callable.signature.type.instantiate callable.typeParams args
    return .ofValue (.function functionIndex args type)
  else
    return ⟨.generic functionIndex args, callable.signature.type, .nil⟩

/-- Something with indices or type arguments. -/
def indexOrInstance
    (checkers : Checkers π)
    (expr : Expr π)
    (indices : List (Expr π)) : Check π (Operand π) := do
  let operand <- checkers.operand none expr
  match operand.mode with
  | .genericType declaration =>
      return .ofType (<- instantiateType declaration (<- indices.mapM checkers.type))
  | .generic functionIndex [] => instantiated functionIndex (<- indices.mapM checkers.type)
  | _ =>
      match indices with
      | [indexExpr] => checkers.indexed (<- single operand) indexExpr
      | _ => failure

/-! ## Parts of sequences -/

/-- Constant bounds of a part are in order. -/
def areOrdered : List (Option Nat) -> Bool
  | [] => true
  | none :: rest => areOrdered rest
  | some bound :: rest =>
      (rest.all fun
        | some other => bound ≤ other
        | none => true) && areOrdered rest

/-- A bound of a part, if it is given. -/
def sliceBound
    (checkers : Checkers π)
    (length : Option Nat) : Option (Expr π) -> Check π (Option (Typed π × Option Nat))
  | none => return none
  | some expr => return some (<- checkers.index (length.map (· + 1)) expr)

/-- A part of a sequence. -/
def slice
    (checkers : Checkers π)
    (expr : Expr π)
    (low high max : Option (Expr π))
    (full : Bool) : Check π (Operand π) := do
  let operand <- checkers.value expr
  let env <- env
  let fixedLength := constantLength? operand
  let operand <- if operand.untyped?.isSome then giveDefault operand else pure operand
  let (length, type) <-
    match env.coreText? operand.type with
    | some (.node (.basic basic) _) => do
        ensure (basic.isString && !full)
        pure (fixedLength, operand.type)
    | some (.node .slice _) => pure (none, operand.type)
    | some core =>
        match arrayOf? env core with
        | some (length, element, behind) => do
            ensure (behind || operand.isPlace)
            pure (some length, Ty.slice element)
        | none => failure
    | none => failure
  if full then ensure (high.isSome && max.isSome)
  let low <- checkers.sliceBound length low
  let high <- checkers.sliceBound length high
  let max <- checkers.sliceBound length max
  let bound (given : Option (Typed π × Option Nat)) (otherwise : Option Nat) : Option Nat :=
    match given with
    | some (_, value) => value
    | none => otherwise
  ensure (areOrdered [bound low (some 0), bound high length, bound max length])
  let tree (given : Option (Typed π × Option Nat)) : Option (Typed π) := given.map Prod.fst
  return .ofValue (.slice operand.tree (tree low) (tree high) (tree max) type)

/-! ## Assertions -/

/-- A value of an interface can have a type. -/
def isPossible (env : Env) (interface type : Ty) : Bool :=
  env.isInterface type || env.hasMethods type interface

/-- An operand whose type can be asserted. -/
def asserted (checkers : Checkers π) (expr : Expr π) : Check π (Operand π) := do
  let operand <- checkers.value expr
  ensure ((<- env).isPlainInterface operand.type)
  return operand

/-- An assertion of a type. -/
def assertion
    (checkers : Checkers π)
    (expr : Expr π)
    (typeExpr : Option (Expr π)) : Check π (Operand π) := do
  let operand <- checkers.asserted expr
  match typeExpr with
  | none => failure
  | some typeExpr =>
      let type <- checkers.ordinaryType typeExpr
      ensure (isPossible (<- env) operand.type type)
      return ⟨.checkable, type, .assertion operand.tree type⟩

/-! ## Pointers -/

/-- What a pointer points to, or a pointer type. -/
def star (checkers : Checkers π) (expr : Expr π) : Check π (Operand π) := do
  let operand <- checkers.operand none expr
  if operand.isType then
    return .ofType (.pointer operand.type)
  else
    let operand <- single operand
    match (<- env).corePointee? operand.type with
    | some element => return ⟨.place, element, .deref operand.tree element⟩
    | none => failure

end Checkers
end Source
end CtorScan
