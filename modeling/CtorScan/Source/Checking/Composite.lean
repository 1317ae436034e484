import CtorScan.Source.Checking.Operation

/-!
# Checking composite values
-/

namespace CtorScan
namespace Source
namespace Checkers

open Check

variable {π : Type}

/-- An index of something with a known or unknown length: its tree, and its value if
it is a constant. -/
def index
    (checkers : Checkers π)
    (length : Option Nat)
    (expr : Expr π) : Check π (Typed π × Option Nat) := do
  let operand <- convertUntyped (<- checkers.value expr) (.basic .int)
  ensure ((<- env).allBasic Basic.isInteger operand.type)
  match operand.constant? with
  | none => return (operand.tree, none)
  | some value =>
      match value.as? .int with
      | some (.int number) =>
          ensure (0 ≤ number)
          match length with
          | some length => ensure (number < length)
          | none => pure ()
          return (operand.tree, some number.toNat)
      | _ => failure

/-- A value of a type, which a composite value may leave out. -/
def elementOf (checkers : Checkers π) (type : Ty) (expr : Expr π) : Check π (Typed π) := do
  assign (<- checkers.operand (some type) expr) type

/-! ## Structures -/

/-- The number of the field with a name. -/
def fieldIndex? (fields : List FieldInfo) (name : MethodName) : Option Nat :=
  if name.name == "_" then
    none
  else
    fields.findIdx? fun field => Env.FieldInfo.hasName field name

/-- Fields by their names. -/
def keyedFields
    (checkers : Checkers π)
    (fields : List FieldInfo)
    (types : List Ty)
    (elements : List (Expr π)) : Check π (List (TypedElement π)) := do
  let all <- elements.mapM fun
    | .keyed (.name key) expr => do
        let operand <- checkers.operand none expr
        match fieldIndex? fields (<- memberName key.text) with
        | none => failure
        | some number =>
            let tree <- assign operand (types.getD number default)
            return (number, tree)
    | _ => failure
  ensure ((all.map Prod.fst).eraseDups.length == all.length)
  return all.map fun (number, tree) => .at number tree

/-- All fields in order. -/
def positionalFields
    (checkers : Checkers π)
    (fields : List FieldInfo)
    (types : List Ty)
    (elements : List (Expr π)) : Check π (List (TypedElement π)) := do
  ensure (elements.length == fields.length)
  let package := (<- get).package
  (elements.zip (fields.zip types)).zipIdx.mapM fun ((expr, field, type), number) => do
    match expr with
    | .keyed _ _ => failure
    | _ =>
        ensure (isExported field.name || field.package == package)
        return .at number (<- assign (<- checkers.operand none expr) type)

/-- The fields of a structure. -/
def structElements
    (checkers : Checkers π)
    (fields : List FieldInfo)
    (types : List Ty)
    (elements : List (Expr π)) : Check π (List (TypedElement π)) :=
  match elements with
  | [] => return []
  | .keyed _ _ :: _ => checkers.keyedFields fields types elements
  | _ => checkers.positionalFields fields types elements

/-! ## Sequences -/

/-- Elements at positions, which go on from the last one, and the positions taken so
far. -/
def sequenceFrom
    (checkers : Checkers π)
    (type : Ty)
    (length : Option Nat) : Nat -> List Nat -> List (Expr π) -> Check π (List (Nat × Typed π))
  | _, _, [] => return []
  | next, taken, expr :: rest => do
      let (position, valueExpr) <-
        match expr with
        | .keyed key inner => do
            match <- checkers.index length key with
            | (_, some position) => pure (position, inner)
            | _ => failure
        | _ => do
            match length with
            | some length => ensure (decide (next < length))
            | none => pure ()
            pure (next, expr)
      ensure (!taken.contains position)
      let tree <- checkers.elementOf type valueExpr
      let others <- checkers.sequenceFrom type length (position + 1) (position :: taken) rest
      return (position, tree) :: others

/-- The length that elements at positions need. -/
def neededLength (elements : List (Nat × Typed π)) : Nat :=
  elements.foldl (fun most (position, _) => max most (position + 1)) 0

/-- Elements at positions. -/
def sequence
    (checkers : Checkers π)
    (type : Ty)
    (length : Option Nat)
    (elements : List (Expr π)) : Check π (List (TypedElement π) × Nat) := do
  let all <- checkers.sequenceFrom type length 0 [] elements
  return (all.map fun (position, tree) => .at position tree, neededLength all)

/-! ## Maps -/

/-- No constant key occurs twice; where keys have different types, these count. -/
def keysDiffer (env : Env) (keys : List (Typed π)) : Bool :=
  let constants := keys.filterMap fun
    | .constant value type _ => some (value, env.plain type)
    | _ => none
  let rec check : List (Constant × Ty) -> Bool
    | [] => true
    | (value, type) :: rest =>
        !(rest.any fun other => other.1 == value && other.2 == type) && check rest
  check constants

/-- Elements under keys. -/
def mapElements
    (checkers : Checkers π)
    (key value : Ty)
    (elements : List (Expr π)) : Check π (List (TypedElement π)) := do
  let all <- elements.mapM fun
    | .keyed keyExpr valueExpr => do
        let keyTree <- checkers.elementOf key keyExpr
        let valueTree <- checkers.elementOf value valueExpr
        return (keyTree, valueTree)
    | _ => failure
  ensure (keysDiffer (<- env) (all.map Prod.fst))
  return all.map fun (keyTree, valueTree) => .under keyTree valueTree

/-! ## Composite values -/

/-- The elements of a composite value of a type. -/
def elements
    (checkers : Checkers π)
    (base : Ty)
    (exprs : List (Expr π)) : Check π (List (TypedElement π)) := do
  match (<- env).core? base with
  | some (.node (.struct fields) types) => checkers.structElements fields types exprs
  | some (.node (.array length) [element]) =>
      return (<- checkers.sequence element (some length) exprs).1
  | some (.node .slice [element]) => return (<- checkers.sequence element none exprs).1
  | some (.node .map [key, value]) => checkers.mapElements key value exprs
  | _ => failure

/-- A composite value.  Without a type it takes the hint, where a pointer stands for
the address of the value. -/
def composite
    (checkers : Checkers π)
    (hint : Option Ty)
    (typeExpr : Option (Expr π))
    (exprs : List (Expr π)) : Check π (Operand π) := do
  match typeExpr, hint with
  | some (.arrayType (some (.dots none)) elementExpr), _ =>
      let element <- checkers.ordinaryType elementExpr
      let (all, length) <- checkers.sequence element none exprs
      return .ofValue (.composite (.array length element) all)
  | some expr, _ =>
      let type <- checkers.type expr
      return .ofValue (.composite type (<- checkers.elements type exprs))
  | none, some type =>
      let base := ((<- env).corePointee? type).getD type
      return .ofValue (.composite type (<- checkers.elements base exprs))
  | none, none => failure

end Checkers
end Source
end CtorScan
