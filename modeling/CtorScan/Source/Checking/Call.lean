import CtorScan.Source.Checking.Selection

/-!
# Checking calls
-/

namespace CtorScan
namespace Source
namespace Checkers

open Check

variable {π : Type}

/-- Arguments of a call.  One call with several results can stand for all of them. -/
structure Arguments (π : Type) where
  /-- The values one by one. -/
  operands : List (Operand π)
  /-- The call that yields all of them. -/
  together : Option (Typed π)

/-- The values that an expression yields. -/
def valuesOf (operand : Operand π) : Arguments π :=
  match operand.mode, operand.type with
  | .value, .node .tuple types =>
      ⟨types.map fun type => ⟨.value, type, .nil⟩, some operand.tree⟩
  | _, _ => ⟨[operand], none⟩

/-- The arguments of a call. -/
def arguments (checkers : Checkers π) (exprs : List (Expr π)) : Check π (Arguments π) := do
  match exprs with
  | [expr] => return valuesOf (<- checkers.operand none expr)
  | _ =>
      let operands <- exprs.mapM fun expr => do
        let operand <- checkers.operand none expr
        match operand.mode with
        | .generic _ _ => pure operand
        | _ => single operand
      return ⟨operands, none⟩

/-- The types that arguments are passed as. -/
def passedAs (signature : Signature) (count : Nat) (spread : Bool) : Check π (List Ty) := do
  let types := signature.params.map Prod.snd
  if !signature.variadic then
    ensure (!spread && types.length == count)
    return types
  else if spread then
    ensure (types.length == count)
    return types
  else
    match types.getLast? with
    | some (.node .slice [element]) =>
        ensure (types.length ≤ count + 1)
        return types.dropLast ++ List.replicate (count + 1 - types.length) element
    | _ => failure

/-- Pass arguments. -/
def pass (arguments : Arguments π) (types : List Ty) : Check π (List (Typed π)) := do
  let trees <- (arguments.operands.zip types).mapM fun (operand, type) => assign operand type
  match arguments.together with
  | some tree => return [tree]
  | none => return trees

/-- A generic function as an argument: type parameters of its own in place of the
declared ones, those that are given, and its type. -/
structure GenericArgument where
  /-- The type parameters. -/
  fresh : List Nat
  /-- The type arguments that are given. -/
  given : List (Nat × Ty)
  /-- What it is passed as, and its type. -/
  pair : Ty × Ty

/-- The generic functions among arguments. -/
def genericArguments : List (Ty × Operand π) -> Check π (List GenericArgument)
  | [] => return []
  | (type, operand) :: rest => do
      match operand.mode with
      | .generic functionIndex given =>
          let callable <- ask fun env => env.callable functionIndex
          let fresh <- freshParams callable.typeParams
          let own := callable.signature.type.instantiate callable.typeParams (fresh.map .param)
          return ⟨fresh, fresh.zip given, (type, own)⟩ :: (<- genericArguments rest)
      | _ => genericArguments rest

/-- Type arguments for a generic function from those that are given and from the
arguments of a call. -/
def inferred
    (functionIndex : Nat)
    (given : List Ty)
    (arguments : Arguments π)
    (spread : Bool) : Check π (List Ty) := do
  let callable <- ask fun env => env.callable functionIndex
  let params := callable.typeParams
  let fresh <- freshParams params
  let wanted := callable.signature.type.instantiate params (fresh.map .param)
  match Signature.ofType? wanted with
  | none => failure
  | some signature =>
      let types <- passedAs signature arguments.operands.length spread
      let pairs := types.zip arguments.operands
      let generic <- genericArguments pairs
      let env <- env
      let typed := pairs.filterMap fun (type, operand) =>
        if operand.untyped?.isNone && operand.isValue && type.anyParam fresh.contains then
          some (type, operand.type)
        else
          none
      let untyped := pairs.filterMap fun (type, operand) =>
        match type, operand.untyped? with
        | .node (.param id) _, some basic =>
            if basic == .untypedNil then none else some (id, basic)
        | _, _ => none
      let unknown := fresh ++ (generic.map GenericArgument.fresh).flatten
      let known := fresh.zip given ++ (generic.map GenericArgument.given).flatten
      match env.infer? unknown known (typed ++ generic.map GenericArgument.pair) untyped with
      | some args =>
          let own := args.take params.length
          demand (.arguments params own)
          return own
      | none => failure

/-- What a call of a function with some results stands for. -/
def callResult
    (function : Typed π)
    (signature : Signature)
    (place : π)
    (arguments : List (Typed π))
    (spread : Bool) : Operand π :=
  let type := signature.result
  let tree := Typed.call function signature.type place arguments spread type
  match signature.results with
  | [] => ⟨.nothing, type, tree⟩
  | _ => ⟨.value, type, tree⟩

/-- A call of a generic function. -/
def genericCall
    (checkers : Checkers π)
    (functionIndex : Nat)
    (given : List Ty)
    (place : π)
    (exprs : List (Expr π))
    (spread : Bool) : Check π (Operand π) := do
  let arguments <- checkers.arguments exprs
  ensure (!(spread && arguments.together.isSome))
  let args <- inferred functionIndex given arguments spread
  let callable <- ask fun env => env.callable functionIndex
  let type := callable.signature.type.instantiate callable.typeParams args
  match Signature.ofType? type with
  | none => failure
  | some signature =>
      let types <- passedAs signature arguments.operands.length spread
      let trees <- pass arguments types
      return callResult (.function functionIndex args type) signature place trees spread

/-- A call of a value. -/
def valueCall
    (checkers : Checkers π)
    (function : Operand π)
    (place : π)
    (exprs : List (Expr π))
    (spread : Bool) : Check π (Operand π) := do
  match ((<- env).core? function.type).bind Signature.ofType? with
  | none => failure
  | some signature =>
      let arguments <- checkers.arguments exprs
      ensure (!(spread && arguments.together.isSome))
      let types <- passedAs signature arguments.operands.length spread
      let trees <- pass arguments types
      return callResult function.tree signature place trees spread

/-- A conversion. -/
def conversion
    (checkers : Checkers π)
    (type : Ty)
    (exprs : List (Expr π))
    (spread : Bool) : Check π (Operand π) := do
  match exprs, spread with
  | [expr], false => convert (<- checkers.operand none expr) type
  | _, _ => failure

end Checkers
end Source
end CtorScan
