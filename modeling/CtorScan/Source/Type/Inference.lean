import CtorScan.Source.Type.Relation

/-!
# Finding type arguments

Type arguments that are left out are found by matching the types of parameters with
those of arguments, and type parameters with what their constraints say.
-/

namespace CtorScan
namespace Source

/-- Type parameters to be found, and what is known about them. -/
structure Unknowns where
  /-- The type parameters. -/
  params : List Nat
  /-- The arguments found so far. -/
  found : List (Nat × Ty)

namespace Unknowns

/-- The type is a type parameter to be found. -/
def asParam? (unknowns : Unknowns) (env : Env) (type : Ty) : Option Nat :=
  match env.unalias type with
  | .node (.param id) _ => if unknowns.params.contains id then some id else none
  | _ => none

/-- The argument found for a type parameter. -/
def get? (unknowns : Unknowns) (id : Nat) : Option Ty :=
  unknowns.found.lookup id

/-- Note an argument for a type parameter. -/
def set (unknowns : Unknowns) (id : Nat) (type : Ty) : Unknowns :=
  { unknowns with found := (id, type) :: unknowns.found.filter fun entry => entry.1 != id }

/-- The type has type parameters to be found in it. -/
def occurIn (unknowns : Unknowns) (type : Ty) : Bool :=
  type.anyParam unknowns.params.contains

/-- The type with the arguments that are found. -/
def apply (unknowns : Unknowns) (type : Ty) : Ty :=
  type.substitute unknowns.get?

/-- The last of the type parameters to be found that are found to be each other, from
one of them on. -/
def follow (unknowns : Unknowns) (env : Env) : Nat -> Ty -> Ty
  | 0, type => type
  | bound + 1, type =>
      match (unknowns.asParam? env type).bind unknowns.get? with
      | none => type
      | some known =>
          if (unknowns.asParam? env known).isSome then follow unknowns env bound known
          else type

/-- The last of the type parameters to be found that are found to be each other. -/
def last (unknowns : Unknowns) (env : Env) (type : Ty) : Ty :=
  unknowns.follow env unknowns.params.length type

end Unknowns

namespace Env

/-- The type is a declared one. -/
def isDeclared (env : Env) (type : Ty) : Bool :=
  (env.declared? type).isSome

/-- The type is written out: neither declared nor a parameter. -/
def isWritten (env : Env) (type : Ty) : Bool :=
  match env.unalias type with
  | .node (.named _) _ => false
  | .node (.param _) _ => false
  | _ => true

/-- The better of two matching arguments: a declared type, or a channel with a
direction. -/
def betterArgument (env : Env) (old new : Ty) : Ty :=
  if env.isDeclared new && !env.isDeclared old then
    new
  else
    match env.unalias old, env.unalias new with
    | .node (.channel .both) _, .node (.channel _) _ => new
    | _, _ => old

/-- Match two types.  Only an inexact match lets a declared type stand for the type
that it is made like, or ignores the direction of a channel. -/
def matchUpTo
    (env : Env) : Nat -> Bool -> Ty -> Ty -> Unknowns -> Option Unknowns
  | 0, _, _, _, _ => none
  | bound + 1, exact, first, second, unknowns =>
      let left := unknowns.last env first
      let right := unknowns.last env second
      let matchAll (exact : Bool) (lefts rights : List Ty) : Option Unknowns :=
        if lefts.length != rights.length then
          none
        else
          (lefts.zip rights).foldlM
            (fun state (l, r) => matchUpTo env bound exact l r state) unknowns
      let matchMethods (wanted : List (MethodName × Ty)) (type : Ty) : Option Unknowns :=
        wanted.foldlM
          (fun state (name, methodType) => do
            let found <- env.methodType? type name
            matchUpTo env bound true methodType found state) unknowns
      if env.plain left == env.plain right then
        some unknowns
      else
        match unknowns.asParam? env left, unknowns.asParam? env right with
        | some id, _ =>
            match unknowns.get? id with
            | some known =>
                (matchUpTo env bound exact known right unknowns).map fun state =>
                  if exact then state else state.set id (env.betterArgument known right)
            | none => some (unknowns.set id right)
        | none, some id =>
            match unknowns.get? id with
            | some known =>
                (matchUpTo env bound exact left known unknowns).map fun state =>
                  if exact then state else state.set id (env.betterArgument known left)
            | none => some (unknowns.set id left)
        | none, none =>
            let isPlain (type : Ty) : Bool := env.isPlainInterface type
            let declaredBoth := env.isDeclared left && env.isDeclared right
            let sameDeclaration :=
              (env.declared? left).map Prod.fst == (env.declared? right).map Prod.fst
            if !exact && !(declaredBoth && sameDeclaration) &&
                (isPlain left || isPlain right) then
              if isPlain left then
                matchMethods (env.methods left) right
              else
                matchMethods (env.methods right) left
            else
              let opened (type other : Ty) : Ty :=
                if !exact && env.isDeclared type && env.isWritten other then
                  env.underlying type
                else
                  env.unalias type
              match opened left right, opened right left with
              | .node (.channel leftUse) leftParts, .node (.channel rightUse) rightParts =>
                  if exact && leftUse != rightUse then none
                  else matchAll true leftParts rightParts
              | .node (.func ps rs variadic) leftParts,
                .node (.func ps' rs' variadic') rightParts =>
                  if ps.length == ps'.length && rs.length == rs'.length &&
                      variadic == variadic' then
                    matchAll true leftParts rightParts
                  else
                    none
              | .node (.interface leftNames leftEq leftImplicit) leftParts,
                .node (.interface rightNames rightEq rightImplicit) rightParts =>
                  let leftMethods :=
                    env.methods (.node (.interface leftNames leftEq leftImplicit) leftParts)
                  let rightMethods :=
                    env.methods (.node (.interface rightNames rightEq rightImplicit) rightParts)
                  if leftMethods.map Prod.fst == rightMethods.map Prod.fst then
                    matchAll true (leftMethods.map Prod.snd) (rightMethods.map Prod.snd)
                  else
                    none
              | .node leftHead leftParts, .node rightHead rightParts =>
                  if leftHead == rightHead && !leftParts.isEmpty then
                    matchAll true leftParts rightParts
                  else
                    none

/-- The depth at which types are no longer matched. -/
def matchLimit : Nat := 50

/-- Match two types. -/
def matchTypes
    (env : Env)
    (exact : Bool)
    (left right : Ty)
    (unknowns : Unknowns) : Option Unknowns :=
  env.matchUpTo matchLimit exact left right unknowns

/-- The one type that a constraint is about, whether it stands for all types made
like it, and whether the constraint names no other. -/
def coreTerm? (env : Env) (id : Nat) : Option (Ty × Bool × Bool) :=
  match (env.typeSet (.param id)).terms with
  | none => none
  | some [] => none
  | some [term] =>
      some (if term.1 then env.underlying term.2 else term.2, term.1, true)
  | some _ => (env.core? (.param id)).map fun core => (core, true, false)

/-- One round of looking at the constraints. -/
def matchConstraints (env : Env) (unknowns : Unknowns) : Option Unknowns :=
  unknowns.params.foldlM
    (fun state id =>
      match env.coreTerm? id, state.get? id with
      | some (core, tilde, _), some known =>
          if tilde && env.isParam known then some state
          else env.matchTypes (!tilde) known core state
      | some (core, false, true), none => some (state.set id core)
      | some _, none => some state
      | none, some known =>
          (env.methods (.param id)).foldlM
            (fun inner (name, wanted) =>
              match env.methodType? known name with
              | some found => env.matchTypes true wanted found inner
              | none => some inner) state
      | none, none => some state)
    unknowns

/-- Rounds of looking at the constraints, until nothing new is found. -/
def matchConstraintsUpTo (env : Env) : Nat -> Unknowns -> Option Unknowns
  | 0, unknowns => some unknowns
  | bound + 1, unknowns => do
      let next <- env.matchConstraints unknowns
      if next.found.length == unknowns.found.length then
        some next
      else
        matchConstraintsUpTo env bound next

/-- Replace type parameters in the arguments that are found. -/
def settleUpTo : Nat -> Unknowns -> Unknowns
  | 0, unknowns => unknowns
  | bound + 1, unknowns =>
      settleUpTo bound
        { unknowns with
          found := unknowns.found.map fun (id, type) => (id, unknowns.apply type) }

/-- The types of constants without a type of their own that meet at a parameter. -/
def widest? : List Basic -> Option Basic
  | [] => none
  | [basic] => some basic
  | basic :: rest => do
      let other <- widest? rest
      if basic == other then some basic
      else if basic.rank = 0 || other.rank = 0 then none
      else some (if basic.rank < other.rank then other else basic)

/-- Give a type parameter that is not found the type of the constants without a type
that meet there. -/
def settleUntyped? (env : Env) (kinds : List Basic) (unknowns : Unknowns) (id : Nat) :
    Option Unknowns :=
  match unknowns.asParam? env (unknowns.last env (.param id)), kinds with
  | some last, _ :: _ =>
      match unknowns.get? last with
      | none => (widest? kinds).map fun basic => unknowns.set last (.basic basic.default)
      | some _ => some unknowns
  | _, _ => some unknowns

/-- Find the arguments of type parameters from those that are given, from pairs of
types of parameters and arguments, and from constants without a type. -/
def infer?
    (env : Env)
    (params : List Nat)
    (given : List (Nat × Ty))
    (pairs : List (Ty × Ty))
    (untyped : List (Nat × Basic)) : Option (List Ty) := do
  let start : Unknowns := ⟨params, given⟩
  let matched <- pairs.foldlM
    (fun state (param, arg) => env.matchTypes false param arg state) start
  let constrained <- env.matchConstraintsUpTo (params.length + 1) matched
  let complete <- params.foldlM
    (fun state id =>
      let kinds := (untyped.filter fun entry => entry.1 == id).map Prod.snd
      env.settleUntyped? kinds state id)
    constrained
  let again <- env.matchConstraintsUpTo (params.length + 1) complete
  let settled := settleUpTo params.length again
  let args <- params.mapM settled.get?
  if args.any settled.occurIn then none else some args

/-- The arguments have what the constraints of type parameters ask for. -/
def satisfies (env : Env) (params : List Nat) (args : List Ty) : Bool :=
  params.length == args.length &&
    (params.zip args).all fun (id, arg) =>
      env.implements true arg ((env.paramDecl id).constraint.instantiate params args)

end Env
end Source
end CtorScan
