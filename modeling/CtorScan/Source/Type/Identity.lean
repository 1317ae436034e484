import CtorScan.Source.Type.Environment

/-!
# When two types are the same

Two types are the same if their plain forms are: other names are replaced by what
they stand for, names of parameters do not count, and an interface lists all its
methods itself.
-/

namespace CtorScan
namespace Source

/-- The order of methods: those for other packages first, then by name. -/
def MethodName.precedes (left right : MethodName) : Bool :=
  match isExported left.name, isExported right.name with
  | true, false => true
  | false, true => false
  | _, _ => left.name < right.name || (left.name == right.name && left.package ≤ right.package)

/-- The name of a member as other packages see it: only hidden names remember
where they are declared. -/
def MethodName.of (package name : String) : MethodName :=
  ⟨name, if isExported name then "" else package⟩

namespace Env

/-- Keep the first method of each name. -/
def distinctMethods : List (MethodName × Ty) -> List (MethodName × Ty)
  | [] => []
  | entry :: rest => entry :: (distinctMethods rest).filter fun other => other.1 != entry.1

/-- All methods of an interface and of the interfaces that it embeds. -/
def methodsUpTo (env : Env) : Nat -> Ty -> List (MethodName × Ty)
  | 0, _ => []
  | bound + 1, type =>
      let interface := env.underlying type
      interface.listedMethods ++
        interface.embeddedTypes.flatMap fun embedded => methodsUpTo env bound embedded

/-- All methods that an interface asks for, in order. -/
def methods (env : Env) (type : Ty) : List (MethodName × Ty) :=
  (distinctMethods (env.methodsUpTo (env.depthLimit type) type)).mergeSort
    fun left right => left.1.precedes right.1

/-- The types that an interface restricts its values to, wherever they are
embedded. -/
def restrictionsUpTo (env : Env) : Nat -> Ty -> List Ty
  | 0, _ => []
  | bound + 1, type =>
      (env.underlying type).embeddedTypes.flatMap fun embedded =>
        if env.isInterface embedded then restrictionsUpTo env bound embedded else [embedded]

/-- The types that an interface restricts its values to. -/
def restrictions (env : Env) (type : Ty) : List Ty :=
  env.restrictionsUpTo (env.depthLimit type) type

/-- An interface that embeds others at most as deep as the bound asks for an equality,
itself or by what it embeds. -/
def asksEqualityUpTo (env : Env) : Nat -> Ty -> Bool
  | 0, _ => false
  | bound + 1, type =>
      match env.underlying type with
      | .node (.interface methods comparable _) children =>
          comparable || (children.drop methods.length).any (asksEqualityUpTo env bound)
      | _ => false

/-- The interface asks for an equality, itself or by what it embeds. -/
def asksEquality (env : Env) (type : Ty) : Bool :=
  env.asksEqualityUpTo (env.depthLimit type) type

/-- The form of a type that is the same for all ways to write it; notes after
fields may count or not. -/
def plainUpTo (env : Env) (tags : Bool) : Nat -> Ty -> Ty
  | 0, type => type
  | bound + 1, type =>
      match env.unalias type with
      | .node (.basic basic) _ => .basic basic.plain
      | .node (.func params results variadic) children =>
          .node (.func (params.map fun _ => "") (results.map fun _ => "") variadic)
            (children.map (plainUpTo env tags bound))
      | .node (.struct fields) children =>
          .node (.struct (fields.map fun field =>
              { field with tag := if tags && field.tag != some [] then field.tag else none }))
            (children.map (plainUpTo env tags bound))
      | .node (.interface listed comparable implicit) children =>
          let interface := Ty.node (.interface listed comparable implicit) children
          let methods := env.methods interface
          .node (.interface (methods.map Prod.fst) (env.asksEquality interface) false)
            ((methods.map Prod.snd ++ env.restrictions interface).map (plainUpTo env tags bound))
      | .node head children => .node head (children.map (plainUpTo env tags bound))

/-- The plain form of a type. -/
def plain (env : Env) (type : Ty) : Ty :=
  env.plainUpTo true (env.depthLimit type) type

/-- Two types are the same. -/
def identical (env : Env) (left right : Ty) : Bool :=
  env.plain left == env.plain right

/-- Two types are the same apart from notes after fields. -/
def identicalWithoutTags (env : Env) (left right : Ty) : Bool :=
  env.plainUpTo false (env.depthLimit left) left ==
    env.plainUpTo false (env.depthLimit right) right

end Env
end Source
end CtorScan
