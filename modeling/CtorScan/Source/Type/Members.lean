import CtorScan.Source.Type.Identity

/-!
# What types consist of

The types that an interface admits, the one type that all of them are made like,
and the fields and methods that can be selected from a value.
-/

namespace CtorScan
namespace Source

/-- What an interface asks of a type. -/
structure TypeSet where
  /-- The types that it restricts to, if it does; a flag stands for all types made
  like one. -/
  terms : Option (List (Bool × Ty))
  /-- Whether an equality is asked for. -/
  comparable : Bool

namespace TypeSet

/-- Nothing is asked. -/
def all : TypeSet := ⟨none, false⟩

end TypeSet

namespace Env

/-- What two terms have in common. -/
def commonTerm (env : Env) (left right : Bool × Ty) : Option (Bool × Ty) :=
  match left.1, right.1 with
  | true, true => if env.identical left.2 right.2 then some left else none
  | true, false =>
      if env.identical left.2 (env.underlying right.2) then some right else none
  | false, true =>
      if env.identical (env.underlying left.2) right.2 then some left else none
  | false, false => if env.identical left.2 right.2 then some left else none

/-- What two restrictions have in common. -/
def commonTerms
    (env : Env) :
    Option (List (Bool × Ty)) -> Option (List (Bool × Ty)) -> Option (List (Bool × Ty))
  | none, terms => terms
  | terms, none => terms
  | some left, some right =>
      some (left.flatMap fun term => right.filterMap (env.commonTerm term))

/-- The terms of one of several types. -/
def unionTerms : List (Option (List (Bool × Ty))) -> Option (List (Bool × Ty))
  | [] => some []
  | none :: _ => none
  | some terms :: rest => (unionTerms rest).map (terms ++ ·)

/-- What an element of an interface asks, to a bounded depth. -/
def typeSetUpTo (env : Env) : Nat -> Ty -> TypeSet
  | 0, _ => .all
  | bound + 1, type =>
      match env.unalias type with
      | .node (.union tildes) children =>
          let parts := (tildes.zip children).map fun (tilde, child) =>
            if env.isInterface child then
              (typeSetUpTo env bound child).terms
            else
              some [(tilde, child)]
          ⟨unionTerms parts, false⟩
      | named =>
          match env.underlying named with
          | .node (.interface methods comparable _) children =>
              (children.drop methods.length).foldl
                (fun set embedded =>
                  let other := typeSetUpTo env bound embedded
                  ⟨env.commonTerms set.terms other.terms, set.comparable || other.comparable⟩)
                ⟨none, comparable⟩
          | _ => ⟨some [(false, named)], false⟩

/-- What an interface asks. -/
def typeSet (env : Env) (type : Ty) : TypeSet :=
  env.typeSetUpTo (env.depthLimit type) type

/-- The types that stand for a type in a test: for a type parameter those that it
is restricted to, else the type itself. -/
def terms (env : Env) (type : Ty) : List Ty :=
  if env.isParam type then
    ((env.typeSet type).terms.getD []).map fun term => env.underlying term.2
  else
    [env.underlying type]

/-- A test holds for the type, or for all types that a type parameter is restricted
to. -/
def allTerms (env : Env) (test : Ty -> Bool) (type : Ty) : Bool :=
  let terms := env.terms type
  !terms.isEmpty && terms.all test

/-- A test holds for the basic type that a type is made like. -/
def allBasic (env : Env) (test : Basic -> Bool) (type : Ty) : Bool :=
  env.allTerms (fun
    | .node (.basic basic) _ => test basic
    | _ => false) type

/-- A test holds for the basic type that a type is made like, where a type parameter
is like none. -/
def isBasicWith (env : Env) (test : Basic -> Bool) (type : Ty) : Bool :=
  !env.isParam type && (env.basic? type).any test

/-- The one channel type among several that allows the least. -/
def commonChannel (env : Env) : List Ty -> Option Ty
  | [] => none
  | [type] => some type
  | type :: rest => do
      let other <- commonChannel env rest
      match type, other with
      | .node (.channel leftUse) [leftElement], .node (.channel rightUse) [rightElement] =>
          if !env.identical leftElement rightElement then none
          else if leftUse == rightUse then some type
          else if leftUse == .both then some other
          else if rightUse == .both then some type
          else none
      | _, _ => none

/-- The one type that all values of a type are made like. -/
def core? (env : Env) (type : Ty) : Option Ty :=
  if env.isParam type then
    match env.terms type with
    | [] => none
    | first :: rest =>
        if rest.all (env.identical first) then some first
        else env.commonChannel (first :: rest)
  else
    some (env.underlying type)

/-- The core of a type, where texts and slices of bytes together count as texts. -/
def coreText? (env : Env) (type : Ty) : Option Ty :=
  match env.core? type with
  | some core => some core
  | none =>
      let terms := env.terms type
      let isText : Ty -> Bool
        | .node (.basic basic) _ => basic.isString
        | .node .slice [element] => env.identical element (.basic .byte)
        | _ => false
      if !terms.isEmpty && terms.all isText then some (.basic .string) else none

/-- What a type of pointers points to, also behind a name. -/
def corePointee? (env : Env) (type : Ty) : Option Ty :=
  match env.core? type with
  | some (.node .pointer [element]) => some element
  | _ => none

/-! ## Selection -/

/-- Something that can be selected from a value.  The path leads through embedded
fields; the selection is indirect if a pointer is on the way. -/
inductive Member where
  /-- A field; the path ends with it. -/
  | field (path : List Nat) (type : Ty) (indirect : Bool)
  /-- A declared method, with the arguments of the type that it belongs to. -/
  | method (path : List Nat) (function : Nat) (args : List Ty) (indirect : Bool)
  /-- A method that an interface asks for. -/
  | requirement (path : List Nat) (owner : Ty) (name : MethodName) (type : Ty)
      (indirect : Bool)

/-- A type at which a search has arrived. -/
structure Visit where
  /-- The type. -/
  type : Ty
  /-- The path to it. -/
  path : List Nat
  /-- Whether a pointer is on the way. -/
  indirect : Bool
  /-- Whether it was reached in several ways at one depth. -/
  multiple : Bool

/-- What a type of pointers written as such points to, and whether it is one. -/
def dereferenced (env : Env) (type : Ty) : Ty × Bool :=
  match env.pointee? type with
  | some element => (element, true)
  | none => (type, false)

/-- The name that a member is found under. -/
def FieldInfo.hasName (field : FieldInfo) (name : MethodName) : Bool :=
  field.name == name.name && (isExported name.name || field.package == name.package)

/-- Type arguments behind a name, if the type is declared. -/
def declared? (env : Env) (type : Ty) : Option (Nat × List Ty) :=
  match env.unalias type with
  | .node (.named declaration) args => some (declaration, args)
  | _ => none

/-- What has the name right at a type, and the embedded types below it. -/
def membersAt (env : Env) (name : MethodName) (visit : Visit) : List Member × List Visit :=
  let method? := (env.declared? visit.type).bind fun (declaration, args) =>
    ((env.typeDecl declaration).methods.lookup name).map fun function =>
      Member.method visit.path function args visit.indirect
  match method? with
  | some method => ([method], [])
  | none =>
      match env.underlying visit.type with
      | .node (.struct fields) types =>
          let numbered := (fields.zip types).zipIdx
          let found := numbered.filterMap fun ((field, type), index) =>
            if FieldInfo.hasName field name then
              some (Member.field (visit.path ++ [index]) type visit.indirect)
            else
              none
          let below := numbered.filterMap fun ((field, type), index) =>
            if field.embedded then
              let (element, pointer) := env.dereferenced type
              some ⟨element, visit.path ++ [index], visit.indirect || pointer, visit.multiple⟩
            else
              none
          (found, below)
      | .node (.interface listed comparable implicit) children =>
          let interface := Ty.node (.interface listed comparable implicit) children
          match (env.methods interface).lookup name with
          | some type => ([.requirement visit.path visit.type name type visit.indirect], [])
          | none => ([], [])
      | _ => ([], [])

/-- Types that were reached in several ways are visited once. -/
def consolidate (env : Env) : List Visit -> List Visit
  | [] => []
  | visit :: rest =>
      let others := consolidate env rest
      let twice := rest.any fun other => env.identical visit.type other.type
      { visit with multiple := visit.multiple || twice } ::
        others.filter fun other => !env.identical visit.type other.type

/-- Search depth by depth; declared types seen before are passed over. -/
def searchUpTo
    (env : Env)
    (name : MethodName) : Nat -> List Ty -> List Visit -> Option Member
  | 0, _, _ => none
  | _, _, [] => none
  | bound + 1, seen, visits =>
      let fresh := visits.filter fun visit =>
        !((env.declared? visit.type).isSome && seen.any (env.identical visit.type))
      let results := fresh.map fun visit => (visit, env.membersAt name visit)
      let found := results.flatMap fun (visit, members, _) =>
        members.map fun member => (member, visit.multiple)
      match found with
      | [] =>
          searchUpTo env name bound (seen ++ fresh.map Visit.type)
            (env.consolidate (results.flatMap fun (_, _, below) => below))
      | [(member, false)] => some member
      | _ => none

/-- The method of the number has a pointer as its receiver. -/
def hasPointerReceiver (env : Env) (function : Nat) : Bool :=
  ((env.callable function).receiver.map Receiver.pointer).getD false

/-- The type is declared as a type of pointers. -/
def isNamedPointer (env : Env) (type : Ty) : Bool :=
  (env.declared? type).isSome &&
    match env.underlying type with
    | .node .pointer _ => true
    | _ => false

/-- The field or method with a name in a type; a method of pointers to the type is
found too, as the caller may not want. -/
def find? (env : Env) (type : Ty) (name : MethodName) : Option Member :=
  if name.name == "_" then
    none
  else if env.isNamedPointer type then
    let (element, _) := env.dereferenced (env.underlying type)
    if env.isInterface element then
      none
    else
      match env.searchUpTo name env.chainLimit [] [⟨element, [], true, false⟩] with
      | some (.field path type indirect) => some (.field path type indirect)
      | _ => none
  else
    let (element, pointer) := env.dereferenced type
    if pointer && env.isInterface element then
      none
    else
      env.searchUpTo name env.chainLimit [] [⟨element, [], pointer, false⟩]

/-- The field or method that can be selected from a value of a type, which may have
an address. -/
def select? (env : Env) (type : Ty) (addressable : Bool) (name : MethodName) : Option Member :=
  match env.find? type name with
  | some (.method path function args indirect) =>
      if env.hasPointerReceiver function && !indirect && !addressable then
        none
      else
        some (.method path function args indirect)
  | other => other

/-- The type of a method of a declared type with arguments. -/
def methodSignature (env : Env) (function : Nat) (args : List Ty) : Signature :=
  let callable := env.callable function
  (Signature.ofType? (callable.signature.type.instantiate callable.typeParams args)).getD default

end Env
end Source
end CtorScan
