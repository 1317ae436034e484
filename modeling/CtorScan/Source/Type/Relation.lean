import CtorScan.Source.Type.Members

/-!
# How types relate

Whether values of a type can be compared, whether a type has the methods of an
interface and lies in its type set, and whether values of one type can be assigned
or converted to another.  Constants without a type are not treated here.
-/

namespace CtorScan
namespace Source
namespace Env

/-! ## Equality -/

/-- Values of the type have an equality.  Values of interfaces have one that may
fail when it is asked; a flag admits it. -/
def comparableUpTo (env : Env) (dynamic : Bool) : Nat -> Ty -> Bool
  | 0, _ => true
  | bound + 1, type =>
      match env.underlying type with
      | .node (.basic basic) _ => basic != .untypedNil
      | .node .pointer _ => true
      | .node (.channel _) _ => true
      | .node (.struct _) children => children.all (comparableUpTo env dynamic bound)
      | .node (.array _) children => children.all (comparableUpTo env dynamic bound)
      | .node (.interface _ _ _) _ =>
          if dynamic && !env.isParam type then
            true
          else
            let set := env.typeSet type
            match set.terms with
            | none => set.comparable
            | some terms => terms.all fun term => comparableUpTo env false bound term.2
      | _ => false

/-- Values of the type can be compared. -/
def isComparable (env : Env) (type : Ty) : Bool :=
  env.comparableUpTo true (env.depthLimit type) type

/-- Values of the type can be compared, and the comparison cannot fail. -/
def isStrictlyComparable (env : Env) (type : Ty) : Bool :=
  env.comparableUpTo false (env.depthLimit type) type

/-! ## Interfaces -/

/-- The type of the method of a type under a name, which can be called on any of
its values. -/
def methodType? (env : Env) (type : Ty) (name : MethodName) : Option Ty :=
  match env.select? type false name with
  | some (.method _ function args _) => some (env.methodSignature function args).type
  | some (.requirement _ _ _ methodType _) => some methodType
  | _ => none

/-- The type has all methods of an interface. -/
def hasMethods (env : Env) (type interface : Ty) : Bool :=
  (env.methods interface).all fun (name, wanted) =>
    match env.methodType? type name with
    | some found => env.identical found wanted
    | none => false

/-- The term stands for the type. -/
def termIncludes (env : Env) (type : Ty) (term : Bool × Ty) : Bool :=
  if term.1 then
    env.identical (env.underlying type) (env.underlying term.2)
  else
    env.identical type term.2

/-- One term lies in another. -/
def termWithin (env : Env) (inner outer : Bool × Ty) : Bool :=
  if outer.1 then
    env.identical (env.underlying inner.2) (env.underlying outer.2)
  else
    !inner.1 && env.identical inner.2 outer.2

/-- The type admits no value. -/
def isEmptySet (env : Env) (type : Ty) : Bool :=
  (env.typeSet type).terms == some []

/-- The interface asks for nothing. -/
def asksNothing (env : Env) (interface : Ty) : Bool :=
  let set := env.typeSet interface
  (env.methods interface).isEmpty && set.terms.isNone && !set.comparable

/-- The type has the equality that an interface asks for; as a constraint, an
interface asks less. -/
def hasAskedEquality
    (env : Env)
    (isConstraint : Bool)
    (type interface : Ty) : Bool :=
  !(env.typeSet interface).comparable || env.isStrictlyComparable type ||
    (isConstraint && env.isComparable type)

/-- The type has what an interface asks for. -/
def implements
    (env : Env)
    (isConstraint : Bool)
    (type interface : Ty) : Bool :=
  if !env.isInterface interface then
    false
  else if env.asksNothing interface then
    true
  else if env.isInterface type && env.isEmptySet type then
    true
  else if env.isEmptySet interface then
    false
  else if !env.hasMethods type interface then
    false
  else
    match (env.typeSet interface).terms with
    | none => env.hasAskedEquality isConstraint type interface
    | some outer =>
        let within :=
          if env.isInterface type then
            match (env.typeSet type).terms with
            | none => false
            | some inner =>
                inner.all fun term => outer.any (env.termWithin term)
          else
            outer.any (env.termIncludes type)
        within && env.hasAskedEquality isConstraint type interface

/-! ## Assignment -/

/-- Values of one type can be assigned to variables of another, when neither
depends on a type parameter. -/
def assignablePlain (env : Env) (source target : Ty) : Bool :=
  if env.identical source target then
    true
  else
    let sourceUnder := env.underlying source
    let targetUnder := env.underlying target
    let oneUnnamed := !env.hasName source || !env.hasName target
    if env.identical sourceUnder targetUnder && oneUnnamed && !env.isParam source &&
        !env.isParam target then
      true
    else if env.isPlainInterface target && env.implements false source target then
      true
    else
      match sourceUnder, targetUnder with
      | .node (.channel .both) [left], .node (.channel _) [right] =>
          env.identical left right && oneUnnamed
      | _, _ => false

/-- The types that a type parameter is restricted to. -/
def termTypes (env : Env) (type : Ty) : List Ty :=
  ((env.typeSet type).terms.getD []).map Prod.snd

/-- Values of one type can be assigned to variables of another. -/
def assignable (env : Env) (source target : Ty) : Bool :=
  if env.assignablePlain source target then
    true
  else if !env.hasName source && env.isParam target then
    let terms := env.termTypes target
    !terms.isEmpty && terms.all (env.assignablePlain source)
  else if env.isParam source && !env.hasName target then
    let terms := env.termTypes source
    !terms.isEmpty && terms.all fun term => env.assignablePlain term target
  else
    false

/-! ## Conversion -/

/-- Slices of bytes or of characters. -/
def isBytesOrRunes (env : Env) (type : Ty) : Bool :=
  match env.underlying type with
  | .node .slice [element] =>
      match env.basic? element with
      | some basic => basic.plain == .uint8 || basic.plain == .int32
      | none => false
  | _ => false

/-- The type is made like a pointer. -/
def isPointer (env : Env) (type : Ty) : Bool :=
  match env.underlying type with
  | .node .pointer _ => true
  | _ => false

/-- The element type of arrays, or of arrays behind a pointer. -/
def arrayElement? (env : Env) (type : Ty) : Option Ty :=
  match env.underlying type with
  | .node (.array _) [element] => some element
  | .node .pointer [target] =>
      match env.underlying target with
      | .node (.array _) [element] => some element
      | _ => none
  | _ => none

/-- Two written types of pointers point to types that are made alike. -/
def pointersAlike (env : Env) (source target : Ty) : Bool :=
  match env.pointee? source, env.pointee? target with
  | some left, some right =>
      env.identicalWithoutTags (env.underlying left) (env.underlying right) &&
        !env.isParam left && !env.isParam right
  | _, _ => false

/-- Values of one type can be converted to another, when neither is a type
parameter. -/
def convertiblePlain (env : Env) (source target : Ty) : Bool :=
  let sourceUnder := env.underlying source
  let targetUnder := env.underlying target
  let is (test : Basic -> Bool) (type : Ty) : Bool :=
    match type with
    | .node (.basic basic) _ => test basic
    | _ => false
  let isReal (basic : Basic) : Bool := basic.isInteger || basic.isFloat
  let isUnsafe (basic : Basic) : Bool := basic == .unsafePointer
  let isWord (basic : Basic) : Bool := basic == .uintptr
  env.assignable source target ||
    (env.identicalWithoutTags sourceUnder targetUnder && !env.isParam source &&
      !env.isParam target) ||
    env.pointersAlike source target ||
    (is isReal sourceUnder && is isReal targetUnder) ||
    (is Basic.isComplex sourceUnder && is Basic.isComplex targetUnder) ||
    ((is Basic.isInteger sourceUnder || env.isBytesOrRunes sourceUnder) &&
      is Basic.isString targetUnder) ||
    (is Basic.isString sourceUnder && env.isBytesOrRunes targetUnder) ||
    ((env.isPointer sourceUnder || is isWord sourceUnder) && is isUnsafe targetUnder) ||
    (is isUnsafe sourceUnder && (env.isPointer targetUnder || is isWord targetUnder)) ||
    (match sourceUnder, env.arrayElement? targetUnder with
      | .node .slice [left], some right => env.identical left right
      | _, _ => false)

/-- Values of one type can be converted to another. -/
def convertible (env : Env) (source target : Ty) : Bool :=
  if env.assignable source target then
    true
  else
    let sources := if env.isParam source then env.termTypes source else [source]
    let targets := if env.isParam target then env.termTypes target else [target]
    !sources.isEmpty && !targets.isEmpty &&
      sources.all fun left => targets.all fun right => env.convertiblePlain left right

/-! ## Absent values -/

/-- The type has a value that stands for nothing. -/
def hasNil (env : Env) (type : Ty) : Bool :=
  let test : Ty -> Bool
    | .node (.basic .unsafePointer) _ => true
    | .node .pointer _ => true
    | .node .slice _ => true
    | .node .map _ => true
    | .node (.channel _) _ => true
    | .node (.func _ _ _) _ => true
    | .node (.interface _ _ _) _ => true
    | _ => false
  if env.isParam type then env.allTerms test type else test (env.underlying type)

end Env
end Source
end CtorScan
