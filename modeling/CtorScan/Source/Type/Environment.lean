import CtorScan.Source.Type.Basic
import CtorScan.Text.Capital

/-!
# What is declared about types

An environment keeps the declared types, type parameters, functions and variables
of all packages under their numbers.  From it come the type that a name stands for
and the type that another one is made like.
-/

namespace CtorScan
namespace Source

/-- A declared type, or another name for a type. -/
structure TypeDecl where
  /-- Its name. -/
  name : String
  /-- The path of its package, empty for the types that every file knows. -/
  package : String
  /-- Its type parameters. -/
  params : List Nat
  /-- Whether it is only another name. -/
  isAlias : Bool
  /-- What it stands for. -/
  body : Ty
  /-- Its methods, by their names and the numbers of their functions. -/
  methods : List (MethodName × Nat)
deriving Inhabited

/-- A type parameter. -/
structure ParamDecl where
  /-- Its name. -/
  name : String
  /-- The interface that its arguments have to satisfy. -/
  constraint : Ty
deriving Inhabited

/-- The receiver of a method. -/
structure Receiver where
  /-- Its name, possibly empty. -/
  name : String
  /-- The declared type that the method belongs to. -/
  declaration : Nat
  /-- Whether it is a pointer. -/
  pointer : Bool
deriving Inhabited

/-- The type of the receiver of a method with its own type parameters. -/
def Receiver.type (receiver : Receiver) (params : List Nat) : Ty :=
  let base := Ty.named receiver.declaration (params.map Ty.param)
  if receiver.pointer then .pointer base else base

/-- A declared function or method. -/
structure Callable where
  /-- The path of its package. -/
  package : String
  /-- Its name. -/
  name : String
  /-- Its receiver, for a method. -/
  receiver : Option Receiver
  /-- Its type parameters; those of a method belong to its receiver. -/
  typeParams : List Nat
  /-- Its parameters and results. -/
  signature : Signature
deriving Inhabited

/-- A declared variable of a package. -/
structure GlobalVar where
  /-- The path of its package. -/
  package : String
  /-- Its name. -/
  name : String
  /-- Its type. -/
  type : Ty
deriving Inhabited

/-- All declarations, under their numbers. -/
structure Env where
  /-- The declared types. -/
  types : Array TypeDecl
  /-- The type parameters. -/
  params : Array ParamDecl
  /-- The declared functions. -/
  functions : Array Callable
  /-- The declared variables. -/
  globals : Array GlobalVar
deriving Inhabited

/-- The number of the type of errors. -/
def errorDecl : Nat := 0

/-- The number of the interface of types with an equality. -/
def comparableDecl : Nat := 1

/-- The number of the other name of the interface without demands. -/
def anyDecl : Nat := 2

/-- The type of errors. -/
def Ty.error : Ty := .named errorDecl []

/-- The interface without demands by its other name. -/
def Ty.any : Ty := .synonym anyDecl []

namespace Env

/-- The declarations that every file knows. -/
def initial : Env where
  types := #[
    { name := "error", package := "", params := [], isAlias := false,
      body := .node (.interface [⟨"Error", ""⟩] false false)
        [Ty.func [] [("", .basic .string)] false],
      methods := [] },
    { name := "comparable", package := "", params := [], isAlias := false,
      body := .node (.interface [] true false) [], methods := [] },
    { name := "any", package := "", params := [], isAlias := true, body := .empty,
      methods := [] }]
  params := #[]
  functions := #[]
  globals := #[]

/-- A declared type. -/
def typeDecl (env : Env) (declaration : Nat) : TypeDecl :=
  env.types.getD declaration default

/-- A type parameter. -/
def paramDecl (env : Env) (id : Nat) : ParamDecl :=
  env.params.getD id default

/-- A declared function. -/
def callable (env : Env) (index : Nat) : Callable :=
  env.functions.getD index default

/-- What a declared type with arguments stands for. -/
def expand (env : Env) (declaration : Nat) (args : List Ty) : Ty :=
  let declared := env.typeDecl declaration
  declared.body.instantiate declared.params args

/-- A bound on the length of a chain of names. -/
def chainLimit (env : Env) : Nat :=
  env.types.size + env.params.size + 2

/-- A bound on how deep a type goes that does not contain itself: it is made of its
own parts and of those of what is declared, each at most once on a way down. -/
def depthLimit (env : Env) (type : Ty) : Nat :=
  let declared := env.types.foldl (fun total declared => total + declared.body.size) 0
  let constraints := env.params.foldl (fun total declared => total + declared.constraint.size) 0
  env.chainLimit + declared + constraints + type.size

/-- Replace another name by what it stands for, as often as the bound allows. -/
def unaliasUpTo (env : Env) : Nat -> Ty -> Ty
  | bound + 1, .node (.synonym declaration) args =>
      unaliasUpTo env bound (env.expand declaration args)
  | _, type => type

/-- The type without another name for it on the outside. -/
def unalias (env : Env) (type : Ty) : Ty :=
  env.unaliasUpTo env.chainLimit type

/-- A constraint as an interface: one that is none admits just the type it is. -/
def asInterface (constraint underlying : Ty) : Ty :=
  if underlying.isInterfaceHead then
    underlying
  else
    .node (.interface [] false true) [constraint]

/-- Follow names, as often as the bound allows. -/
def underlyingUpTo (env : Env) : Nat -> Ty -> Ty
  | bound + 1, .node (.synonym declaration) args =>
      underlyingUpTo env bound (env.expand declaration args)
  | bound + 1, .node (.named declaration) args =>
      underlyingUpTo env bound (env.expand declaration args)
  | bound + 1, .node (.param id) _ =>
      let constraint := (env.paramDecl id).constraint
      asInterface constraint (underlyingUpTo env bound constraint)
  | _, type => type

/-- The type that a type is made like: a type without a name; for a type parameter
it is an interface. -/
def underlying (env : Env) (type : Ty) : Ty :=
  env.underlyingUpTo env.chainLimit type

/-- The type is a type parameter. -/
def isParam (env : Env) (type : Ty) : Bool :=
  match env.unalias type with
  | .node (.param _) _ => true
  | _ => false

/-- The type is an interface or a type parameter. -/
def isInterface (env : Env) (type : Ty) : Bool :=
  (env.underlying type).isInterfaceHead

/-- The type is an interface and no type parameter. -/
def isPlainInterface (env : Env) (type : Ty) : Bool :=
  !env.isParam type && env.isInterface type

/-- The basic type that a type is made like; a type parameter is like none. -/
def basic? (env : Env) (type : Ty) : Option Basic :=
  match env.underlying type with
  | .node (.basic basic) _ => some basic
  | _ => none

/-- The type of a constant without a type of its own. -/
def isUntyped (_ : Env) (type : Ty) : Bool :=
  match type with
  | .node (.basic basic) _ => basic.isUntyped
  | _ => false

/-- What a pointer type points to, when the type is written as one. -/
def pointee? (env : Env) (type : Ty) : Option Ty :=
  match env.unalias type with
  | .node .pointer [element] => some element
  | _ => none

/-- The type has a name of its own: it is declared, basic or a parameter. -/
def hasName (env : Env) (type : Ty) : Bool :=
  match env.unalias type with
  | .node (.basic _) _ => true
  | .node (.named _) _ => true
  | .node (.param _) _ => true
  | _ => false

end Env

/-- A name starts with a capital letter, so that other packages can use it. -/
def isExported (name : String) : Bool :=
  match name.toList with
  | c :: _ => Text.isCapital c
  | [] => false

end Source
end CtorScan
