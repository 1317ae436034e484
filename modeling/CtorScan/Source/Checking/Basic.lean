import CtorScan.Source.Type.Inference
import CtorScan.Source.Typed

/-!
# Checking source files

Checking is a computation that fails on the first mistake.  Its state holds what is
declared so far, which names are visible, and what the code at hand depends on.
-/

namespace CtorScan
namespace Source

variable {π : Type}

/-- What a name stands for. -/
inductive Object where
  /-- A declared type. -/
  | typeName (declaration : Nat)
  /-- A basic type. -/
  | basicType (basic : Basic)
  /-- A type parameter. -/
  | typeParam (id : Nat)
  /-- A constant. -/
  | constant (value : Constant) (type : Ty)
  /-- A variable of a function. -/
  | variable_ (var : Var)
  /-- A variable of a package. -/
  | global (index : Nat)
  /-- A declared function. -/
  | function (index : Nat)
  /-- A function of the language. -/
  | builtin (name : String)
  /-- The value that stands for nothing. -/
  | nil
  /-- The number of a constant in its declaration. -/
  | iota
  /-- Another package. -/
  | package (path : String)

instance : Inhabited Object := ⟨.nil⟩

/-- What a declaration of a package says. -/
inductive EntityKind (π : Type) where
  /-- A constant with its number in the declaration. -/
  | constant (type : Option (Expr π)) (value : Option (Expr π)) (iota : Nat)
  /-- A variable with its number; the declarations that share one value with it are a
  group. -/
  | global (index : Nat) (type : Option (Expr π)) (value : Option (Expr π)) (group : List Nat)
  /-- A type. -/
  | type (spec : TypeSpec π)
  /-- A function with its number. -/
  | function (index : Nat) (declaration : FunctionDecl π)

/-- A declaration of a package. -/
structure Entity (π : Type) where
  /-- Its name. -/
  name : String
  /-- The number of the file it is in. -/
  file : Nat
  /-- What it says. -/
  kind : EntityKind π

instance : Inhabited (Entity π) := ⟨⟨"", 0, .constant none none 0⟩⟩

/-- How far a declaration is resolved. -/
inductive Status where
  /-- Not at all. -/
  | pending
  /-- Its resolution has begun; part of the result may be known. -/
  | busy (object : Option Object)
  /-- It is resolved. -/
  | done (object : Object)

instance : Inhabited Status := ⟨.pending⟩

/-- Something that initial values depend on. -/
inductive Dependency where
  /-- A constant of the package, by its declaration. -/
  | constant (entity : Nat)
  /-- A variable of the package. -/
  | global (index : Nat)
  /-- A function. -/
  | function (index : Nat)
deriving DecidableEq

/-- A condition on types that can only be tested when they are complete. -/
inductive Demand where
  /-- The type can be the key of a map. -/
  | key (type : Ty)
  /-- The arguments satisfy the constraints of the parameters. -/
  | arguments (params : List Nat) (args : List Ty)
  /-- The type is not only good as a constraint. -/
  | ordinary (type : Ty)
  /-- The type can be embedded in a structure; a flag says that it is behind a
  pointer. -/
  | embeddable (type : Ty) (pointer : Bool)
  /-- The type can be an element of an interface; a flag says that it stands for all
  types made like it. -/
  | element (type : Ty) (tilde inUnion : Bool)
  /-- Methods of the interface with one name have one type. -/
  | distinctMethods (type : Ty)
  /-- The declared type does not contain itself. -/
  | finite (declaration : Nat)

/-- What is known about a variable of a function. -/
structure VarUse where
  /-- Whether it has to be used. -/
  required : Bool
  /-- Whether it is used. -/
  used : Bool
deriving Inhabited

/-- The names that a package offers. -/
structure PackageScope where
  /-- Its path. -/
  path : String
  /-- Its name. -/
  name : String
  /-- What its names stand for. -/
  objects : List (String × Object)
deriving Inhabited

/-- The names that belong to one file. -/
structure FileScope where
  /-- The packages by their names in the file. -/
  packages : List (String × String)
  /-- What can be used without the name of its package, with the path of that. -/
  objects : List (String × Object × String)
deriving Inhabited

/-- The state of checking. -/
structure CheckState (π : Type) where
  /-- What is declared. -/
  env : Env
  /-- The path of the package. -/
  package : String
  /-- The declarations of the package. -/
  entities : Array (Entity π)
  /-- How far they are resolved. -/
  status : Array Status
  /-- The numbers of the declarations by name. -/
  names : List (String × Nat)
  /-- The declarations whose resolution has begun, the last one first. -/
  path : List Nat
  /-- The names of each file. -/
  files : Array FileScope
  /-- The packages that can be used. -/
  packages : List PackageScope
  /-- The packages that were used, by file and name. -/
  usedImports : List (Nat × String)
  /-- The number of the file at hand. -/
  file : Nat
  /-- The names of the functions and blocks around, the innermost first. -/
  scopes : List (List (String × Object))
  /-- What is known about variables. -/
  vars : Array VarUse
  /-- What the code at hand depends on. -/
  dependencies : List Dependency
  /-- The number of the constant at hand. -/
  iota : Option Nat
  /-- The results of the function at hand. -/
  results : List Var
  /-- Whether there is a call or a receipt in the expression at hand. -/
  hasCall : Bool
  /-- Conditions to be tested later. -/
  demands : List Demand
  /-- A bound on the nesting of statements. -/
  depth : Nat
  /-- The first values of variables of the package, by their declarations. -/
  values : List (Nat × Initializer π)
  /-- What constants, variables and functions of the package depend on. -/
  needs : List (Dependency × List Dependency)
deriving Inhabited

/-- What kind of thing an expression stands for. -/
inductive Mode where
  /-- No value. -/
  | nothing
  /-- A function of the language. -/
  | builtin (name : String)
  /-- A type. -/
  | type
  /-- A generic type without its arguments. -/
  | genericType (declaration : Nat)
  /-- A generic function, with the type arguments that are given. -/
  | generic (index : Nat) (given : List Ty)
  /-- A constant. -/
  | constant
  /-- A variable with an address. -/
  | place
  /-- An element of a map. -/
  | element
  /-- A value. -/
  | value
  /-- The value that stands for nothing. -/
  | nil
  /-- A value that may also tell whether it succeeded. -/
  | checkable

/-- What is known about an expression. -/
structure Operand (π : Type) where
  /-- What kind of thing it is. -/
  mode : Mode
  /-- Its type. -/
  type : Ty
  /-- The tree with its meaning. -/
  tree : Typed π

instance : Inhabited (Operand π) := ⟨⟨.nothing, default, .nil⟩⟩

/-- A computation that checks. -/
abbrev Check (π : Type) := StateT (CheckState π) Option

namespace Check

/-- The condition holds, or there is a mistake. -/
def ensure (condition : Bool) : Check π Unit :=
  if condition then pure () else failure

/-- What is declared. -/
def env : Check π Env := do
  return (<- get).env

/-- Ask the declarations. -/
def ask (question : Env -> α) : Check π α := do
  return question (<- get).env

/-- Change the declarations. -/
def modifyEnv (change : Env -> Env) : Check π Unit :=
  modify fun state => { state with env := change state.env }

/-- Test a condition later. -/
def demand (item : Demand) : Check π Unit :=
  modify fun state => { state with demands := item :: state.demands }

/-- The name of a member as the package at hand sees it. -/
def memberName (name : String) : Check π MethodName := do
  return .of (<- get).package name

/-! ## Variables and names -/

/-- A new variable. -/
def newVar (name : String) (type : Ty) (required : Bool) : Check π Var := do
  let state <- get
  set { state with vars := state.vars.push ⟨required, false⟩ }
  return ⟨state.vars.size, name, type⟩

/-- Note that a variable is used. -/
def use (var : Var) : Check π Unit :=
  modify fun state =>
    { state with vars := state.vars.modify var.id fun info => { info with used := true } }

/-- A variable is used. -/
def isUsed (var : Var) : Check π Bool := do
  return ((<- get).vars.getD var.id default).used

/-- Note what the code at hand depends on. -/
def depend (dependency : Dependency) : Check π Unit :=
  modify fun state =>
    if state.dependencies.contains dependency then state
    else { state with dependencies := dependency :: state.dependencies }

/-- Make a name visible in the innermost block, where it must be new. -/
def declare (name : String) (object : Object) : Check π Unit := do
  if name == "_" then
    pure ()
  else
    let state <- get
    match state.scopes with
    | [] => failure
    | scope :: rest =>
        ensure (scope.lookup name).isNone
        set { state with scopes := ((name, object) :: scope) :: rest }

/-- What a name stands for in the blocks around. -/
def localObject? (name : String) : Check π (Option Object) := do
  return (<- get).scopes.findSome? (List.lookup name)

/-- What a name stands for in the innermost block. -/
def innermostObject? (name : String) : Check π (Option Object) := do
  return ((<- get).scopes.head?.getD []).lookup name

/-- Do something in a block of its own. -/
def inBlock (action : Check π α) : Check π α := do
  modify fun state => { state with scopes := [] :: state.scopes }
  let result <- action
  modify fun state => { state with scopes := state.scopes.tail }
  return result

/-- Do something with a number for the constant at hand. -/
def withIota (iota : Option Nat) (action : Check π α) : Check π α := do
  let saved := (<- get).iota
  modify fun state => { state with iota := iota }
  let result <- action
  modify fun state => { state with iota := saved }
  return result

/-- Do something in a function with some results. -/
def inFunction (results : List Var) (action : Check π α) : Check π α := do
  let saved <- get
  modify fun state => { state with results := results, iota := none }
  let result <- action
  modify fun state =>
    { state with results := saved.results, hasCall := saved.hasCall, iota := saved.iota }
  return result

/-- Note that there is a call or a receipt. -/
def noteCall : Check π Unit :=
  modify fun state => { state with hasCall := true }

/-- Do something and tell whether there was a call or a receipt in it. -/
def watchCalls (action : Check π α) : Check π (α × Bool) := do
  let saved := (<- get).hasCall
  modify fun state => { state with hasCall := false }
  let result <- action
  let seen := (<- get).hasCall
  modify fun state => { state with hasCall := saved || seen }
  return (result, seen)

/-- Do something outside of all functions, in a file, and collect what it depends
on. -/
def atTop (file : Nat) (action : Check π α) : Check π (α × List Dependency) := do
  let saved <- get
  set { saved with
    file := file, scopes := [], iota := none, results := [], hasCall := false,
    dependencies := [] }
  let result <- action
  let dependencies := (<- get).dependencies
  modify fun state =>
    { state with
      file := saved.file, scopes := saved.scopes, iota := saved.iota,
      results := saved.results, hasCall := saved.hasCall,
      dependencies := saved.dependencies }
  return (result, dependencies)

/-- The names that every file knows. -/
def known : List (String × Object) :=
  (Basic.predeclared.map fun basic => (basic.name, Object.basicType basic)) ++
    [("error", .typeName errorDecl), ("comparable", .typeName comparableDecl),
     ("any", .typeName anyDecl), ("nil", .nil), ("iota", .iota),
     ("true", .constant (.bool true) (.basic .untypedBool)),
     ("false", .constant (.bool false) (.basic .untypedBool))] ++
    (["append", "cap", "clear", "close", "complex", "copy", "delete", "imag", "len", "make",
      "max", "min", "new", "panic", "print", "println", "real", "recover"].map
        fun name => (name, Object.builtin name))

/-- Note that the file at hand uses an imported package. -/
def useImport (name : String) : Check π Unit :=
  modify fun state =>
    { state with usedImports := (state.file, name) :: state.usedImports }

/-! ## New declarations -/

/-- Reserve a number for a declared type. -/
def newType (declared : TypeDecl) : Check π Nat := do
  let env <- env
  modifyEnv fun env => { env with types := env.types.push declared }
  return env.types.size

/-- Change a declared type. -/
def modifyType (declaration : Nat) (change : TypeDecl -> TypeDecl) : Check π Unit :=
  modifyEnv fun env => { env with types := env.types.modify declaration change }

/-- A new type parameter. -/
def newParam (declared : ParamDecl) : Check π Nat := do
  let env <- env
  modifyEnv fun env => { env with params := env.params.push declared }
  return env.params.size

/-- Set the constraint of a type parameter. -/
def setConstraint (id : Nat) (constraint : Ty) : Check π Unit :=
  modifyEnv fun env =>
    { env with params := env.params.modify id fun declared =>
        { declared with constraint := constraint } }

/-- Change a declared function. -/
def modifyFunction (index : Nat) (change : Callable -> Callable) : Check π Unit :=
  modifyEnv fun env => { env with functions := env.functions.modify index change }

/-- Set the type of a variable of a package. -/
def setGlobal (index : Nat) (type : Ty) : Check π Unit :=
  modifyEnv fun env =>
    { env with globals := env.globals.modify index fun declared =>
        { declared with type := type } }

/-- New type parameters in place of some others, with constraints to match. -/
def freshParams (params : List Nat) : Check π (List Nat) := do
  let env <- env
  let fresh <- params.mapM fun id => newParam (env.paramDecl id)
  (params.zip fresh).forM fun (old, new) =>
    setConstraint new ((env.paramDecl old).constraint.instantiate params (fresh.map Ty.param))
  return fresh

/-! ## Conditions on complete types -/

/-- The interface is only good as a constraint. -/
def isConstraintOnly (env : Env) (type : Ty) : Bool :=
  env.isPlainInterface type &&
    ((env.typeSet type).terms.isSome || env.asksEquality type)

/-- Methods with the same name have the same type. -/
def methodsAgree (env : Env) (type : Ty) : Bool :=
  let methods := env.methodsUpTo (env.depthLimit type) type
  methods.all fun (name, methodType) =>
    methods.all fun (other, otherType) =>
      name != other || env.identical methodType otherType

/-- A type does not contain one of some declared types, other than behind a pointer
or the like. -/
def isFiniteUpTo (env : Env) : Nat -> List Nat -> Ty -> Bool
  | 0, _, _ => false
  | bound + 1, path, type =>
      match type with
      | .node (.synonym declaration) args =>
          !path.contains declaration &&
            isFiniteUpTo env bound (declaration :: path) (env.expand declaration args)
      | .node (.named declaration) args =>
          !path.contains declaration &&
            isFiniteUpTo env bound (declaration :: path) (env.expand declaration args)
      | .node (.array _) children => children.all (isFiniteUpTo env bound path)
      | .node (.struct _) children => children.all (isFiniteUpTo env bound path)
      | .node (.union _) children => children.all (isFiniteUpTo env bound path)
      | .node (.interface methods _ _) children =>
          (children.drop methods.length).all (isFiniteUpTo env bound path)
      | _ => true

/-- A condition on complete types holds. -/
def demandHolds (env : Env) : Demand -> Bool
  | .key type => env.isComparable type
  | .arguments params args => env.satisfies params args
  | .ordinary type => !isConstraintOnly env type
  | .embeddable type pointer =>
      !env.isPointer type && !env.isParam type &&
        env.basic? type != some .unsafePointer &&
        !(pointer && env.isInterface type)
  | .element type tilde inUnion =>
      if tilde then
        !env.isInterface type && env.identical type (env.underlying type)
      else if inUnion then
        !env.isParam type &&
          (!env.isInterface type ||
            ((env.methods type).isEmpty && !env.asksEquality type))
      else
        !env.isParam type
  | .distinctMethods type => methodsAgree env type
  | .finite declaration =>
      let body := (env.typeDecl declaration).body
      isFiniteUpTo env (env.depthLimit body) [declaration] body

/-- Test the conditions that have to hold by now. -/
def settle : Check π Unit := do
  let state <- get
  ensure (state.demands.all (demandHolds state.env))
  set { state with demands := [] }

end Check
end Source
end CtorScan
