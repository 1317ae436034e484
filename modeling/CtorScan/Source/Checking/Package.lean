import CtorScan.Source.Checking.Declaration

/-!
# Checking packages

All declarations of a package are collected first.  Then types, signatures, constants
and variables, and function bodies are checked in turn, and at last the order is found
in which variables get their first values.
-/

namespace CtorScan
namespace Source

variable {π : Type}

/-! ## Names of files -/

namespace FileScope

/-- The names of a file. -/
def names (scope : FileScope) : List String :=
  scope.packages.map Prod.fst ++ scope.objects.map Prod.fst

/-- The name of the package of machine addresses. -/
def unsafePath : String := "unsafe"

/-- The package with a path. -/
def package? (packages : List PackageScope) (path : String) : Option PackageScope :=
  if path == unsafePath then
    some ⟨unsafePath, unsafePath, Checkers.unsafeObjects⟩
  else
    packages.find? fun scope => scope.path == path

/-- Add what one import makes visible. -/
def withImport?
    (packages : List PackageScope)
    (scope : FileScope)
    (item : Import) : Option FileScope :=
  (package? packages item.path).bind fun package =>
    let name := item.name.getD package.name
    if name == "init" then
      none
    else if name == "_" then
      some scope
    else if name == "." then
      let added := (package.objects.filter fun entry => isExported entry.1).map
        fun (name, object) => (name, object, package.path)
      if added.any fun entry => scope.names.contains entry.1 then
        none
      else
        some { scope with objects := scope.objects ++ added }
    else if scope.names.contains name then
      none
    else
      some { scope with packages := scope.packages ++ [(name, package.path)] }

/-- The names that the imports of a file make visible. -/
def ofFile? (packages : List PackageScope) (file : FileTree π) : Option FileScope :=
  file.imports.foldlM (withImport? packages) ⟨[], []⟩

/-- The names of imports of a file that have to be used. -/
def required (packages : List PackageScope) (file : FileTree π) : List String :=
  file.imports.filterMap fun item =>
    (package? packages item.path).bind fun package =>
      match item.name with
      | some "_" => none
      | some "." => some ("." ++ package.path)
      | name => some (name.getD package.name)

end FileScope

/-! ## Declarations of a package -/

/-- The declarations of a package so far, and the functions and variables among
them. -/
structure Collected (π : Type) where
  /-- The declarations, the last one first. -/
  entities : List (Entity π)
  /-- The number of declarations. -/
  count : Nat
  /-- The declared functions and variables. -/
  env : Env

namespace Collected

/-- Add a declaration. -/
def add (collected : Collected π) (entity : Entity π) : Collected π :=
  { collected with entities := entity :: collected.entities, count := collected.count + 1 }

/-- Add a variable. -/
def addGlobal
    (package : String)
    (file : Nat)
    (type value : Option (Expr π))
    (group : List Nat)
    (collected : Collected π)
    (name : Name π) : Collected π :=
  let env := collected.env
  let entity : Entity π := ⟨name.text, file, .global env.globals.size type value group⟩
  { collected.add entity with
    env := { env with globals := env.globals.push ⟨package, name.text, default⟩ } }

/-- Add the variables of one declaration. -/
def addVariables?
    (package : String)
    (file : Nat)
    (collected : Collected π) : ValueSpec π -> Option (Collected π)
  | .mk names type values =>
      if !Checkers.arityFits names type values then
        none
      else if values.length == names.length then
        some <| (names.zip values).foldl (fun collected (name, value) =>
          addGlobal package file type (some value) [] collected name) collected
      else
        let group := List.range' collected.count names.length
        match values with
        | [value] =>
            some (names.foldl (addGlobal package file type (some value) group) collected)
        | _ => some (names.foldl (addGlobal package file type none []) collected)

/-- Add the constants of one declaration. -/
def addConstants?
    (file : Nat)
    (collected : Collected π)
    (specs : List (ValueSpec π)) : Option (Collected π) :=
  (Checkers.constantSpecs? specs).map fun groups =>
    groups.flatten.foldl (fun collected (name, type, value, number) =>
      collected.add ⟨name.text, file, .constant type (some value) number⟩) collected

/-- Add a function or method. -/
def addFunction
    (package : String)
    (file : Nat)
    (collected : Collected π)
    (declared : FunctionDecl π) : Collected π :=
  let env := collected.env
  let callable : Callable :=
    { package := package, name := declared.name.text, receiver := none, typeParams := [],
      signature := default }
  let entity : Entity π := ⟨declared.name.text, file, .function env.functions.size declared⟩
  { collected.add entity with
    env := { env with functions := env.functions.push callable } }

/-- Add a declaration of a file. -/
def addTopLevel?
    (package : String)
    (file : Nat)
    (collected : Collected π) : TopLevel π -> Option (Collected π)
  | .declare (.constants specs) => addConstants? file collected specs
  | .declare (.values specs) => specs.foldlM (addVariables? package file) collected
  | .declare (.types specs) =>
      some <| specs.foldl (fun collected spec =>
        match spec with
        | .mk name _ _ _ => collected.add ⟨name.text, file, .type spec⟩) collected
  | .function declared => some (addFunction package file collected declared)

/-- Add the declarations of some files, which are numbered. -/
def addFiles?
    (package : String)
    (collected : Collected π)
    (files : List (FileTree π × Nat)) : Option (Collected π) :=
  files.foldlM (fun collected (file, number) =>
    file.declarations.foldlM (addTopLevel? package number) collected) collected

end Collected

namespace Entity

/-- The declaration is that of a function that runs by itself. -/
def isInit (entity : Entity π) : Bool :=
  match entity.kind with
  | .function _ declared => entity.name == "init" && declared.receiver.isNone
  | _ => false

/-- The declaration makes its name visible. -/
def isVisible (entity : Entity π) : Bool :=
  entity.name != "_" && !entity.isInit &&
    match entity.kind with
    | .function _ declared => declared.receiver.isNone
    | _ => true

/-- The names with which a program starts are those of functions without parameters
and results. -/
def isProper (packageName : String) (entity : Entity π) : Bool :=
  let isStart := entity.name == "init" || (entity.name == "main" && packageName == "main")
  match entity.kind with
  | .function _ declared =>
      match declared.receiver, declared.type with
      | none, .mk [] [] [] => !(entity.isInit && declared.body.isNone)
      | none, _ => !isStart
      | some _, _ => true
  | _ => !isStart

end Entity

/-! ## The order of first values -/

/-- What is reached from something by way of functions. -/
def reachedUpTo
    (needs : List (Dependency × List Dependency)) :
    Nat -> List Dependency -> List Dependency -> List Dependency
  | 0, found, _ => found
  | _, found, [] => found
  | bound + 1, found, item :: rest =>
      if found.contains item then
        reachedUpTo needs bound found rest
      else
        match item with
        | .function _ =>
            reachedUpTo needs bound (item :: found) ((needs.lookup item).getD [] ++ rest)
        | _ => reachedUpTo needs bound (item :: found) rest

/-- A bound on the steps to reach everything. -/
def reachLimit (needs : List (Dependency × List Dependency)) : Nat :=
  needs.foldl (fun sum entry => sum + entry.2.length + 2) 2

/-- The constants and variables that something needs at once or by way of
functions. -/
def valuesNeeded
    (needs : List (Dependency × List Dependency))
    (item : Dependency) : List Dependency :=
  let direct := (needs.lookup item).getD []
  (reachedUpTo needs (reachLimit needs + direct.length) [] direct).filter fun
    | .function _ => false
    | other => (needs.lookup other).isSome

/-- Arrange items so that each comes after what it needs, the first possible one
first. -/
def arranged? : Nat -> List (Dependency × List Dependency) -> Option (List Dependency)
  | 0, items => if items.isEmpty then some [] else none
  | bound + 1, items =>
      match items with
      | [] => some []
      | _ =>
          match items.find? fun (_, needed) =>
              needed.all fun other => !items.any fun item => item.1 == other with
          | none => none
          | some (first, _) =>
              (arranged? bound (items.filter fun item => item.1 != first)).map
                fun rest => first :: rest

/-- The first values of variables, in the order in which they are computed. -/
def initializers? (state : CheckState π) : Option (List (Initializer π)) := do
  let nodes := (state.entities.toList.zipIdx).filterMap fun (entity, number) =>
    match entity.kind with
    | .constant _ _ _ => some (Dependency.constant number)
    | .global index _ _ _ => some (.global index)
    | _ => none
  let items := nodes.map fun node => (node, valuesNeeded state.needs node)
  let order <- arranged? items.length items
  let first (index : Nat) : Option Nat :=
    (state.entities.toList.zipIdx).findSome? fun (entity, number) =>
      match entity.kind with
      | .global other _ _ group => if other == index then some (group.head?.getD number) else none
      | _ => none
  let numbers := order.filterMap fun
    | .global index => first index
    | _ => none
  return numbers.eraseDups.filterMap fun number => state.values.lookup number

/-! ## Whole packages -/

namespace Checkers

open Check

/-- Resolve the declarations that satisfy a test. -/
def resolveAll (checkers : Checkers π) (test : EntityKind π -> Bool) : Check π Unit := do
  let entities := (<- get).entities
  entities.toList.zipIdx.forM fun (entity, number) => do
    if test entity.kind then
      let _ <- checkers.resolve number

/-- Connect all methods with their types. -/
def attachMethods (checkers : Checkers π) : Check π Unit := do
  let entities := (<- get).entities
  entities.toList.forM fun entity =>
    match entity.kind with
    | .function index declared =>
        if declared.receiver.isSome then do
          let _ <- atTop entity.file (checkers.attachMethod index declared)
        else
          pure ()
    | _ => pure ()

/-- The bodies of all functions. -/
def bodies (checkers : Checkers π) : Check π (List (TypedFunction π)) := do
  let entities := (<- get).entities
  entities.toList.filterMapM fun entity =>
    match entity.kind with
    | .function index declared => do
        let (function, needs) <- atTop entity.file (checkers.declaredBody index declared)
        noteNeeds (.function index) needs
        return some function
    | _ => return none

/-- Check everything that is declared. -/
def package (checkers : Checkers π) : Check π (List (TypedFunction π)) := do
  checkers.resolveAll fun
    | .type _ => true
    | _ => false
  checkers.attachMethods
  checkers.resolveAll fun
    | .function _ _ => true
    | _ => false
  settle
  checkers.resolveAll EntityKind.isValue
  let functions <- checkers.bodies
  settle
  let state <- get
  ensure (state.vars.all fun info => !info.required || info.used)
  return functions

end Checkers

/-- The packages that files use, in the order in which they are first named. -/
def importedPaths (files : List (FileTree π)) : List String :=
  ((files.map fun file => file.imports.map Import.path).flatten).eraseDups

/-- Every file has the same package name. -/
def commonName? : List (FileTree π) -> Option String
  | [] => some ""
  | file :: rest =>
      if rest.all fun other => other.packageName == file.packageName then
        some file.packageName
      else
        none

/-- Names that are visible differ from each other and from those of every file. -/
def namesFit (names : List String) (scopes : List FileScope) : Bool :=
  Checkers.areDistinct names &&
    scopes.all fun scope => scope.names.all fun name => !names.contains name

/-- The state in which the checking of a package begins. -/
def CheckState.start
    (package : String)
    (packages : List PackageScope)
    (scopes : List FileScope)
    (collected : Collected π)
    (depth : Nat) : CheckState π :=
  let entities := collected.entities.reverse
  { env := collected.env
    package := package
    entities := entities.toArray
    status := (entities.map fun _ => Status.pending).toArray
    names := entities.zipIdx.filterMap fun (entity, number) =>
      if entity.isVisible then some (entity.name, number) else none
    path := []
    files := scopes.toArray
    packages := packages
    usedImports := []
    file := 0
    scopes := []
    vars := #[]
    dependencies := []
    iota := none
    results := []
    hasCall := false
    demands := []
    depth := depth
    values := []
    needs := [] }

/-- A package whose meaning is known, what it offers, and everything that is declared
by then. -/
structure CheckedPackage (π : Type) where
  /-- The package. -/
  package : TypedPackage π
  /-- What it offers to others. -/
  scope : PackageScope
  /-- All declarations. -/
  env : Env

/-- All imports that have to be used are used. -/
def importsAreUsed
    (packages : List PackageScope)
    (files : List (FileTree π))
    (used : List (Nat × String)) : Bool :=
  files.zipIdx.all fun (file, number) =>
    (FileScope.required packages file).all fun name => used.contains (number, name)

/-- Check a package with a path, given those that it can use.  The depth is a bound on the
nesting of its trees. -/
def checkPackage?
    (env : Env)
    (packages : List PackageScope)
    (path : String)
    (depth : Nat)
    (files : List (FileTree π)) : Option (CheckedPackage π) := do
  let name <- commonName? files
  let scopes <- files.mapM (FileScope.ofFile? packages)
  let collected <- Collected.addFiles? path ⟨[], 0, env⟩ files.zipIdx
  let visible := (collected.entities.filter Entity.isVisible).map Entity.name
  guard (collected.entities.all (Entity.isProper name))
  guard (namesFit visible scopes)
  let start := CheckState.start path packages scopes collected depth
  let (functions, state) <- (Checkers.upTo depth).package.run start
  guard (importsAreUsed packages files state.usedImports)
  let initializers <- initializers? state
  let objects := state.names.filterMap fun (name, number) =>
    match state.status.getD number default with
    | .done object => some (name, object)
    | _ => none
  return ⟨⟨path, importedPaths files, functions, initializers⟩, ⟨path, name, objects⟩,
    state.env⟩

end Source
end CtorScan
