import CtorScan.Assembly.Constant
import CtorScan.Assembly.Module

/-!
# Resolving a listing

The names of a listing are collected, and every reference is checked against
them.  Parameters, blocks and results without a name get numbers, in order; a
number that is written has to be the one that comes next.
-/

namespace CtorScan
namespace Assembly

/-- What a local name means. -/
inductive Local where
  /-- A block. -/
  | block
  /-- A parameter or a result, with its type. -/
  | value (type : Ty)

/-- The local names of a function. -/
abbrev Locals := List (Ident × Local)

namespace Resolve

/-- Give the next number to something without a name; a number that is written
has to be the next one, unless it is zero. -/
def assign
    (written : Option Ident)
    (next : Nat) : Option (Ident × Nat) :=
  match written with
  | some (.name "") | none => some (.number next, next + 1)
  | some (.name text) => some (.name text, next)
  | some (.number value) =>
      if value = 0 ∨ value = next then some (.number next, next + 1) else none

/-- The locals that parameters introduce, and the next number. -/
def assignParameters : List (Ty × Option Ident) -> Nat -> Option (Locals × Nat)
  | [], next => some ([], next)
  | (type, name) :: rest, next => do
      let (ident, next) <- assign name next
      let (locals, next) <- assignParameters rest next
      return ((ident, .value type) :: locals, next)

/-- The local that an instruction introduces, if it has a result. -/
def assignStep
    (scope : Scope)
    (step : Step)
    (next : Nat) : Option (Locals × Nat) := do
  let type <- scope.resultType? step.result
  match scope.expand type with
  | .void => return ([], next)
  | _ =>
      let (ident, next) <- assign step.name next
      return ([(ident, .value type)], next)

/-- The locals that instructions introduce, and the next number. -/
def assignSteps
    (scope : Scope) : List Step -> Nat -> Option (Locals × Nat)
  | [], next => some ([], next)
  | step :: rest, next => do
      let (first, next) <- assignStep scope step next
      let (locals, next) <- assignSteps scope rest next
      return (first ++ locals, next)

/-- The locals that blocks introduce, with the name of each block. -/
def assignBlocks
    (scope : Scope) : List WrittenBlock -> Nat -> Option (List Ident × Locals)
  | [], _ => some ([], [])
  | block :: rest, next => do
      let (name, next) <- assign block.label next
      let (inner, next) <- assignSteps scope (block.steps ++ [block.last]) next
      let (names, locals) <- assignBlocks scope rest next
      return (name :: names, (name, .block) :: inner ++ locals)

/-- No name stands twice. -/
def areDistinct [BEq α] : List α -> Bool
  | [] => true
  | first :: rest => !rest.contains first && areDistinct rest

/-- The names of parameters and blocks of a function with a body, and all its
locals. -/
def assignFunction
    (scope : Scope)
    (header : Header)
    (blocks : List WrittenBlock) : Option (List Ident × List Ident × Locals) := do
  let (parameters, next) <- assignParameters header.parameters 0
  let (names, locals) <- assignBlocks scope blocks next
  let all := parameters ++ locals
  guard (areDistinct (all.map Prod.fst))
  return (parameters.map Prod.fst, names, all)

/-- Check an operand: a local keeps the type it was defined with. -/
def operand?
    (scope : Scope)
    (locals : Locals)
    (operand : Ty × Operand) : Option Shown :=
  if operand.1.isDefined scope.definitions then
    match operand.2 with
    | .localRef ident =>
        match locals.find? fun entry => entry.1 = ident with
        | some (_, .block) => some ⟨"%" ++ ident.written, .plain .label⟩
        | some (_, .value type) => some ⟨"%" ++ ident.written, type⟩
        | none => none
    | constant => scope.constant? operand.1 constant
  else
    none

/-- The name is that of a block. -/
def isBlock
    (locals : Locals)
    (ident : Ident) : Bool :=
  match locals.find? fun entry => entry.1 = ident with
  | some (_, .block) => true
  | _ => false

/-- Join the pieces of a node. -/
def joinPieces : List String -> String
  | [] => ""
  | "," :: rest => ", " ++ joinPieces rest
  | "|" :: rest => " | " ++ joinPieces rest
  | piece :: rest =>
      if piece.toList.getLast? = some ':' then piece ++ " " ++ joinPieces rest
      else piece ++ joinPieces rest

mutual

/-- Check metadata, and give its shown form. -/
def metadataText?
    (scope : Scope)
    (locals : Locals) : Metadata -> Option String
  | .number value =>
      if scope.metadata.contains value then some ("!" ++ toString value) else none
  | .text bytes => some ("!" ++ quotedBytes bytes)
  | .tuple items => do
      return "!\x7b" ++ ", ".intercalate (<- itemTexts? scope locals items) ++ "\x7d"
  | .value operand => (operand? scope locals operand).map Shown.full
  | .node name pieces references =>
      if references.all scope.metadata.contains then
        some ("!" ++ name ++ "(" ++ joinPieces pieces ++ ")")
      else
        none

/-- Check the elements of a tuple, and give their shown forms. -/
def itemTexts?
    (scope : Scope)
    (locals : Locals) : List (Option Metadata) -> Option (List String)
  | [] => some []
  | none :: rest => do return "null" :: (<- itemTexts? scope locals rest)
  | some item :: rest => do
      let text <- metadataText? scope locals item
      return text :: (<- itemTexts? scope locals rest)

end

/-- Check metadata. -/
def checkMetadata
    (scope : Scope)
    (locals : Locals)
    (list : List Metadata) : Option Unit := do
  discard (list.mapM (metadataText? scope locals))

/-- The shown form and the type of an argument. -/
def argument?
    (scope : Scope)
    (locals : Locals) : Actual -> Option (String × Ty)
  | .operand operand => (operand? scope locals operand).map fun value => (value.text, value.type)
  | .metadata content =>
      (metadataText? scope locals content).map fun text => (text, .plain .metadata)

/-- Check what is called, and tell functions of the module from anything else. -/
def callee?
    (scope : Scope)
    (locals : Locals)
    (target : Target)
    (arguments : List (String × Ty)) : Option Callee := do
  guard (target.type.isDefined scope.definitions)
  let signature :=
    match scope.expand target.type with
    | .function result parameters variadic => Ty.function result parameters variadic
    | _ => Ty.function target.type (arguments.map Prod.snd) false
  match target.callee with
  | .globalRef ident =>
      discard (scope.globalType? ident)
      return ((scope.functionIndex? ident).map Callee.function).getD .other
  | callee =>
      discard (operand? scope locals (.pointer signature target.space, callee))
      return .other

/-- Check an instruction, and keep what matters of it. -/
def step?
    (scope : Scope)
    (locals : Locals)
    (step : Step) : Option ModuleStep := do
  discard (step.operands.mapM (operand? scope locals))
  guard (step.blocks.all (isBlock locals))
  checkMetadata scope locals step.metadata
  let type <- scope.resultType? step.result
  guard (type.isDefined scope.definitions)
  match step.target with
  | none => return .other step.operation
  | some target =>
      let arguments <- target.arguments.mapM (argument? scope locals)
      let callee <- callee? scope locals target arguments
      return if step.operation = "call" then .call callee arguments else .other step.operation

/-- Check a block. -/
def block?
    (scope : Scope)
    (locals : Locals)
    (name : Ident)
    (block : WrittenBlock) : Option ModuleBlock := do
  let steps <- block.steps.mapM (step? scope locals)
  discard (step? scope locals block.last)
  return ⟨name, steps, block.last.operation⟩

/-- Check the groups of sections that something refers to. -/
def checkComdats
    (scope : Scope)
    (name : Ident)
    (comdats : List (Option String)) : Option Unit :=
  guard (comdats.all fun comdat => scope.comdats.contains (comdat.getD name.nameText))

/-- Check a function. -/
def function?
    (scope : Scope)
    (header : Header)
    (metadata : List Metadata)
    (blocks : List WrittenBlock) : Option ModuleFunction := do
  guard (header.result.isDefined scope.definitions)
  guard (header.parameters.all fun parameter => parameter.1.isDefined scope.definitions)
  discard (header.operands.mapM scope.typed?)
  checkComdats scope header.name header.comdats
  checkMetadata scope [] metadata
  if blocks.isEmpty then
    return ⟨header.name, header.parameters.map fun (type, name) => (name.getD (.name ""), type),
      header.variadic, []⟩
  else
    let (parameters, names, locals) <- assignFunction scope header blocks
    let checked <- (names.zip blocks).mapM fun (name, block) => block? scope locals name block
    return ⟨header.name, parameters.zip (header.parameters.map Prod.fst), header.variadic, checked⟩

/-- Check an entity; a function is kept. -/
def entity?
    (scope : Scope)
    (entity : Entity) : Option (List ModuleFunction) := do
  match entity with
  | .typeDefinition _ (some type) =>
      guard (type.isDefined scope.definitions)
      return []
  | .storage name type _ initial comdats metadata =>
      guard (type.isDefined scope.definitions)
      match initial with
      | some operand => discard (scope.typed? (type, operand))
      | none => pure ()
      checkComdats scope name comdats
      checkMetadata scope [] metadata
      return []
  | .indirect _ type (written, operand) =>
      guard (type.isDefined scope.definitions)
      discard (scope.typed? (written.getD (.pointer type 0), operand))
      return []
  | .function header metadata blocks => return [<- function? scope header metadata blocks]
  | .namedMetadata items =>
      checkMetadata scope [] items
      return []
  | .metadata _ content =>
      checkMetadata scope [] [content]
      return []
  | _ => return []

/-- The type definitions of a listing, the latest first. -/
def definitionsOf (entities : List Entity) : Definitions :=
  (entities.filterMap fun entity =>
    match entity with
    | .typeDefinition name type => some (name, type)
    | _ => none).reverse

/-- A type is defined again only when the definition before had no type. -/
def areDefinedOnce : Definitions -> Bool
  | [] => true
  | (name, _) :: rest =>
      (match rest.find? fun entry => entry.1 = name with
        | some (_, some _) => false
        | _ => true) && areDefinedOnce rest

/-- The functions, variables and second names of a listing, with their types. -/
def globalsOf (entities : List Entity) : List (Ident × Ty) :=
  entities.filterMap fun entity =>
    match entity with
    | .storage name type space _ _ _ => some (name, .pointer type space)
    | .indirect name type _ => some (name, .pointer type 0)
    | .function header _ _ =>
        some (header.name, .pointer
          (.function header.result (header.parameters.map Prod.fst) header.variadic) header.space)
    | _ => none

/-- The names of the blocks of a function. -/
def blockNames
    (scope : Scope)
    (header : Header)
    (blocks : List WrittenBlock) : List Ident :=
  match assignFunction scope header blocks with
  | some (_, names, _) => names
  | none => []

/-- What the names of a listing mean, if none is defined twice. -/
def scope? (entities : List Entity) : Option Scope := do
  let definitions := definitionsOf entities
  guard (areDefinedOnce definitions)
  let globals := globalsOf entities
  guard (areDistinct (globals.map Prod.fst))
  let metadata := entities.filterMap fun entity =>
    match entity with
    | .metadata number _ => some number
    | _ => none
  guard (areDistinct metadata)
  let comdats := entities.filterMap fun entity =>
    match entity with
    | .comdat name => some name
    | _ => none
  guard (areDistinct comdats)
  let groups := entities.filterMap fun entity =>
    match entity with
    | .attributeGroup number => some number
    | _ => none
  guard (areDistinct groups)
  let scope : Scope := ⟨definitions, globals, [], metadata, comdats⟩
  let functions := entities.filterMap fun entity =>
    match entity with
    | .function header _ blocks => some (header.name, blockNames scope header blocks)
    | _ => none
  return { scope with functions := functions }

/-- The name of the source file, the last one that is given. -/
def sourceNameOf (entities : List Entity) : String :=
  ((entities.filterMap fun entity =>
    match entity with
    | .sourceName name => some name
    | _ => none).getLast?).getD ""

end Resolve

/-- The module of a text, if the text is well formed and all its names are
defined. -/
def Module.ofText? (text : String) : Option Module := do
  let entities <- Listing.entities? text
  let scope <- Resolve.scope? entities
  let functions <- entities.mapM (Resolve.entity? scope)
  return ⟨Resolve.sourceNameOf entities, scope.definitions, functions.flatten⟩

end Assembly
end CtorScan
