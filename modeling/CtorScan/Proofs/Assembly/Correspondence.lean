import CtorScan.Proofs.Assembly.Module
import CtorScan.Proofs.Assembly.TypeText
import Mathlib.Data.List.Nodup

/-!
# Listings and their programs

The program of a listing has the functions of the listing, in order, with their parameters,
their blocks and one instruction for each instruction that is written.  An instruction of it
is a call exactly if a call is written, and a call refers to a function exactly if that
function is what is written there.  Types are shown as they are written, and count as pointer
types if they are such or are defined as such.
-/

namespace CtorScan
namespace Assembly

/-! ## Functions as they are written -/

/-- A function of a listing. -/
structure WrittenFunction where
  /-- What is written before its body. -/
  header : Header
  /-- Its blocks, none for a declaration. -/
  blocks : List WrittenBlock

/-- The function that an entity is, if it is one. -/
def Entity.function? : Entity -> Option WrittenFunction
  | .function header _ blocks => some ⟨header, blocks⟩
  | _ => none

/-- The functions of a listing, in order. -/
def writtenFunctions (entities : List Entity) : List WrittenFunction :=
  entities.filterMap Entity.function?

/-- The name behind something that may be written; a number is no name. -/
def writtenText (written : Option Ident) : String :=
  (written.map Ident.nameText).getD ""

/-- The name of a function, empty if it has a number instead. -/
def WrittenFunction.name (function : WrittenFunction) : String :=
  function.header.name.nameText

/-! ## What functions become -/

/-- The type is one of pointers, or it is a name that definitions lead from to one. -/
def Ty.StandsForPointer
    (definitions : Definitions)
    (type : Ty) : Prop :=
  type.IsPointer ∨ type.IsPointerAlias definitions

/-- A type is shown as it is written, with the fact whether it stands for pointers. -/
structure Ty.ShownAs
    (definitions : Definitions)
    (type : Ty)
    (shown : TypeText) : Prop where
  /-- It keeps its written form. -/
  text : shown.text = type.text
  /-- It counts as a pointer type if it stands for one. -/
  pointer : shown.pointer = true ↔ type.StandsForPointer definitions

/-- What a parameter becomes. -/
structure ParameterBecomes
    (definitions : Definitions)
    (written : Ty × Option Ident)
    (parameter : Parameter) : Prop where
  /-- It keeps its name. -/
  name : parameter.name = writtenText written.2
  /-- It keeps its type. -/
  type : written.1.ShownAs definitions parameter.type

/-- What a function declares. -/
structure WrittenFunction.DeclaredAs
    (definitions : Definitions)
    (written : WrittenFunction)
    (signature : Signature) : Prop where
  /-- It keeps its name. -/
  name : signature.name = written.name
  /-- It keeps its parameters. -/
  parameters : List.Forall₂ (ParameterBecomes definitions) written.header.parameters
    signature.parameters
  /-- It takes further arguments if that is written. -/
  variadic : signature.variadic = written.header.variadic

/-- What an argument becomes. -/
inductive Actual.Becomes
    (scope : Scope)
    (locals : Locals) : Actual -> Argument -> Prop where
  /-- A parameter or a result is shown by its name, with the type that it has. -/
  | value {written type : Ty} {ident : Ident} {shown : TypeText}
      (defined : (ident, Local.value type) ∈ locals)
      (typed : type.ShownAs scope.definitions shown) :
      Becomes scope locals (.operand (written, .localRef ident)) ⟨"%" ++ ident.written, shown⟩
  /-- So is a block. -/
  | block {written : Ty} {ident : Ident}
      (defined : (ident, Local.block) ∈ locals) :
      Becomes scope locals (.operand (written, .localRef ident))
        ⟨"%" ++ ident.written, ⟨"label", false⟩⟩
  /-- A function or a variable is shown by its name, with the type of its address. -/
  | global {written type : Ty} {ident : Ident} {shown : TypeText}
      (defined : (ident, type) ∈ scope.globals)
      (typed : type.ShownAs scope.definitions shown) :
      Becomes scope locals (.operand (written, .globalRef ident)) ⟨"@" ++ ident.written, shown⟩
  /-- Anything else is a constant that fits the type before it. -/
  | constant {written : Ty} {operand : Operand} {value : Shown} {shown : TypeText}
      (noName : ∀ ident, operand ≠ .localRef ident ∧ operand ≠ .globalRef ident)
      (fits : scope.constant? written operand = some value)
      (typed : value.type.ShownAs scope.definitions shown) :
      Becomes scope locals (.operand (written, operand)) ⟨value.text, shown⟩
  /-- Metadata has a type of its own. -/
  | metadata {content : Metadata} {text : String}
      (checked : Resolve.metadataText? scope locals content = some text) :
      Becomes scope locals (.metadata content) ⟨text, ⟨"metadata", false⟩⟩

/-- The operand is the function at a position. -/
def Operand.IsFunctionAt
    (functions : List WrittenFunction)
    (operand : Operand)
    (index : Nat) : Prop :=
  ∃ function, functions[index]? = some function ∧ operand = .globalRef function.header.name

/-- What an instruction inside a block becomes. -/
inductive Step.Becomes
    (functions : List WrittenFunction)
    (scope : Scope)
    (locals : Locals)
    (step : Step) : Instruction Nat -> Prop where
  /-- A call stays a call.  It refers to the function that it names, and to nothing if it
  names anything else. -/
  | call (target : Target) (call : Call Nat)
      (isCall : step.operation = "call")
      (named : step.target = some target)
      (callee : ∀ index, call.callee = some index ↔ target.callee.IsFunctionAt functions index)
      (arguments : List.Forall₂ (Actual.Becomes scope locals) target.arguments call.arguments)
      (position : call.position = 0) :
      Becomes functions scope locals step (.call call)
  /-- Anything else is known by its operation. -/
  | other (noCall : step.operation ≠ "call") :
      Becomes functions scope locals step (.other step.operation)

/-- What a block becomes: one instruction for each, and the one that ends it, which is no
call. -/
structure WrittenBlock.Becomes
    (functions : List WrittenFunction)
    (scope : Scope)
    (locals : Locals)
    (written : WrittenBlock)
    (block : Block Nat) : Prop where
  /-- It keeps its name. -/
  name : block.name = writtenText written.label
  /-- It keeps its instructions. -/
  instructions : ∃ instructions,
    List.Forall₂ (Step.Becomes functions scope locals) written.steps instructions ∧
      block.instructions = instructions.map some ++ [some (.other written.last.operation)]

/-- What a function becomes. -/
structure WrittenFunction.Becomes
    (functions : List WrittenFunction)
    (scope : Scope)
    (written : WrittenFunction)
    (function : Function Nat) : Prop where
  /-- It declares what is written. -/
  signature : written.DeclaredAs scope.definitions function.toSignature
  /-- It keeps its blocks, in which the names of its parameters, blocks and results are
  known. -/
  blocks : List.Forall₂
    (fun source block => ∃ parameters names locals own,
      Resolve.assignFunction scope written.header written.blocks =
        some (parameters, names, locals) ∧
      block = some own ∧ source.Becomes functions scope locals own)
    written.blocks function.blocks

theorem Ty.shownAs_toTypeText
    (definitions : Definitions)
    (type : Ty) :
    type.ShownAs definitions (type.toTypeText definitions) :=
  ⟨rfl, isPointer_iff type⟩

namespace Resolve

variable {functions : List WrittenFunction} {scope : Scope} {locals : Locals}

/-! ## Names -/

theorem nameText_of_assign
    {written : Option Ident}
    {next after : Nat}
    {ident : Ident}
    (assigned : assign written next = some (ident, after)) :
    ident.nameText = writtenText written := by
  unfold assign at assigned
  split at assigned
  · obtain ⟨rfl, -⟩ := Prod.mk.inj (Option.some.inj assigned)
    rfl
  · obtain ⟨rfl, -⟩ := Prod.mk.inj (Option.some.inj assigned)
    rfl
  · obtain ⟨rfl, -⟩ := Prod.mk.inj (Option.some.inj assigned)
    rfl
  · split at assigned
    · obtain ⟨rfl, -⟩ := Prod.mk.inj (Option.some.inj assigned)
      rfl
    · contradiction

theorem forall₂_of_assignParameters
    {parameters : List (Ty × Option Ident)}
    {next after : Nat}
    {locals : Locals}
    (assigned : assignParameters parameters next = some (locals, after)) :
    List.Forall₂ (fun parameter entry => entry.1.nameText = writtenText parameter.2)
      parameters locals := by
  induction parameters generalizing next after locals with
  | nil =>
      obtain ⟨rfl, -⟩ := Prod.mk.inj (Option.some.inj assigned)
      exact .nil
  | cons parameter rest inductionHypothesis =>
      obtain ⟨type, name⟩ := parameter
      simp only [assignParameters, Option.bind_eq_bind, Option.bind_eq_some_iff] at assigned
      obtain ⟨⟨ident, middle⟩, first, ⟨others, last⟩, later, same⟩ := assigned
      obtain ⟨rfl, -⟩ := Prod.mk.inj (Option.some.inj same)
      exact .cons (nameText_of_assign first) (inductionHypothesis later)

theorem forall₂_of_assignBlocks
    {blocks : List WrittenBlock}
    {next : Nat}
    {names : List Ident}
    {locals : Locals}
    (assigned : assignBlocks scope blocks next = some (names, locals)) :
    List.Forall₂ (fun block name => name.nameText = writtenText block.label) blocks names := by
  induction blocks generalizing next names locals with
  | nil =>
      obtain ⟨rfl, -⟩ := Prod.mk.inj (Option.some.inj assigned)
      exact .nil
  | cons block rest inductionHypothesis =>
      simp only [assignBlocks, Option.bind_eq_bind, Option.bind_eq_some_iff] at assigned
      obtain ⟨⟨ident, middle⟩, first, ⟨inner, after⟩, -, ⟨others, last⟩, later, same⟩ := assigned
      obtain ⟨rfl, -⟩ := Prod.mk.inj (Option.some.inj same)
      exact .cons (nameText_of_assign first) (inductionHypothesis later)

/-! ## Arguments -/

theorem becomes_of_operand?
    {written : Ty}
    {operand : Operand}
    {value : Shown}
    (accepted : operand? scope locals (written, operand) = some value) :
    (Actual.operand (written, operand)).Becomes scope locals
      ⟨value.text, value.type.toTypeText scope.definitions⟩ := by
  unfold operand? at accepted
  split at accepted
  case isFalse => contradiction
  cases operand with
  | localRef ident =>
      cases found : locals.find? fun entry => entry.1 = ident with
      | none => simp [found] at accepted
      | some entry =>
          obtain ⟨own, meaning⟩ := entry
          have member := List.mem_of_find?_eq_some found
          obtain rfl : own = ident := by simpa using List.find?_some found
          cases meaning with
          | block =>
              simp only [found] at accepted
              obtain rfl := Option.some.inj accepted
              exact .block member
          | value type =>
              simp only [found] at accepted
              obtain rfl := Option.some.inj accepted
              exact .value member (type.shownAs_toTypeText _)
  | globalRef ident =>
      obtain ⟨type, known, rfl⟩ := Option.map_eq_some_iff.mp accepted
      obtain ⟨entry, found, rfl⟩ := Option.map_eq_some_iff.mp known
      have member := List.mem_of_find?_eq_some found
      obtain rfl : entry.1 = ident := by simpa using List.find?_some found
      exact .global member (entry.2.shownAs_toTypeText _)
  | _ => exact .constant (by simp) accepted (value.type.shownAs_toTypeText _)

theorem becomes_of_argument?
    {actual : Actual}
    {text : String}
    {type : Ty}
    (accepted : argument? scope locals actual = some (text, type)) :
    actual.Becomes scope locals ⟨text, type.toTypeText scope.definitions⟩ := by
  cases actual with
  | operand operand =>
      obtain ⟨value, found, same⟩ := Option.map_eq_some_iff.mp accepted
      obtain ⟨rfl, rfl⟩ := Prod.mk.inj same
      exact becomes_of_operand? found
  | metadata content =>
      obtain ⟨shown, found, same⟩ := Option.map_eq_some_iff.mp accepted
      obtain ⟨rfl, rfl⟩ := Prod.mk.inj same
      exact .metadata found

/-! ## Calls -/

/-- The scope knows the functions of the listing, no two of which have the same name. -/
structure Knows
    (scope : Scope)
    (functions : List WrittenFunction) : Prop where
  /-- It has the functions in order. -/
  names : scope.functions.map Prod.fst = functions.map fun function => function.header.name
  /-- No two of them have the same name. -/
  distinct : (functions.map fun function => function.header.name).Nodup

/-- A name leads to the position of the function that has it. -/
theorem Knows.functionIndex?_eq_some_iff
    (knows : Knows scope functions)
    {ident : Ident}
    {index : Nat} :
    scope.functionIndex? ident = some index ↔
      ∃ function, functions[index]? = some function ∧ function.header.name = ident := by
  have atIndex : (∃ function, functions[index]? = some function ∧ function.header.name = ident) ↔
      (scope.functions.map Prod.fst)[index]? = some ident := by
    rw [knows.names, List.getElem?_map, Option.map_eq_some_iff]
  have distinct : (scope.functions.map Prod.fst).Nodup := knows.names ▸ knows.distinct
  rw [atIndex, Scope.functionIndex?, List.findIdx?_eq_some_iff_getElem, List.getElem?_map,
    Option.map_eq_some_iff]
  constructor
  · rintro ⟨inside, found, -⟩
    exact ⟨_, List.getElem?_eq_getElem inside, by simpa using found⟩
  · rintro ⟨entry, found, rfl⟩
    obtain ⟨inside, rfl⟩ := List.getElem?_eq_some_iff.mp found
    refine ⟨inside, by simp, fun earlier before same => ?_⟩
    have differ := List.pairwise_iff_getElem.mp (List.pairwise_map.mp distinct) earlier index
      (before.trans inside) inside before
    exact differ (by simpa using same)

theorem Knows.callee?_eq_some
    (knows : Knows scope functions)
    {locals : Locals}
    {target : Target}
    {arguments : List (String × Ty)}
    {callee : Callee}
    (accepted : callee? scope locals target arguments = some callee)
    (index : Nat) :
    Module.calleeIndex? callee = some index ↔ target.callee.IsFunctionAt functions index := by
  simp only [callee?, Option.bind_eq_bind, Option.bind_eq_some_iff] at accepted
  obtain ⟨-, -, accepted⟩ := accepted
  cases written : target.callee with
  | globalRef ident =>
      simp only [written, Option.bind_eq_some_iff] at accepted
      obtain ⟨-, -, same⟩ := accepted
      obtain rfl := Option.some.inj same
      have refers : Module.calleeIndex?
          (((scope.functionIndex? ident).map Callee.function).getD .other) =
            scope.functionIndex? ident := by
        cases scope.functionIndex? ident <;> rfl
      rw [refers, knows.functionIndex?_eq_some_iff]
      simp only [Operand.IsFunctionAt, Operand.globalRef.injEq, eq_comm]
  | _ =>
      simp only [written, Option.bind_eq_some_iff] at accepted
      obtain ⟨-, -, same⟩ := accepted
      obtain rfl := Option.some.inj same
      simp [Module.calleeIndex?, Operand.IsFunctionAt]

theorem Knows.becomes_of_step?
    (knows : Knows scope functions)
    {step : Step}
    {checked : ModuleStep}
    (complete : step.IsComplete)
    (accepted : step? scope locals step = some checked) :
    step.Becomes functions scope locals (Module.instruction scope.definitions checked) := by
  simp only [step?, Option.bind_eq_bind, Option.bind_eq_some_iff] at accepted
  obtain ⟨-, -, -, -, -, -, type, -, -, -, kept⟩ := accepted
  cases named : step.target with
  | none =>
      simp only [named] at kept
      obtain rfl := Option.some.inj kept
      refine .other fun isCall => ?_
      simpa [named] using complete.2 isCall
  | some target =>
      simp only [named, Option.bind_eq_some_iff] at kept
      obtain ⟨arguments, taken, callee, found, kept⟩ := kept
      obtain rfl := Option.some.inj kept
      by_cases isCall : step.operation = "call"
      · rw [if_pos isCall]
        refine .call target _ isCall named (knows.callee?_eq_some found) ?_ rfl
        rw [List.forall₂_map_right_iff]
        exact (forall₂_of_mapM taken).imp fun _ _ accepted => becomes_of_argument? accepted
      · rw [if_neg isCall]
        exact .other isCall

theorem Knows.becomes_of_block?
    (knows : Knows scope functions)
    {name : Ident}
    {written : WrittenBlock}
    {block : ModuleBlock}
    (complete : written.IsComplete)
    (named : name.nameText = writtenText written.label)
    (accepted : block? scope locals name written = some block) :
    written.Becomes functions scope locals (Module.block scope.definitions block) := by
  simp only [block?, Option.bind_eq_bind, Option.bind_eq_some_iff] at accepted
  obtain ⟨steps, checked, -, -, same⟩ := accepted
  obtain rfl := Option.some.inj same
  refine ⟨named, steps.map (Module.instruction scope.definitions), ?_, ?_⟩
  · rw [List.forall₂_map_right_iff]
    apply ((List.forall₂_and_left _ _).mpr ⟨complete.1, forall₂_of_mapM checked⟩).imp
    rintro step taken ⟨stepComplete, stepAccepted⟩
    exact knows.becomes_of_step? stepComplete stepAccepted
  · simp [Module.block]

/-! ## Functions -/

/-- What holds of the names of blocks and of blocks with their names holds of the blocks
alone. -/
theorem forall₂_of_zip
    {named : α -> β -> Prop}
    {kept : β × α -> γ -> Prop}
    {sources : List α}
    {names : List β}
    {results : List γ}
    (eachNamed : List.Forall₂ named sources names)
    (eachKept : List.Forall₂ kept (names.zip sources) results) :
    List.Forall₂ (fun source result => ∃ name, named source name ∧ kept (name, source) result)
      sources results := by
  induction eachNamed generalizing results with
  | nil =>
      cases eachKept
      exact .nil
  | cons first _ inductionHypothesis =>
      cases eachKept with
      | cons own others => exact .cons ⟨_, first, own⟩ (inductionHypothesis others)

theorem parameters_of_assigned
    (definitions : Definitions)
    {parameters : List (Ty × Option Ident)}
    (named : List.Forall₂ (fun parameter entry => entry.1.nameText = writtenText parameter.2)
      parameters locals) :
    List.Forall₂ (ParameterBecomes definitions) parameters
      (((locals.map Prod.fst).zip (parameters.map Prod.fst)).map fun parameter =>
        ⟨parameter.1.nameText, parameter.2.toTypeText definitions⟩) := by
  induction named with
  | nil => exact .nil
  | cons first _ inductionHypothesis =>
      exact .cons ⟨first, Ty.shownAs_toTypeText _ _⟩ inductionHypothesis

theorem parameters_of_declared
    (definitions : Definitions)
    (parameters : List (Ty × Option Ident)) :
    List.Forall₂ (ParameterBecomes definitions) parameters
      ((parameters.map fun (type, name) => (name.getD (.name ""), type)).map fun parameter =>
        ⟨parameter.1.nameText, parameter.2.toTypeText definitions⟩) := by
  rw [List.map_map, List.forall₂_map_right_iff, List.forall₂_same]
  rintro ⟨type, name⟩ -
  refine ⟨?_, Ty.shownAs_toTypeText _ _⟩
  cases name <;> rfl

theorem Knows.becomes_of_function?
    (knows : Knows scope functions)
    {header : Header}
    {metadata : List Metadata}
    {blocks : List WrittenBlock}
    {function : ModuleFunction}
    (complete : ∀ block ∈ blocks, block.IsComplete)
    (accepted : function? scope header metadata blocks = some function) :
    WrittenFunction.Becomes functions scope ⟨header, blocks⟩
      (Module.function scope.definitions function) := by
  simp only [function?, Option.bind_eq_bind, Option.bind_eq_some_iff] at accepted
  obtain ⟨-, -, -, -, -, -, -, -, -, -, kept⟩ := accepted
  by_cases declared : blocks.isEmpty = true
  · rw [if_pos declared] at kept
    obtain rfl := Option.some.inj kept
    obtain rfl := List.isEmpty_iff.mp declared
    exact ⟨⟨rfl, parameters_of_declared _ _, rfl⟩, .nil⟩
  · rw [if_neg declared] at kept
    simp only [Option.bind_eq_some_iff] at kept
    obtain ⟨⟨parameters, names, locals⟩, assigned, checked, accepted, same⟩ := kept
    obtain rfl := Option.some.inj same
    have whole := assigned
    simp only [assignFunction, Option.bind_eq_bind, Option.bind_eq_some_iff] at assigned
    obtain ⟨⟨own, next⟩, ownAssigned, ⟨labels, inner⟩, blocksAssigned, -, -, same⟩ := assigned
    obtain ⟨rfl, sameRest⟩ := Prod.mk.inj (Option.some.inj same)
    obtain ⟨rfl, rfl⟩ := Prod.mk.inj sameRest
    constructor
    · exact ⟨rfl, parameters_of_assigned _ (forall₂_of_assignParameters ownAssigned), rfl⟩
    · rw [Module.function, List.forall₂_map_right_iff]
      have each := forall₂_of_zip (forall₂_of_assignBlocks blocksAssigned)
        (forall₂_of_mapM accepted)
      apply ((List.forall₂_and_left _ _).mpr ⟨complete, each⟩).imp
      rintro written block ⟨blockComplete, name, named, blockAccepted⟩
      exact ⟨_, _, _, _, whole, rfl, knows.becomes_of_block? blockComplete named blockAccepted⟩

/-- The scope of a listing knows its functions. -/
theorem knows_of_scope?
    {entities : List Entity}
    (resolved : scope? entities = some scope) :
    Knows scope (writtenFunctions entities) := by
  have written : entities.filterMap functionName? =
      (writtenFunctions entities).map fun function => function.header.name := by
    rw [writtenFunctions, List.map_filterMap]
    congr 1
    funext entity
    cases entity <;> rfl
  have distinct := nodup_of_scope? resolved
  unfold scope? at resolved
  obtain ⟨_, -, resolved⟩ := Option.bind_eq_some_iff.mp resolved
  obtain ⟨_, -, resolved⟩ := Option.bind_eq_some_iff.mp resolved
  obtain ⟨_, -, resolved⟩ := Option.bind_eq_some_iff.mp resolved
  obtain ⟨_, -, resolved⟩ := Option.bind_eq_some_iff.mp resolved
  obtain ⟨_, -, resolved⟩ := Option.bind_eq_some_iff.mp resolved
  obtain rfl := Option.some.inj resolved
  refine ⟨?_, written ▸ distinct⟩
  rw [← written, List.map_filterMap]
  congr 1
  funext entity
  cases entity <;> rfl

/-- The functions that are kept are what those of the listing become. -/
theorem Knows.becomes_of_entities
    (knows : Knows scope functions)
    {entities : List Entity}
    {parts : List (List ModuleFunction)}
    (complete : ∀ entity ∈ entities, entity.IsComplete)
    (accepted : List.Forall₂ (fun entity part => entity? scope entity = some part)
      entities parts) :
    List.Forall₂ (WrittenFunction.Becomes functions scope) (writtenFunctions entities)
      (parts.flatten.map (Module.function scope.definitions)) := by
  induction accepted with
  | nil => exact .nil
  | @cons entity part rest parts first _ inductionHypothesis =>
      have later := inductionHypothesis fun other member =>
        complete other (List.mem_cons_of_mem _ member)
      by_cases isFunction : ∃ header metadata blocks, entity = .function header metadata blocks
      · obtain ⟨header, metadata, blocks, rfl⟩ := isFunction
        simp only [entity?, Option.bind_eq_bind, Option.bind_eq_some_iff] at first
        obtain ⟨function, accepted, same⟩ := first
        obtain rfl := Option.some.inj same
        have blocksComplete : ∀ block ∈ blocks, block.IsComplete :=
          complete _ List.mem_cons_self
        exact .cons (knows.becomes_of_function? blocksComplete accepted) later
      · have kept : functionName? entity = none ∧ entity.function? = none := by
          cases entity with
          | function header metadata blocks => exact absurd ⟨_, _, _, rfl⟩ isFunction
          | _ => exact ⟨rfl, rfl⟩
        have nothing : part = [] := by
          simpa [kept.1] using (entity?_eq_some first).1
        simpa [writtenFunctions, kept.2, nothing] using later

end Resolve
end Assembly
end CtorScan
