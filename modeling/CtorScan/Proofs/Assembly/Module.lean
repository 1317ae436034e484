import CtorScan.Assembly.Resolve
import CtorScan.Proofs.Assembly.Operations
import CtorScan.Proofs.Program.Description
import Mathlib.Data.Option.Basic

/-!
# Modules that were read

The functions of a module that was read from a text are those of the listing, in order and
under their own names.  No two of them have the same name, since no two entities of a
listing have, and all their operations have names.
-/

namespace CtorScan
namespace Assembly

/-- The instruction is a call, or its operation has a name. -/
def ModuleStep.NamesOperation : ModuleStep -> Prop
  | .call _ _ => True
  | .other operation => operation ≠ ""

/-- All operations of a block have names. -/
def ModuleBlock.NamesOperations (block : ModuleBlock) : Prop :=
  (∀ step ∈ block.steps, step.NamesOperation) ∧ block.last ≠ ""

/-- All operations of a function have names. -/
def ModuleFunction.NamesOperations (function : ModuleFunction) : Prop :=
  ∀ block ∈ function.blocks, block.NamesOperations

namespace Module

/-- All operations of a module have names. -/
def NamesOperations (module : Module) : Prop :=
  ∀ function ∈ module.functions, function.NamesOperations

/-- No two functions have the same name, except that several may have none. -/
def DistinctNames (module : Module) : Prop :=
  module.functions.Pairwise fun early late =>
    early.name.nameText = late.name.nameText -> early.name.nameText = ""

end Module

namespace Resolve

/-! ## One piece after the other -/

/-- The results of a list are those of its elements, in order. -/
theorem forall₂_of_mapM
    {f : α -> Option β}
    {list : List α}
    {results : List β}
    (taken : list.mapM f = some results) :
    List.Forall₂ (fun a b => f a = some b) list results := by
  induction list generalizing results with
  | nil =>
      obtain rfl := Option.some.inj taken
      exact .nil
  | cons first rest inductionHypothesis =>
      rw [List.mapM_cons] at taken
      obtain ⟨value, found, later⟩ := Option.bind_eq_some_iff.mp taken
      obtain ⟨values, others, same⟩ := Option.bind_eq_some_iff.mp later
      obtain rfl := Option.some.inj same
      exact .cons found (inductionHypothesis others)

variable {scope : Scope}

theorem namesOperation_of_step?
    {locals : Locals}
    {step : Step}
    {checked : ModuleStep}
    (accepted : step? scope locals step = some checked)
    (named : step.NamesOperation) :
    checked.NamesOperation := by
  simp only [step?, Option.bind_eq_bind, Option.bind_eq_some_iff] at accepted
  obtain ⟨-, -, -, -, -, -, type, -, -, -, kept⟩ := accepted
  split at kept
  · obtain rfl := Option.some.inj kept
    exact named
  · simp only [Option.bind_eq_some_iff] at kept
    obtain ⟨arguments, -, callee, -, kept⟩ := kept
    obtain rfl := Option.some.inj kept
    split
    · trivial
    · exact named

theorem namesOperations_of_block?
    {locals : Locals}
    {name : Ident}
    {written : WrittenBlock}
    {block : ModuleBlock}
    (accepted : block? scope locals name written = some block)
    (named : written.NamesOperations) :
    block.NamesOperations := by
  simp only [block?, Option.bind_eq_bind, Option.bind_eq_some_iff] at accepted
  obtain ⟨steps, checked, -, -, same⟩ := accepted
  obtain rfl := Option.some.inj same
  refine ⟨fun step member => ?_, named.2⟩
  obtain ⟨source, among, accepted⟩ :=
    Description.exists_of_mem_right (forall₂_of_mapM checked) member
  exact namesOperation_of_step? accepted (named.1 source among)

/-- A function keeps its name, and its operations have names if those in the listing
have. -/
theorem function?_eq_some
    {header : Header}
    {metadata : List Metadata}
    {blocks : List WrittenBlock}
    {function : ModuleFunction}
    (accepted : function? scope header metadata blocks = some function) :
    function.name = header.name ∧
      ((∀ block ∈ blocks, block.NamesOperations) -> function.NamesOperations) := by
  simp only [function?, Option.bind_eq_bind, Option.bind_eq_some_iff] at accepted
  obtain ⟨-, -, -, -, -, -, -, -, -, -, kept⟩ := accepted
  split at kept
  · obtain rfl := Option.some.inj kept
    exact ⟨rfl, fun _ => by simp [ModuleFunction.NamesOperations]⟩
  · simp only [Option.bind_eq_some_iff] at kept
    obtain ⟨⟨parameters, names, locals⟩, -, checked, accepted, same⟩ := kept
    obtain rfl := Option.some.inj same
    refine ⟨rfl, fun named block member => ?_⟩
    obtain ⟨⟨name, written⟩, among, accepted⟩ :=
      Description.exists_of_mem_right (forall₂_of_mapM accepted) member
    exact namesOperations_of_block? accepted (named written (List.of_mem_zip among).2)

/-! ## Listings -/

/-- The name of an entity that is a function. -/
def functionName? : Entity -> Option Ident
  | .function header _ _ => some header.name
  | _ => none

/-- Only functions are kept. -/
theorem entity?_eq_some
    {entity : Entity}
    {functions : List ModuleFunction}
    (accepted : entity? scope entity = some functions) :
    functions.map ModuleFunction.name = (functionName? entity).toList ∧
      (entity.NamesOperations -> ∀ function ∈ functions, function.NamesOperations) := by
  cases entity with
  | function header metadata blocks =>
      simp only [entity?, Option.bind_eq_bind, Option.bind_eq_some_iff] at accepted
      obtain ⟨function, accepted, same⟩ := accepted
      obtain rfl := Option.some.inj same
      obtain ⟨name, named⟩ := function?_eq_some accepted
      exact ⟨by simp [functionName?, name], by simpa [Entity.NamesOperations] using named⟩
  | typeDefinition name type =>
      have none : functions = [] := by
        cases type <;> simp_all [entity?, Option.bind_eq_some_iff]
      simp [none, functionName?]
  | storage name type space initial comdats metadata =>
      have none : functions = [] := by
        cases initial <;> simp_all [entity?, Option.bind_eq_some_iff]
      simp [none, functionName?]
  | indirect name type target => simp_all [entity?, Option.bind_eq_some_iff, functionName?]
  | namedMetadata items => simp_all [entity?, Option.bind_eq_some_iff, functionName?]
  | metadata number content => simp_all [entity?, Option.bind_eq_some_iff, functionName?]
  | _ => simp_all [entity?, functionName?]

theorem names_flatten
    {entities : List Entity}
    {parts : List (List ModuleFunction)}
    (accepted : List.Forall₂ (fun entity part => entity? scope entity = some part)
      entities parts) :
    parts.flatten.map ModuleFunction.name = entities.filterMap functionName? := by
  induction accepted with
  | nil => rfl
  | @cons entity part _ _ first _ inductionHypothesis =>
      rw [List.flatten_cons, List.map_append, inductionHypothesis, (entity?_eq_some first).1,
        List.filterMap_cons]
      cases functionName? entity <;> rfl

theorem areDistinct_iff_nodup
    [BEq α]
    [LawfulBEq α]
    {list : List α} :
    areDistinct list = true ↔ list.Nodup := by
  induction list with
  | nil => simp [areDistinct]
  | cons first rest inductionHypothesis => simp [areDistinct, inductionHypothesis]

/-- The names of functions are among those of all entities. -/
theorem functionNames_sublist (entities : List Entity) :
    (entities.filterMap functionName?).Sublist ((globalsOf entities).map Prod.fst) := by
  induction entities with
  | nil => exact .slnil
  | cons entity rest inductionHypothesis =>
      cases entity with
      | function header metadata blocks => exact inductionHypothesis.cons_cons header.name
      | storage name => exact inductionHypothesis.cons name
      | indirect name => exact inductionHypothesis.cons name
      | _ => exact inductionHypothesis

theorem nodup_of_scope?
    {entities : List Entity}
    (resolved : scope? entities = some scope) :
    (entities.filterMap functionName?).Nodup := by
  unfold scope? at resolved
  obtain ⟨_, -, resolved⟩ := Option.bind_eq_some_iff.mp resolved
  obtain ⟨_, distinct, -⟩ := Option.bind_eq_some_iff.mp resolved
  have unique : areDistinct ((globalsOf entities).map Prod.fst) = true := by
    by_contra repeated
    rw [guard, if_neg repeated] at distinct
    contradiction
  exact (areDistinct_iff_nodup.mp unique).sublist (functionNames_sublist entities)

end Resolve

namespace Module

theorem nameText_eq
    {first second : Ident}
    (same : first.nameText = second.nameText)
    (named : first.nameText ≠ "") :
    first = second := by
  cases first <;> cases second <;> simp_all [Ident.nameText]

/-- A module that was read gives no two functions the same name, and names to all its
operations. -/
theorem distinctNames_and_namesOperations
    {text : String}
    {module : Module}
    (read : ofText? text = some module) :
    module.DistinctNames ∧ module.NamesOperations := by
  simp only [ofText?, Option.bind_eq_bind, Option.bind_eq_some_iff] at read
  obtain ⟨entities, listed, scope, resolved, parts, checked, same⟩ := read
  obtain rfl := Option.some.inj same
  have accepted := Resolve.forall₂_of_mapM checked
  constructor
  · have distinct : (parts.flatten.map ModuleFunction.name).Nodup := by
      rw [Resolve.names_flatten accepted]
      exact Resolve.nodup_of_scope? resolved
    apply (List.pairwise_map.mp distinct).imp
    intro early late differ sameText
    by_contra named
    exact differ (nameText_eq sameText named)
  · intro function member
    obtain ⟨part, among, inPart⟩ := List.mem_flatten.mp member
    obtain ⟨entity, inListing, kept⟩ := Description.exists_of_mem_right accepted among
    have complete := Listing.isComplete_of_entities? listed entity inListing
    exact (Resolve.entity?_eq_some kept).2 complete.namesOperations function inPart

end Module
end Assembly
end CtorScan
