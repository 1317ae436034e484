import CtorScan.Assembly.Listing
import Mathlib.Data.List.Basic

/-!
# Operations have names

Whatever a reader gives has the properties that each of its branches gives to it.  So
every instruction that is read from a listing names its operation and says what it calls
if it is a call, and every block of every function is made of such instructions.
-/

namespace CtorScan
namespace Assembly

/-! ## What readers ensure -/

namespace Parse

/-- All values that a reader gives have a property. -/
def Ensures
    (reader : Parse α)
    (property : α -> Prop) : Prop :=
  ∀ tokens rest value, reader tokens = some (value, rest) -> property value

variable {reader : Parse α} {property : α -> Prop}

theorem ensures_pure
    {value : α}
    (holds : property value) :
    Ensures (pure value) property := by
  intro tokens rest result read
  obtain ⟨rfl, -⟩ := Prod.mk.inj (Option.some.inj read)
  exact holds

theorem ensures_failure : Ensures failure property :=
  fun _ _ _ => nofun

/-- What comes after a reader can rely on what that reader ensures. -/
theorem Ensures.bind
    {next : α -> Parse β}
    {after : β -> Prop}
    (ensured : Ensures reader property)
    (later : ∀ value, property value -> Ensures (next value) after) :
    Ensures (reader >>= next) after := by
  intro tokens rest result read
  obtain ⟨⟨value, middle⟩, first, second⟩ := Option.bind_eq_some_iff.mp read
  exact later value (ensured _ _ _ first) _ _ _ second

/-- What a reader gives in the end can be ensured by its last part alone. -/
theorem ensures_bind
    {next : α -> Parse β}
    {after : β -> Prop}
    (later : ∀ value, Ensures (next value) after) :
    Ensures (reader >>= next) after := by
  intro tokens rest result read
  obtain ⟨⟨value, middle⟩, -, second⟩ := Option.bind_eq_some_iff.mp read
  exact later value _ _ _ second

theorem Ensures.orElse
    {other : Parse α}
    (first : Ensures reader property)
    (second : Ensures other property) :
    Ensures (reader <|> other) property := by
  intro tokens rest value read
  rcases Option.or_eq_some_iff.mp (Option.or_eq_orElse.trans read) with left | ⟨-, right⟩
  · exact first _ _ _ left
  · exact second _ _ _ right

theorem ensures_wordOf (texts : List String) :
    Ensures (wordOf texts) (· ∈ texts) := by
  intro tokens rest text read
  match tokens with
  | [] => contradiction
  | .word first :: others =>
      by_cases among : first ∈ texts
      · simp [wordOf, accept, among] at read
        exact read.1 ▸ among
      · simp [wordOf, accept, among] at read

theorem ensures_optional
    (each : Ensures reader property) :
    Ensures (optional reader) fun result => ∀ value ∈ result, property value := by
  intro tokens rest result read value found
  unfold optional at read
  split at read
  · rename_i first middle succeeded
    simp only [Option.some.injEq, Prod.mk.injEq] at read
    obtain ⟨rfl, -⟩ := read
    exact each _ _ _ (Option.some.inj found ▸ succeeded)
  · simp only [Option.some.injEq, Prod.mk.injEq] at read
    obtain ⟨rfl, -⟩ := read
    contradiction

theorem ensures_manyUpTo
    (each : Ensures reader property)
    {before : List α}
    (bound : Nat)
    (held : ∀ value ∈ before, property value) :
    Ensures (manyUpTo reader before bound) fun list => ∀ value ∈ list, property value := by
  induction bound generalizing before with
  | zero => exact ensures_pure (by simpa using held)
  | succ bound inductionHypothesis =>
      refine (ensures_optional each).bind fun result found => ?_
      cases result with
      | none => exact ensures_pure (by simpa using held)
      | some value => exact inductionHypothesis (List.forall_mem_cons.mpr ⟨found value rfl, held⟩)

theorem ensures_many
    (each : Ensures reader property) :
    Ensures (many reader) fun list => ∀ value ∈ list, property value := by
  intro tokens rest list read
  exact ensures_manyUpTo each _ (by simp) _ _ _ read

theorem ensures_some1
    (each : Ensures reader property) :
    Ensures (some1 reader) fun list => ∀ value ∈ list, property value := by
  refine each.bind fun first firstHolds => ?_
  refine (ensures_many each).bind fun others othersHold => ?_
  exact ensures_pure (List.forall_mem_cons.mpr ⟨firstHolds, othersHold⟩)

end Parse

/-! ## Instructions -/

namespace Step

/-- The operation of the instruction has a name. -/
def NamesOperation (step : Step) : Prop :=
  step.operation ≠ ""

/-- The operation of the instruction has a name, and a call says what it calls. -/
def IsComplete (step : Step) : Prop :=
  step.NamesOperation ∧ (step.operation = "call" -> step.target.isSome = true)

theorem isComplete_of_not_call
    {step : Step}
    (named : step.operation ≠ "")
    (other : step.operation ≠ "call") :
    step.IsComplete :=
  ⟨named, fun isCall => absurd isCall other⟩

@[simp] theorem simple_operation
    (operation : String)
    (result : Result)
    (operands : List (Ty × Operand)) :
    (simple operation result operands).operation = operation := rfl

theorem ensures_arithmetic : Parse.Ensures arithmetic IsComplete := by
  refine .orElse ?_ (.orElse ?_ ?_)
  · refine (Parse.ensures_wordOf _).bind fun operation among => ?_
    repeat refine Parse.ensures_bind fun _ => ?_
    have other : operation ≠ "" ∧ operation ≠ "call" := by
      constructor <;> rintro rfl <;> revert among <;> decide
    exact Parse.ensures_pure (isComplete_of_not_call other.1 other.2)
  all_goals
    repeat refine Parse.ensures_bind fun _ => ?_
    exact Parse.ensures_pure (isComplete_of_not_call (by simp) (by simp))

theorem ensures_conversion : Parse.Ensures conversion IsComplete := by
  refine (Parse.ensures_wordOf _).bind fun operation among => ?_
  repeat refine Parse.ensures_bind fun _ => ?_
  have other : operation ≠ "" ∧ operation ≠ "call" := by
    constructor <;> rintro rfl <;> revert among <;> decide
  exact Parse.ensures_pure (isComplete_of_not_call other.1 other.2)

theorem ensures_decision : Parse.Ensures decision IsComplete := by
  refine .orElse ?_ (.orElse ?_ ?_)
  all_goals
    repeat refine Parse.ensures_bind fun _ => ?_
    exact Parse.ensures_pure (isComplete_of_not_call (by simp) (by simp))

theorem ensures_partwise : Parse.Ensures partwise IsComplete := by
  refine .orElse ?_ (.orElse ?_ (.orElse ?_ (.orElse ?_ ?_)))
  all_goals
    repeat refine Parse.ensures_bind fun _ => ?_
    exact Parse.ensures_pure (isComplete_of_not_call (by simp) (by simp))

theorem ensures_reservation : Parse.Ensures reservation IsComplete := by
  repeat refine Parse.ensures_bind fun _ => ?_
  exact Parse.ensures_pure (isComplete_of_not_call (by simp) (by simp))

theorem ensures_access : Parse.Ensures access IsComplete := by
  refine .orElse ?_ (.orElse ?_ ?_)
  all_goals
    repeat refine Parse.ensures_bind fun _ => ?_
    exact Parse.ensures_pure (isComplete_of_not_call (by simp) (by simp))

theorem ensures_atomicChange : Parse.Ensures atomicChange IsComplete := by
  refine .orElse ?_ ?_
  all_goals
    repeat refine Parse.ensures_bind fun _ => ?_
    exact Parse.ensures_pure (isComplete_of_not_call (by simp) (by simp))

theorem ensures_addressing : Parse.Ensures addressing IsComplete := by
  repeat refine Parse.ensures_bind fun _ => ?_
  exact Parse.ensures_pure (isComplete_of_not_call (by simp) (by simp))

theorem ensures_merge : Parse.Ensures merge IsComplete := by
  repeat refine Parse.ensures_bind fun _ => ?_
  exact Parse.ensures_pure (isComplete_of_not_call (by simp) (by simp))

/-- A call has the operation that its mnemonic says. -/
theorem ensures_callTail
    {operation : String}
    (named : operation ≠ "") :
    Parse.Ensures (callTail operation) IsComplete := by
  repeat refine Parse.ensures_bind fun _ => ?_
  exact Parse.ensures_pure ⟨named, fun _ => rfl⟩

theorem ensures_call : Parse.Ensures call IsComplete := by
  iterate 3 refine Parse.ensures_bind fun _ => ?_
  exact ensures_callTail (by decide)

theorem ensures_variadicArgument : Parse.Ensures variadicArgument IsComplete := by
  repeat refine Parse.ensures_bind fun _ => ?_
  exact Parse.ensures_pure (isComplete_of_not_call (by simp) (by simp))

theorem ensures_pad : Parse.Ensures pad IsComplete := by
  refine .orElse ?_ (.orElse ?_ ?_)
  all_goals
    repeat refine Parse.ensures_bind fun _ => ?_
    exact Parse.ensures_pure (isComplete_of_not_call (by simp) (by simp))

theorem ensures_valued : Parse.Ensures valued IsComplete :=
  .orElse ensures_arithmetic (.orElse ensures_conversion (.orElse ensures_decision
    (.orElse ensures_partwise (.orElse ensures_reservation (.orElse ensures_atomicChange
      (.orElse ensures_addressing (.orElse ensures_merge (.orElse ensures_call
        (.orElse ensures_variadicArgument ensures_pad)))))))))

/-- Neither metadata nor a result name changes the operation. -/
theorem ensures_withMetadata
    {reader : Parse Step}
    (ensured : Parse.Ensures reader IsComplete) :
    Parse.Ensures (withMetadata reader) IsComplete := by
  refine ensured.bind fun step named => ?_
  refine Parse.ensures_bind fun metadata => ?_
  exact Parse.ensures_pure named

theorem ensures_withName
    {reader : Parse Step}
    (ensured : Parse.Ensures reader IsComplete) :
    Parse.Ensures (withName reader) IsComplete := by
  refine Parse.ensures_bind fun name => Parse.ensures_bind fun _ => ?_
  refine ensured.bind fun step named => ?_
  exact Parse.ensures_pure named

theorem ensures_load : Parse.Ensures load IsComplete := by
  refine ensures_access.bind fun step named => ?_
  split
  · exact Parse.ensures_pure named
  · exact Parse.ensures_failure

theorem ensures_parse : Parse.Ensures parse IsComplete :=
  ensures_withMetadata (.orElse (ensures_withName (.orElse ensures_valued ensures_load))
    (.orElse ensures_valued ensures_access))

theorem ensures_invocation : Parse.Ensures invocation IsComplete := by
  refine .orElse ?_ ?_
  all_goals
    refine Parse.ensures_bind fun _ => ?_
    refine (ensures_callTail (by decide)).bind fun step named => ?_
    repeat refine Parse.ensures_bind fun _ => ?_
    exact Parse.ensures_pure named

theorem ensures_handlers : Parse.Ensures handlers IsComplete := by
  repeat refine Parse.ensures_bind fun _ => ?_
  exact Parse.ensures_pure (isComplete_of_not_call (by simp) (by simp))

theorem ensures_jump : Parse.Ensures jump IsComplete := by
  refine .orElse (Parse.ensures_bind fun _ => .orElse ?_ ?_) (.orElse ?_ ?_)
  all_goals
    repeat refine Parse.ensures_bind fun _ => ?_
    exact Parse.ensures_pure (isComplete_of_not_call (by simp) (by simp))

theorem ensures_leave : Parse.Ensures leave IsComplete := by
  refine .orElse (Parse.ensures_bind fun _ => .orElse ?_ ?_)
    (.orElse ?_ (.orElse ?_ (.orElse ?_ ?_)))
  all_goals
    repeat refine Parse.ensures_bind fun _ => ?_
    exact Parse.ensures_pure (isComplete_of_not_call (by simp) (by simp))

theorem ensures_parseLast : Parse.Ensures parseLast IsComplete :=
  ensures_withMetadata (.orElse (ensures_withName (.orElse ensures_invocation ensures_handlers))
    (.orElse ensures_invocation (.orElse ensures_handlers
      (.orElse ensures_jump ensures_leave))))

end Step

/-! ## Listings -/

/-- All operations of a block have names. -/
def WrittenBlock.NamesOperations (block : WrittenBlock) : Prop :=
  (∀ step ∈ block.steps, step.NamesOperation) ∧ block.last.NamesOperation

/-- All operations of an entity have names; only functions have any. -/
def Entity.NamesOperations : Entity -> Prop
  | .function _ _ blocks => ∀ block ∈ blocks, block.NamesOperations
  | _ => True

/-- All instructions of a block are complete. -/
def WrittenBlock.IsComplete (block : WrittenBlock) : Prop :=
  (∀ step ∈ block.steps, step.IsComplete) ∧ block.last.IsComplete

/-- All instructions of an entity are complete; only functions have any. -/
def Entity.IsComplete : Entity -> Prop
  | .function _ _ blocks => ∀ block ∈ blocks, block.IsComplete
  | _ => True

theorem Entity.IsComplete.namesOperations
    {entity : Entity}
    (complete : entity.IsComplete) :
    entity.NamesOperations := by
  cases entity with
  | function header metadata blocks =>
      intro block member
      obtain ⟨steps, last⟩ := complete block member
      exact ⟨fun step among => (steps step among).1, last.1⟩
  | _ => trivial

namespace Listing

theorem ensures_block : Parse.Ensures block WrittenBlock.IsComplete := by
  refine Parse.ensures_bind fun label => ?_
  refine (Parse.ensures_many Step.ensures_parse).bind fun steps stepsComplete => ?_
  refine Step.ensures_parseLast.bind fun last lastComplete => ?_
  exact Parse.ensures_pure ⟨stepsComplete, lastComplete⟩

theorem ensures_definition : Parse.Ensures definition Entity.IsComplete := by
  iterate 4 refine Parse.ensures_bind fun _ => ?_
  refine (Parse.ensures_some1 ensures_block).bind fun blocks complete => ?_
  repeat refine Parse.ensures_bind fun _ => ?_
  exact Parse.ensures_pure complete

theorem ensures_declaration : Parse.Ensures declaration Entity.IsComplete := by
  repeat refine Parse.ensures_bind fun _ => ?_
  exact Parse.ensures_pure (by simp [Entity.IsComplete])

theorem ensures_storage
    (name : Ident)
    (linkage : Option String) :
    Parse.Ensures (storage name linkage) Entity.IsComplete := by
  iterate 7 refine Parse.ensures_bind fun _ => ?_
  -- a variable that is defined elsewhere has no initial value
  dsimp only
  split
  all_goals
    repeat refine Parse.ensures_bind fun _ => ?_
    exact Parse.ensures_pure trivial

theorem ensures_indirect (name : Ident) :
    Parse.Ensures (indirect name) Entity.IsComplete := by
  repeat refine Parse.ensures_bind fun _ => ?_
  exact Parse.ensures_pure trivial

theorem ensures_globalDefinition : Parse.Ensures globalDefinition Entity.IsComplete := by
  iterate 3 refine Parse.ensures_bind fun _ => ?_
  exact .orElse (ensures_storage _ _) (ensures_indirect _)

theorem ensures_typeDefinition : Parse.Ensures typeDefinition Entity.IsComplete := by
  iterate 3 refine Parse.ensures_bind fun _ => ?_
  refine .orElse ?_ ?_
  all_goals
    repeat refine Parse.ensures_bind fun _ => ?_
    exact Parse.ensures_pure trivial

theorem ensures_comdatDefinition : Parse.Ensures comdatDefinition Entity.IsComplete := by
  repeat refine Parse.ensures_bind fun _ => ?_
  exact Parse.ensures_pure trivial

theorem ensures_groupDefinition : Parse.Ensures groupDefinition Entity.IsComplete := by
  repeat refine Parse.ensures_bind fun _ => ?_
  exact Parse.ensures_pure trivial

theorem ensures_metadataDefinition :
    Parse.Ensures metadataDefinition Entity.IsComplete := by
  refine .orElse ?_ ?_
  all_goals
    repeat refine Parse.ensures_bind fun _ => ?_
    exact Parse.ensures_pure trivial

theorem ensures_remark : Parse.Ensures remark Entity.IsComplete := by
  refine .orElse ?_ (.orElse ?_ (.orElse ?_ (.orElse ?_ ?_)))
  all_goals
    repeat refine Parse.ensures_bind fun _ => ?_
    exact Parse.ensures_pure trivial

theorem ensures_parse : Parse.Ensures parse Entity.IsComplete :=
  .orElse ensures_definition (.orElse ensures_declaration (.orElse ensures_globalDefinition
    (.orElse ensures_typeDefinition (.orElse ensures_comdatDefinition
      (.orElse ensures_groupDefinition (.orElse ensures_metadataDefinition ensures_remark))))))

/-- All instructions in a listing that can be read are complete. -/
theorem isComplete_of_entities?
    {text : String}
    {entities : List Entity}
    (read : entities? text = some entities) :
    ∀ entity ∈ entities, entity.IsComplete := by
  obtain ⟨tokens, -, parsed⟩ := Option.bind_eq_some_iff.mp read
  obtain ⟨⟨list, rest⟩, listed, same⟩ := Option.bind_eq_some_iff.mp parsed
  obtain rfl := Option.some.inj same
  have complete : Parse.Ensures
      (do
        let entities <- Parse.many parse
        Parse.finished
        return entities)
      fun list => ∀ entity ∈ list, entity.IsComplete :=
    (Parse.ensures_many ensures_parse).bind fun list complete =>
      Parse.ensures_bind fun _ => Parse.ensures_pure complete
  exact complete _ _ _ listed

end Listing
end Assembly
end CtorScan
