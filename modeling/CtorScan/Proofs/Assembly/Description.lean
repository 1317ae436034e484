import CtorScan.Proofs.Assembly.Module
import CtorScan.Proofs.Constructor.Targets
import CtorScan.Proofs.Program.Resolution
import CtorScan.Proofs.Program.Validity

/-!
# Modules written down as descriptions

A module can be written down as a description: calls of functions that have names are
described by these names, all other calls as calls of a value, and every other instruction
by its operation.  The description of a module that was read is accepted.  Its program
differs from that of the module in types of arguments and in calls of functions without
names, neither of which a scan sees.
-/

namespace CtorScan
namespace Assembly
namespace Module

/-! ## The description of a module -/

/-- The name of the function at a position, if it has one. -/
def nameAt?
    (module : Module)
    (index : Nat) : Option String :=
  (module.functions[index]?).bind fun function =>
    if function.name.nameText = "" then none else some function.name.nameText

/-- The description of an operation. -/
def describedOperation (operation : String) : Description.Instr :=
  ⟨operation, "", "", []⟩

/-- The description of an instruction. -/
def describedStep
    (module : Module) : ModuleStep -> Description.Instr
  | .other operation => describedOperation operation
  | .call callee arguments =>
      match (calleeIndex? callee).bind module.nameAt? with
      | some name => ⟨"", name, "", arguments.map Prod.fst⟩
      | none => ⟨"", "", "fp", arguments.map Prod.fst⟩

/-- The description of a block, with its last instruction after the others. -/
def describedBlock
    (module : Module)
    (block : ModuleBlock) : Description.Body where
  name := block.name.nameText
  instructions := block.steps.map module.describedStep ++ [describedOperation block.last]

/-- The description of a parameter, in which it is said whether it is a pointer. -/
def describedParameter
    (module : Module)
    (parameter : Ident × Ty) : Description.Param where
  name := parameter.1.nameText
  type := parameter.2.text
  pointer := some (parameter.2.isPointer module.definitions)

/-- The description of a function. -/
def describedFunction
    (module : Module)
    (function : ModuleFunction) : Description.Func where
  name := function.name.nameText
  parameters := function.parameters.map module.describedParameter
  variadic := function.variadic
  blocks := function.blocks.map module.describedBlock

/-- The description of a module. -/
def description (module : Module) : Description where
  name := module.sourceName
  functions := module.functions.map module.describedFunction

/-! ## The description is accepted -/

variable {module : Module}

theorem isValid_describedOperation
    {operation : String}
    (named : operation ≠ "") :
    (describedOperation operation).IsValid := by
  simp [describedOperation, Description.Instr.IsValid, Description.Instr.IsClear, named]

theorem isValid_describedStep
    {step : ModuleStep}
    (named : step.NamesOperation) :
    (module.describedStep step).IsValid := by
  cases step with
  | other operation => exact isValid_describedOperation named
  | call callee arguments =>
      cases found : (calleeIndex? callee).bind module.nameAt? with
      | none => simp [describedStep, found, Description.Instr.IsValid, Description.Instr.IsClear]
      | some name =>
          have given : name ≠ "" := by
            obtain ⟨index, -, atIndex⟩ := Option.bind_eq_some_iff.mp found
            obtain ⟨function, -, own⟩ := Option.bind_eq_some_iff.mp atIndex
            grind
          simp [describedStep, found, Description.Instr.IsValid, Description.Instr.IsClear, given]

theorem isValid_describedFunction
    {function : ModuleFunction}
    (named : function.NamesOperations) :
    (module.describedFunction function).IsValid := by
  intro body member
  obtain ⟨block, among, rfl⟩ := List.mem_map.mp member
  obtain ⟨stepsNamed, lastNamed⟩ := named block among
  intro instr inBlock
  rcases List.mem_append.mp inBlock with inSteps | isLast
  · obtain ⟨step, inStep, rfl⟩ := List.mem_map.mp inSteps
    exact isValid_describedStep (stepsNamed step inStep)
  · obtain rfl := List.mem_singleton.mp isLast
    exact isValid_describedOperation lastNamed

/-- The description of a module is accepted. -/
theorem exists_program_of_description
    (distinct : module.DistinctNames)
    (named : module.NamesOperations) :
    ∃ program, module.description.toProgram = .ok program := by
  rw [Description.exists_toProgram_iff]
  constructor
  · exact List.pairwise_map.mpr distinct
  · intro described member
    obtain ⟨function, among, rfl⟩ := List.mem_map.mp member
    exact isValid_describedFunction (named function among)

/-! ## The programs are scanned alike -/

variable {program : Program} {position? : String -> Option Nat}

/-- A described function declares what the function of the module declares. -/
theorem toSignature_eq_of_becomes
    {source : ModuleFunction}
    {described : Function Nat}
    (becomes : (module.describedFunction source).Becomes position? described) :
    described.toSignature = (function module.definitions source).toSignature := by
  have parameters : described.parameters = source.parameters.map fun parameter =>
      ⟨parameter.1.nameText, parameter.2.toTypeText module.definitions⟩ := by
    have related := becomes.parameters
    rw [describedFunction, List.forall₂_map_left_iff] at related
    symm
    rw [← List.forall₂_eq_eq_eq, List.forall₂_map_left_iff]
    apply related.imp
    rintro ⟨name, type⟩ ⟨ownName, ownType, pointer⟩ kept
    obtain ⟨rfl, rfl, said, -⟩ := kept
    obtain rfl := said rfl
    rfl
  obtain ⟨⟨name, ownParameters, variadic⟩, blocks⟩ := described
  obtain rfl := becomes.name
  obtain rfl := becomes.variadic
  obtain rfl := parameters
  rfl

/-- A description declares the functions of the module at the same positions. -/
theorem signature?_eq
    (becomes : List.Forall₂ (Description.Func.Becomes position?) module.description.functions
      program.functions) :
    program.signature? = module.toProgram.signature? := by
  have signatures : program.functions.map Function.toSignature =
      module.toProgram.functions.map Function.toSignature := by
    rw [description, List.forall₂_map_left_iff] at becomes
    rw [toProgram, List.map_map, ← List.forall₂_eq_eq_eq, List.forall₂_map_left_iff,
      List.forall₂_map_right_iff]
    exact becomes.flip.imp fun _ _ => toSignature_eq_of_becomes
  funext index
  simp only [Program.signature?, ← List.getElem?_map, signatures]

/-- A function has the name under which a scan sees a call of it. -/
theorem nameAt?_eq
    (index : Nat)
    (position : Int) :
    module.nameAt? index =
      ((module.toProgram.signature? index).bind (Marker.seen? position)).map Prod.fst := by
  simp only [nameAt?, toProgram, Program.signature?, List.getElem?_map]
  cases module.functions[index]? with
  | none => rfl
  | some source =>
      by_cases unnamed : source.name.nameText = "" <;> simp [function, Marker.seen?, unnamed]

/-- The description of a function by its name leads back to the function. -/
theorem lookup?_of_nameAt?
    {index : Nat}
    {name : String}
    (distinct : program.DistinctNames)
    (signatures : program.signature? = module.toProgram.signature?)
    (named : module.nameAt? index = some name) :
    program.lookup? name = some index := by
  rw [nameAt?_eq index 0, ← signatures, Option.map_eq_some_iff] at named
  obtain ⟨target, seen, rfl⟩ := named
  obtain ⟨signature, declared, seen⟩ := Option.bind_eq_some_iff.mp seen
  obtain ⟨function, atIndex, rfl⟩ := Option.map_eq_some_iff.mp declared
  unfold Marker.seen? at seen
  split at seen
  · contradiction
  · rename_i given
    obtain rfl := Option.some.inj seen
    exact (distinct.lookup?_eq_some_iff given).mpr ⟨function, atIndex, rfl⟩

/-- A described instruction calls what the instruction of the module calls, as far as a
scan sees it. -/
theorem target?_eq_of_becomes
    {step : ModuleStep}
    {described : Instruction Nat}
    (distinct : program.DistinctNames)
    (signatures : program.signature? = module.toProgram.signature?)
    (becomes : (module.describedStep step).Becomes program.lookup? described) :
    Marker.target? (some (described.mapCallee program.signature?)) =
      Marker.target? (some
        ((instruction module.definitions step).mapCallee module.toProgram.signature?)) := by
  cases step with
  | other operation =>
      cases becomes with
      | operation given => rfl
      | call given => exact absurd rfl given
      | indirect given => exact absurd rfl given
  | call callee arguments =>
      simp only [describedStep] at becomes
      cases found : (calleeIndex? callee).bind module.nameAt? with
      | none =>
          -- neither side calls a function that has a name
          have unseen : ((calleeIndex? callee).bind module.toProgram.signature?).bind
              (Marker.seen? 0) = none := by
            cases called : calleeIndex? callee with
            | none => rfl
            | some index =>
                rw [called, Option.bind_some, nameAt?_eq index 0, Option.map_eq_none_iff] at found
                exact found
          simp only [found] at becomes
          generalize arguments.map Prod.fst = texts, "fp" = value at becomes
          cases becomes with
          | operation given => exact absurd rfl given
          | call given => exact absurd rfl given
          | indirect given => exact unseen.symm
      | some name =>
          obtain ⟨index, called, named⟩ := Option.bind_eq_some_iff.mp found
          simp only [found] at becomes
          generalize arguments.map Prod.fst = texts at becomes
          cases becomes with
          | operation given => exact absurd rfl given
          | call given =>
              simp only [instruction, Instruction.mapCallee, Call.mapCallee, Marker.target?,
                called, lookup?_of_nameAt? distinct signatures named, signatures]
          | indirect given => exact absurd rfl given

/-- All instructions of a block, of which the last one is no call. -/
def allSteps (block : ModuleBlock) : List ModuleStep :=
  block.steps ++ [.other block.last]

theorem describedBlock_instructions (source : ModuleBlock) :
    (module.describedBlock source).instructions = (allSteps source).map module.describedStep := by
  simp [describedBlock, allSteps, describedStep]

theorem block_instructions (source : ModuleBlock) :
    (block module.definitions source).instructions =
      (allSteps source).map fun step => some (instruction module.definitions step) := by
  simp [block, allSteps, instruction]

/-- The instructions of a described function correspond to those of the function of the
module, and call the same as far as a scan sees it. -/
theorem targets_forall₂
    {source : ModuleFunction}
    {described : Function Nat}
    (distinct : program.DistinctNames)
    (signatures : program.signature? = module.toProgram.signature?)
    (becomes : (module.describedFunction source).Becomes program.lookup? described) :
    List.Forall₂
      (fun own other =>
        Marker.target? (own.map (Instruction.mapCallee module.toProgram.signature?)) =
          Marker.target? (other.map (Instruction.mapCallee program.signature?)))
      (function module.definitions source).instructions described.instructions := by
  have blocks := becomes.blocks
  rw [describedFunction, List.forall₂_map_left_iff] at blocks
  simp only [Function.instructions, function, List.flatMap_map]
  refine List.rel_flatMap blocks ?_
  rintro sourceBlock _ ⟨body, rfl, bodyBecomes⟩
  dsimp only
  have instructions := bodyBecomes.instructions
  rw [describedBlock_instructions, List.forall₂_map_left_iff] at instructions
  rw [block_instructions, List.forall₂_map_left_iff]
  apply instructions.imp
  rintro step _ ⟨instruction, rfl, instructionBecomes⟩
  exact (target?_eq_of_becomes distinct signatures instructionBecomes).symm

/-- A described function is scanned like the function of the module. -/
theorem scan_eq_of_becomes
    {source : ModuleFunction}
    {described : Function Nat}
    (distinct : program.DistinctNames)
    (signatures : program.signature? = module.toProgram.signature?)
    (becomes : (module.describedFunction source).Becomes program.lookup? described)
    (marker : String) :
    Marker.scan marker (some (described.mapCallee program.signature?)) =
      Marker.scan marker
        (some ((function module.definitions source).mapCallee module.toProgram.signature?)) := by
  symm
  apply Marker.scan_eq_of_forall₂
  · exact becomes.name.symm
  · rw [Function.instructions_mapCallee, Function.instructions_mapCallee,
      List.forall₂_map_left_iff, List.forall₂_map_right_iff]
    exact targets_forall₂ distinct signatures becomes

/-- A module that was read names all its operations and gives no two functions the same
name.  The description of every such module is accepted, describes as many functions, and
each of them is scanned like the function of the module at its position. -/
theorem description_is_scanned_like_module (module : Module) :
    ((∃ text, ofText? text = some module) -> module.DistinctNames ∧ module.NamesOperations) ∧
      (module.DistinctNames -> module.NamesOperations ->
        ∃ program, module.description.toProgram = .ok program ∧
          program.functions.length = module.functions.length ∧
          ∀ (index : Nat) (marker : String),
            Marker.scan marker program.resolved[index]? =
              Marker.scan marker module.toProgram.resolved[index]?) := by
  constructor
  · rintro ⟨text, read⟩
    exact distinctNames_and_namesOperations read
  · intro distinct named
    obtain ⟨program, accepted⟩ := exists_program_of_description distinct named
    obtain ⟨-, programDistinct, becomes⟩ := Description.becomes_of_toProgram accepted
    have signatures := signature?_eq becomes
    rw [description, List.forall₂_map_left_iff] at becomes
    refine ⟨program, accepted, becomes.length_eq.symm, fun index marker => ?_⟩
    simp only [Program.resolved, toProgram, List.getElem?_map]
    by_cases inside : index < module.functions.length
    · have insideProgram : index < program.functions.length := becomes.length_eq ▸ inside
      simp only [List.getElem?_eq_getElem, inside, insideProgram, Option.map_some]
      exact scan_eq_of_becomes programDistinct signatures (becomes.get inside insideProgram) marker
    · have outsideProgram : ¬ index < program.functions.length := becomes.length_eq ▸ inside
      simp [inside, outsideProgram]

/-- A function without a name that calls a constructor, a value and itself. -/
def sampleListing : String :=
  "declare void @AC1(i8*)\ndefine void @0(void ()* %f) \x7b\n  call void @AC1(i8* null)\n" ++
    "  call void %f()\n  call void @0(void ()* %f)\n  ret void\n\x7d\n"

theorem description_is_scanned_like_module_sample :
    ∃ module program, ofText? sampleListing = some module ∧
      module.DistinctNames ∧ module.NamesOperations ∧
      module.description.toProgram = .ok program ∧ program.functions.length = 2 ∧
      Marker.scan "" program.resolved[1]? = [⟨"", "AC1", .copy, 0⟩] := by
  have scanned : (ofText? sampleListing).map
      (fun module => (module.functions.length, Marker.scan "" module.toProgram.resolved[1]?)) =
        some (2, [⟨"", "AC1", .copy, 0⟩]) := by
    decide +kernel
  obtain ⟨module, read, found⟩ := Option.map_eq_some_iff.mp scanned
  obtain ⟨counted, found⟩ := Prod.mk.inj found
  obtain ⟨whenRead, described⟩ := description_is_scanned_like_module module
  obtain ⟨distinct, named⟩ := whenRead ⟨sampleListing, read⟩
  obtain ⟨program, accepted, length, alike⟩ := described distinct named
  exact ⟨module, program, read, distinct, named, accepted, length.trans counted,
    (alike 1 "").trans found⟩

end Module
end Assembly
end CtorScan
