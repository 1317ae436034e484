import CtorScan.Proofs.Program.Description

/-!
# Valid descriptions

A description is taken over if and only if the names of its functions differ and each of
its instructions is valid.  Otherwise the message is about the first function whose name
was there before, and if there is none, about the first instruction that is not valid.
-/

namespace CtorScan
namespace Description

/-! ## Instructions -/

namespace Instr

/-- Exactly one of operation, function and value is given. -/
def IsClear (instr : Instr) : Prop :=
  [instr.operation, instr.call, instr.indirect].countP (· ≠ "") = 1

/-- The instruction is clear, and it has arguments only if it is a call. -/
def IsValid (instr : Instr) : Prop :=
  instr.IsClear ∧ (instr.operation ≠ "" -> instr.arguments = [])

/-- What is said about an instruction that is not valid. -/
inductive Complaint (instr : Instr) : String -> Prop
  /-- None or several of operation, function and value are given; the arguments do not
  matter then. -/
  | unclear
      (notClear : ¬ instr.IsClear) :
      Complaint instr "invalid program: exactly one of op, call, indirect must be set"
  /-- There are arguments, but no call. -/
  | strayArguments
      (clear : instr.IsClear)
      (operation : instr.operation ≠ "")
      (arguments : instr.arguments ≠ []) :
      Complaint instr "invalid program: args are only allowed on calls"

/-- There is nothing to say about an instruction if and only if it is valid. -/
theorem isValid_iff_no_complaint {instr : Instr} :
    instr.IsValid ↔ ∀ complaint, ¬ instr.Complaint complaint := by
  constructor
  · rintro ⟨clear, noArguments⟩ _ (notClear | ⟨-, operation, arguments⟩)
    · exact notClear clear
    · exact arguments (noArguments operation)
  · intro nothing
    have clear : instr.IsClear := by
      by_contra notClear
      exact nothing _ (.unclear notClear)
    refine ⟨clear, fun operation => ?_⟩
    by_contra arguments
    exact nothing _ (.strayArguments clear operation arguments)

variable {position? : String -> Option Nat} {function block : String} {index : Nat}

theorem toInstruction_eq_error_iff
    {instr : Instr}
    {fault : Fault} :
    instr.toInstruction position? function block index = .error fault ↔
      (¬ instr.IsClear ∧ .unclearInstruction function block index = fault) ∨
      (instr.IsClear ∧ instr.operation ≠ "" ∧ instr.arguments ≠ [] ∧
        .strayArguments function block index = fault) := by
  obtain ⟨operation, call, indirect, arguments⟩ := instr
  -- which of the three texts are given decides everything but the arguments
  by_cases noOperation : operation = "" <;> by_cases noCall : call = "" <;>
    by_cases noIndirect : indirect = "" <;> by_cases noArguments : arguments = [] <;>
    simp [toInstruction, IsClear, noOperation, noCall, noIndirect, noArguments]

theorem toInstruction_message_iff
    {instr : Instr}
    {message : String} :
    (∃ fault, instr.toInstruction position? function block index = .error fault ∧
        fault.message = message) ↔
      ∃ complaint, instr.Complaint complaint ∧
        Fault.place function block index ++ complaint = message := by
  simp only [toInstruction_eq_error_iff]
  constructor
  · rintro ⟨_, ⟨notClear, rfl⟩ | ⟨clear, operation, arguments, rfl⟩, rfl⟩
    · exact ⟨_, .unclear notClear, rfl⟩
    · exact ⟨_, .strayArguments clear operation arguments, rfl⟩
  · rintro ⟨_, notClear | ⟨clear, operation, arguments⟩, rfl⟩
    · exact ⟨_, Or.inl ⟨notClear, rfl⟩, rfl⟩
    · exact ⟨_, Or.inr ⟨clear, operation, arguments, rfl⟩, rfl⟩

/-- Valid instructions are taken over, wherever they are. -/
theorem exists_toInstruction_iff {instr : Instr} :
    (∃ instruction, instr.toInstruction position? function block index = .ok instruction) ↔
      instr.IsValid := by
  rw [isValid_iff_no_complaint]
  constructor
  · rintro ⟨instruction, accepted⟩ complaint complains
    obtain ⟨fault, failed, -⟩ := toInstruction_message_iff.mpr ⟨complaint, complains, rfl⟩
    exact nomatch accepted.symm.trans failed
  · intro nothing
    cases outcome : instr.toInstruction position? function block index with
    | ok instruction => exact ⟨instruction, rfl⟩
    | error fault =>
        obtain ⟨complaint, complains, -⟩ := toInstruction_message_iff.mp ⟨fault, outcome, rfl⟩
        exact absurd complains (nothing complaint)

end Instr

/-! ## Blocks and functions -/

section Nested

variable {position? : String -> Option Nat}

/-- The instructions of the block are valid. -/
def Body.IsValid (body : Body) : Prop :=
  ∀ instr ∈ body.instructions, instr.IsValid

/-- The blocks of the function are valid. -/
def Func.IsValid (function : Func) : Prop :=
  ∀ body ∈ function.blocks, body.IsValid

theorem Body.exists_toBlock_iff
    {function : String}
    {body : Body} :
    (∃ block, body.toBlock position? function = .ok block) ↔ body.IsValid := by
  simp only [Body.toBlock, exists_bind_pure_eq_ok_iff, exists_mapM_eq_ok_iff,
    Instr.exists_toInstruction_iff]
  rw [Body.IsValid, ← List.zipIdx_map_fst 0 body.instructions, List.forall_mem_map,
    List.zipIdx_map_fst]

/-- The first instruction that is not valid decides about a block. -/
theorem Body.toBlock_eq_error_iff
    {function : String}
    {body : Body}
    {fault : Fault} :
    body.toBlock position? function = .error fault ↔
      ∃ index instr, body.instructions[index]? = some instr ∧
        (∀ other ∈ body.instructions.take index, other.IsValid) ∧
        instr.toInstruction position? function body.name index = .error fault := by
  -- validity does not look at the numbers, so that they can be dropped there
  have before : ∀ index, body.instructions.take index =
      (body.instructions.zipIdx.take index).map Prod.fst := by
    intro index
    rw [List.map_take, List.zipIdx_map_fst]
  rw [Body.toBlock, bind_pure_eq_error_iff, mapM_eq_error_iff]
  simp only [Instr.exists_toInstruction_iff, before, List.forall_mem_map]
  constructor
  · rintro ⟨index, numbered, atIndex, valid, failed⟩
    rw [List.getElem?_zipIdx, Option.map_eq_some_iff] at atIndex
    obtain ⟨instr, own, rfl⟩ := atIndex
    rw [Nat.zero_add] at failed
    exact ⟨index, instr, own, valid, failed⟩
  · rintro ⟨index, instr, own, valid, failed⟩
    refine ⟨index, (instr, index), ?_, valid, failed⟩
    rw [List.getElem?_zipIdx, own, Nat.zero_add, Option.map_some]

theorem Func.exists_toFunction_iff {function : Func} :
    (∃ result, function.toFunction position? = .ok result) ↔ function.IsValid := by
  simp only [Func.toFunction, exists_bind_pure_eq_ok_iff, exists_mapM_eq_ok_iff,
    Body.exists_toBlock_iff, Func.IsValid]

/-- The first block that is not valid decides about a function. -/
theorem Func.toFunction_eq_error_iff
    {function : Func}
    {fault : Fault} :
    function.toFunction position? = .error fault ↔
      ∃ index body, function.blocks[index]? = some body ∧
        (∀ other ∈ function.blocks.take index, other.IsValid) ∧
        body.toBlock position? function.name = .error fault := by
  rw [Func.toFunction, bind_pure_eq_error_iff, mapM_eq_error_iff]
  simp only [Body.exists_toBlock_iff]

end Nested

/-! ## Descriptions -/

theorem exists_toProgram_iff {description : Description} :
    (∃ program, description.toProgram = .ok program) ↔
      DistinctNames description.functions ∧
        ∀ function ∈ description.functions, function.IsValid := by
  have taken : (∃ functions, description.functions.mapM (Func.toFunction description.position?) =
      .ok functions) ↔ ∀ function ∈ description.functions, function.IsValid := by
    simp only [exists_mapM_eq_ok_iff, Func.exists_toFunction_iff]
  rw [← taken]
  simp only [toProgram_eq_ok_iff, repeatedName?_nil_eq_none_iff]
  constructor
  · rintro ⟨_, distinct, functions, accepted, -⟩
    exact ⟨distinct, functions, accepted⟩
  · rintro ⟨distinct, functions, accepted⟩
    exact ⟨_, distinct, functions, accepted, rfl⟩

/-- An instruction is in the description, and all that comes before it is valid. -/
structure ValidBefore
    (description : Description)
    (function : Func)
    (body : Body)
    (index : Nat)
    (instr : Instr) : Prop where
  /-- The functions before its function are valid. -/
  functions : ∃ position : Nat, description.functions[position]? = some function ∧
    ∀ other ∈ description.functions.take position, other.IsValid
  /-- The blocks before its block are valid. -/
  blocks : ∃ position : Nat, function.blocks[position]? = some body ∧
    ∀ other ∈ function.blocks.take position, other.IsValid
  /-- It is at the index in its block. -/
  atIndex : body.instructions[index]? = some instr
  /-- The instructions before it are valid. -/
  instructions : ∀ other ∈ body.instructions.take index, other.IsValid

/-- The message that a description deserves. -/
inductive Blames (description : Description) : String -> Prop
  /-- A function is the first one whose name was there before.  Instructions do not
  matter then. -/
  | repeatedName
      {position : Nat}
      {function : Func}
      (atPosition : description.functions[position]? = some function)
      (named : function.name ≠ "")
      (again : function.name ∈ (description.functions.take position).map Func.name)
      (distinctBefore : DistinctNames (description.functions.take position)) :
      Blames description
        ("invalid program: function " ++ Text.quoted function.name ++ " declared twice")
  /-- Names do not repeat, and an instruction is the first one that is not valid. -/
  | instruction
      {function : Func}
      {body : Body}
      {index : Nat}
      {instr : Instr}
      {complaint : String}
      (distinct : DistinctNames description.functions)
      (before : description.ValidBefore function body index instr)
      (complains : instr.Complaint complaint) :
      Blames description
        ("function " ++ Text.quoted function.name ++ " block " ++ Text.quoted body.name ++
          " instruction " ++ toString index ++ ": " ++ complaint)

theorem mapM_toFunction_message_iff
    {description : Description}
    {position? : String -> Option Nat}
    {message : String} :
    (∃ fault, description.functions.mapM (Func.toFunction position?) = .error fault ∧
        fault.message = message) ↔
      ∃ function body index instr complaint,
        description.ValidBefore function body index instr ∧ instr.Complaint complaint ∧
        Fault.place function.name body.name index ++ complaint = message := by
  simp only [mapM_eq_error_iff, Func.exists_toFunction_iff, Func.toFunction_eq_error_iff,
    Body.toBlock_eq_error_iff]
  constructor
  · rintro ⟨fault, ⟨_, function, atPosition, functions, _, body, atBlock, blocks, index, instr,
      atIndex, instructions, failed⟩, worded⟩
    obtain ⟨complaint, complains, worded⟩ :=
      Instr.toInstruction_message_iff.mp ⟨fault, failed, worded⟩
    exact ⟨function, body, index, instr, complaint,
      ⟨⟨_, atPosition, functions⟩, ⟨_, atBlock, blocks⟩, atIndex, instructions⟩, complains, worded⟩
  · rintro ⟨function, body, index, instr, complaint, before, complains, worded⟩
    obtain ⟨_, atPosition, functions⟩ := before.functions
    obtain ⟨_, atBlock, blocks⟩ := before.blocks
    obtain ⟨fault, failed, worded⟩ :=
      Instr.toInstruction_message_iff.mpr ⟨complaint, complains, worded⟩
    exact ⟨fault, ⟨_, function, atPosition, functions, _, body, atBlock, blocks, index, instr,
      before.atIndex, before.instructions, failed⟩, worded⟩

/-- A description is taken over if and only if the names that it gives to functions differ
and each of its instructions is valid.  Otherwise the message is the one that it
deserves, and no other. -/
theorem accepts_exactly_valid_descriptions (description : Description) :
    ((∃ program, description.toProgram = .ok program) ↔
        DistinctNames description.functions ∧
          ∀ function ∈ description.functions, ∀ body ∈ function.blocks,
            ∀ instr ∈ body.instructions, instr.IsValid) ∧
      ∀ message, description.toProgram.mapError Fault.message = .error message ↔
        description.Blames message := by
  refine ⟨exists_toProgram_iff, fun message => ?_⟩
  have worded : description.toProgram.mapError Fault.message = .error message ↔
      ∃ fault, description.toProgram = .error fault ∧ fault.message = message := by
    cases description.toProgram <;> simp [Except.mapError]
  rw [worded]
  constructor
  · rintro ⟨fault, failed, rfl⟩
    rcases toProgram_eq_error_iff.mp failed with ⟨_, repeated, rfl⟩ | ⟨fresh, failed⟩
    · obtain ⟨position, function, atPosition, rfl, named, again, before⟩ :=
        repeatedName?_eq_some_iff.mp repeated
      rw [List.append_nil] at again
      exact .repeatedName atPosition named again (repeatedName?_nil_eq_none_iff.mp before)
    · obtain ⟨function, body, index, instr, complaint, before, complains, same⟩ :=
        mapM_toFunction_message_iff.mp ⟨fault, failed, rfl⟩
      rw [← same]
      exact .instruction (repeatedName?_nil_eq_none_iff.mp fresh) before complains
  · intro blames
    cases blames with
    | @repeatedName position function atPosition named again distinctBefore =>
        have fresh := repeatedName?_nil_eq_none_iff.mpr distinctBefore
        have repeated : repeatedName? [] description.functions = some function.name := by
          rw [repeatedName?_eq_some_iff]
          exact ⟨position, function, atPosition, rfl, named, by simpa using again, fresh⟩
        exact ⟨_, toProgram_eq_error_iff.mpr (Or.inl ⟨_, repeated, rfl⟩), rfl⟩
    | instruction distinct before complains =>
        have fresh := repeatedName?_nil_eq_none_iff.mpr distinct
        obtain ⟨fault, failed, same⟩ :=
          mapM_toFunction_message_iff.mpr ⟨_, _, _, _, _, before, complains, rfl⟩
        exact ⟨fault, toProgram_eq_error_iff.mpr (Or.inr ⟨fresh, failed⟩), same⟩

-- an unclear instruction of the first function comes after a name that repeats later
example :
    (Description.mk "" [⟨"f", [], false, [⟨"entry", [⟨"", "", "", []⟩]⟩]⟩,
      ⟨"f", [], false, []⟩]).toProgram = .error (.repeatedFunction "f") := rfl

end Description
end CtorScan
