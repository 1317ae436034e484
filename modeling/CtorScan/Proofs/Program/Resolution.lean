import CtorScan.Proofs.Program.Description

/-!
# Names in descriptions

A description that is accepted becomes a program with the same functions, parameters,
blocks and instructions.  Calls refer to functions by name in the description and by
position in the program: the position of the one function that has the name, wherever it
is described.  So no call refers to a function without a name.
-/

namespace CtorScan

/-! ## Looking up names -/

namespace Program

/-- No two functions have the same name, except that several may have none. -/
def DistinctNames (program : Program) : Prop :=
  program.functions.Pairwise fun early late => early.name = late.name -> early.name = ""

theorem lookup?_eq_none_iff
    {program : Program}
    {name : String} :
    program.lookup? name = none ↔ ∀ function ∈ program.functions, function.name ≠ name := by
  simp [lookup?, List.findIdx?_eq_none_iff]

/-- A name stands for the only function that has it. -/
theorem DistinctNames.lookup?_eq_some_iff
    {program : Program}
    (distinct : program.DistinctNames)
    {name : String}
    {index : Nat}
    (named : name ≠ "") :
    program.lookup? name = some index ↔
      ∃ function, program.functions[index]? = some function ∧ function.name = name :=
  Description.findIdx?_eq_some_iff_of_distinct distinct named

end Program

namespace Description

/-! ## What becomes of the pieces -/

/-- What a described instruction becomes, where names stand for positions. -/
inductive Instr.Becomes (position? : String -> Option Nat) : Instr -> Instruction Nat -> Prop
  /-- An operation stays what it is. -/
  | operation
      {text : String}
      (given : text ≠ "") :
      Becomes position? ⟨text, "", "", []⟩ (.other text)
  /-- A call of a name calls the function that the name stands for. -/
  | call
      {name : String}
      {texts : List String}
      (given : name ≠ "") :
      Becomes position? ⟨"", name, "", texts⟩
        (.call ⟨position? name, texts.map fun text => ⟨text, ⟨"", false⟩⟩, 0⟩)
  /-- A call of a value calls no function that is known. -/
  | indirect
      {value : String}
      {texts : List String}
      (given : value ≠ "") :
      Becomes position? ⟨"", "", value, texts⟩
        (.call ⟨none, texts.map fun text => ⟨text, ⟨"", false⟩⟩, 0⟩)

/-- What a described block becomes. -/
structure Body.Becomes
    (position? : String -> Option Nat)
    (body : Body)
    (block : Block Nat) : Prop where
  /-- The name is kept. -/
  name : block.name = body.name
  /-- So are the instructions. -/
  instructions : List.Forall₂
    (fun instr instruction => ∃ present, instruction = some present ∧
      instr.Becomes position? present)
    body.instructions block.instructions

/-- What a described parameter becomes. -/
structure Param.Becomes
    (param : Param)
    (parameter : Parameter) : Prop where
  /-- The name is kept. -/
  name : parameter.name = param.name
  /-- The written type is kept. -/
  type : parameter.type.text = param.type
  /-- What is said about pointers holds. -/
  said : ∀ {pointer}, param.pointer = some pointer -> parameter.type.pointer = pointer
  /-- Otherwise it is decided by how the type is written. -/
  unsaid : param.pointer = none -> parameter.type.pointer = isPointerText param.type

/-- What a described function becomes. -/
structure Func.Becomes
    (position? : String -> Option Nat)
    (described : Func)
    (function : Function Nat) : Prop where
  /-- The name is kept. -/
  name : function.name = described.name
  /-- Whether it takes further arguments is kept. -/
  variadic : function.variadic = described.variadic
  /-- So are the parameters. -/
  parameters : List.Forall₂ Param.Becomes described.parameters function.parameters
  /-- So are the blocks. -/
  blocks : List.Forall₂
    (fun body block => ∃ present, block = some present ∧ body.Becomes position? present)
    described.blocks function.blocks

variable {position? : String -> Option Nat}

theorem Instr.becomes_of_toInstruction
    {function block : String}
    {index : Nat}
    {instr : Instr}
    {instruction : Instruction Nat}
    (taken : instr.toInstruction position? function block index = .ok instruction) :
    instr.Becomes position? instruction := by
  obtain ⟨operation, call, indirect, texts⟩ := instr
  by_cases noOperation : operation = "" <;> by_cases noCall : call = "" <;>
    by_cases noIndirect : indirect = "" <;>
    simp [toInstruction, noOperation, noCall, noIndirect] at taken
  · subst noOperation noCall taken
    exact .indirect noIndirect
  · subst noOperation noIndirect taken
    exact .call noCall
  · subst noCall noIndirect
    split at taken
    · rename_i none
      obtain rfl := none
      obtain rfl := Except.ok.inj taken
      exact .operation noOperation
    · contradiction

theorem Param.becomes_toParameter (param : Param) :
    param.Becomes param.toParameter where
  name := rfl
  type := rfl
  said := by
    intro pointer given
    simp [toParameter, given]
  unsaid := by
    intro absent
    simp [toParameter, absent]

theorem Body.becomes_of_toBlock
    {function : String}
    {body : Body}
    {block : Block Nat}
    (taken : body.toBlock position? function = .ok block) :
    body.Becomes position? block := by
  obtain ⟨instructions, each, rfl⟩ := bind_pure_eq_ok_iff.mp taken
  refine ⟨rfl, ?_⟩
  have unnumbered : body.instructions.zipIdx.map Prod.fst = body.instructions :=
    List.zipIdx_map_fst 0 body.instructions
  rw [List.forall₂_map_right_iff, ← unnumbered, List.forall₂_map_left_iff]
  apply (mapM_eq_ok_iff.mp each).imp
  intro numbered instruction taken
  exact ⟨instruction, rfl, Instr.becomes_of_toInstruction taken⟩

theorem Func.becomes_of_toFunction
    {described : Func}
    {function : Function Nat}
    (taken : described.toFunction position? = .ok function) :
    described.Becomes position? function := by
  obtain ⟨blocks, each, rfl⟩ := bind_pure_eq_ok_iff.mp taken
  refine ⟨rfl, rfl, ?_, ?_⟩
  · rw [List.forall₂_map_right_iff]
    exact List.forall₂_same.mpr fun param _ => param.becomes_toParameter
  · rw [List.forall₂_map_right_iff]
    apply (mapM_eq_ok_iff.mp each).imp
    intro body block taken
    exact ⟨block, rfl, Body.becomes_of_toBlock taken⟩

/-! ## Accepted descriptions -/

/-- Names stand for the same positions in a description and in its program. -/
theorem lookup?_eq_position?
    {description : Description}
    {program : Program}
    (names : program.functions.map (fun function => function.name) =
      description.functions.map Func.name)
    (name : String) :
    program.lookup? name = description.position? name := by
  calc
    program.lookup? name
        = (program.functions.map fun function => function.name).findIdx? (· == name) := by
          rw [List.findIdx?_map]
          rfl
    _ = (description.functions.map Func.name).findIdx? (· == name) := by rw [names]
    _ = description.position? name := List.findIdx?_map

theorem distinctNames_of_names_eq
    {description : Description}
    {program : Program}
    (names : program.functions.map (fun function => function.name) =
      description.functions.map Func.name)
    (distinct : DistinctNames description.functions) :
    program.DistinctNames := by
  have named : (description.functions.map Func.name).Pairwise fun early late =>
      early = late -> early = "" :=
    List.pairwise_map.mpr distinct
  rw [← names] at named
  exact List.pairwise_map.mp named

/-- The functions of a program that were described, with names resolved in the program. -/
theorem becomes_of_toProgram
    {description : Description}
    {program : Program}
    (accepted : description.toProgram = .ok program) :
    program.name = description.name ∧ program.DistinctNames ∧
      List.Forall₂ (Func.Becomes program.lookup?) description.functions program.functions := by
  obtain ⟨fresh, functions, taken, rfl⟩ := toProgram_eq_ok_iff.mp accepted
  have related : List.Forall₂ (Func.Becomes description.position?) description.functions
      functions :=
    (mapM_eq_ok_iff.mp taken).imp fun _ _ => Func.becomes_of_toFunction
  have names : functions.map (fun function => function.name) =
      description.functions.map Func.name := by
    rw [← List.forall₂_eq_eq_eq, List.forall₂_map_left_iff, List.forall₂_map_right_iff]
    exact related.flip.imp fun _ _ becomes => becomes.name
  have same : Program.lookup? ⟨description.name, functions⟩ = description.position? :=
    funext (lookup?_eq_position? names)
  refine ⟨rfl, distinctNames_of_names_eq names (repeatedName?_nil_eq_none_iff.mp fresh), ?_⟩
  rw [same]
  exact related

/-- A call of a function by its name: the name is one of those in the description. -/
theorem Func.Becomes.callee_of_mem
    {described : Func}
    {function : Function Nat}
    (becomes : described.Becomes position? function)
    {call : Call Nat}
    (among : some (.call call) ∈ function.instructions)
    {index : Nat}
    (resolved : call.callee = some index) :
    ∃ name, name ≠ "" ∧ position? name = some index := by
  obtain ⟨block, member, inBlock⟩ := List.mem_flatMap.mp among
  obtain ⟨body, -, present, rfl, bodyBecomes⟩ := exists_of_mem_right becomes.blocks member
  obtain ⟨instr, -, instruction, same, instrBecomes⟩ :=
    exists_of_mem_right bodyBecomes.instructions inBlock
  obtain rfl := Option.some.inj same
  cases instrBecomes with
  | call given => exact ⟨_, given, resolved⟩
  | indirect given => contradiction

/-- A description that is accepted becomes a program with the same functions, parameters,
blocks and instructions, in the same order.  A call of a name refers to what the program
finds under that name: the position of the one function that has it, or nothing if no
function has it.  A call of a value refers to nothing, and no call refers to a function
without a name. -/
theorem accepted_description_resolves_names
    {description : Description}
    {program : Program}
    (accepted : description.toProgram = .ok program) :
    program.name = description.name ∧
      List.Forall₂ (Func.Becomes program.lookup?) description.functions program.functions ∧
      (∀ {name : String} {index : Nat}, name ≠ "" ->
        (program.lookup? name = some index ↔
          ∃ function, program.functions[index]? = some function ∧ function.name = name)) ∧
      (∀ {name : String}, program.lookup? name = none ↔
        ∀ function ∈ program.functions, function.name ≠ name) ∧
      ∀ function ∈ program.functions, ∀ {call : Call Nat} {index : Nat},
        some (.call call) ∈ function.instructions -> call.callee = some index ->
        ∃ callee, program.functions[index]? = some callee ∧ callee.name ≠ "" := by
  obtain ⟨name, distinct, becomes⟩ := becomes_of_toProgram accepted
  refine ⟨name, becomes, distinct.lookup?_eq_some_iff, Program.lookup?_eq_none_iff, ?_⟩
  intro function member call index among resolved
  obtain ⟨described, -, funcBecomes⟩ := exists_of_mem_right becomes member
  obtain ⟨called, given, found⟩ := funcBecomes.callee_of_mem among resolved
  obtain ⟨callee, atIndex, rfl⟩ := (distinct.lookup?_eq_some_iff given).mp found
  exact ⟨callee, atIndex, given⟩

/-- A function that calls a later one, itself, one that is not described and a value,
before a function without a name. -/
def sampleDescription : Description where
  name := "sample"
  functions :=
    [⟨"main", [], false,
        [⟨"entry",
          [⟨"alloca", "", "", []⟩, ⟨"", "AC1", "", ["%x"]⟩, ⟨"", "main", "", []⟩,
            ⟨"", "missing", "", []⟩, ⟨"", "", "%f", ["1", "2"]⟩]⟩]⟩,
      ⟨"", [], true, []⟩,
      ⟨"AC1", [⟨"this", "A*", none⟩, ⟨"other", "i8*", some false⟩], false, []⟩]

/-- The program of the sample. -/
def sampleDescribed : Program where
  name := "sample"
  functions :=
    [⟨⟨"main", [], false⟩,
        [some ⟨"entry",
          [some (.other "alloca"), some (.call ⟨some 2, [⟨"%x", "", false⟩], 0⟩),
            some (.call ⟨some 0, [], 0⟩), some (.call ⟨none, [], 0⟩),
            some (.call ⟨none, [⟨"1", "", false⟩, ⟨"2", "", false⟩], 0⟩)]⟩]⟩,
      ⟨⟨"", [], true⟩, []⟩,
      ⟨⟨"AC1", [⟨"this", "A*", true⟩, ⟨"other", "i8*", false⟩], false⟩, []⟩]

theorem accepted_description_resolves_names_sample :
    sampleDescription.toProgram = .ok sampleDescribed ∧
      List.Forall₂ (Func.Becomes sampleDescribed.lookup?) sampleDescription.functions
        sampleDescribed.functions ∧
      sampleDescribed.lookup? "AC1" = some 2 ∧ sampleDescribed.lookup? "missing" = none := by
  have accepted : sampleDescription.toProgram = .ok sampleDescribed := by decide +kernel
  obtain ⟨-, becomes, found, missing, -⟩ := accepted_description_resolves_names accepted
  exact ⟨accepted, becomes, (found (by decide)).mpr ⟨_, rfl, rfl⟩, missing.mpr (by decide)⟩

end Description
end CtorScan
