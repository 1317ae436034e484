import CtorScan.Proofs.Constructor.Scan
import CtorScan.Proofs.Program.Resolution
import CtorScan.Proofs.Program.Validity
import Mathlib.Data.List.FinRange

/-!
# The order of described functions

A description with its functions in another order is accepted if and only if it was before,
and it becomes the same program with its functions in that order.  Calls refer to functions
by their places, so they are renumbered, but they call the same functions: a name stands for
the only function that has it, wherever that is.  So nothing changes for a scan.
-/

namespace CtorScan

/-! ## Call targets read twice -/

section Reading

variable {κ μ ν : Type} (first : κ -> Option μ) (second : μ -> Option ν)

theorem Instruction.mapCallee_mapCallee (instruction : Instruction κ) :
    (instruction.mapCallee first).mapCallee second =
      instruction.mapCallee fun target => (first target).bind second := by
  cases instruction with
  | call call => simp only [mapCallee, Call.mapCallee, Option.bind_assoc]
  | other operation => rfl

theorem Block.mapCallee_mapCallee (block : Block κ) :
    (block.mapCallee first).mapCallee second =
      block.mapCallee fun target => (first target).bind second := by
  simp only [mapCallee, List.map_map, Option.map_comp_map]
  congr 3
  funext instruction
  exact instruction.mapCallee_mapCallee first second

theorem Function.mapCallee_mapCallee (function : Function κ) :
    (function.mapCallee first).mapCallee second =
      function.mapCallee fun target => (first target).bind second := by
  simp only [mapCallee, List.map_map, Option.map_comp_map]
  congr 3
  funext block
  exact block.mapCallee_mapCallee first second

theorem Function.instructionAt?_mapCallee
    (function : Function κ)
    (site : Nat × Nat) :
    (function.mapCallee first).instructionAt? site =
      (function.instructionAt? site).map (Instruction.mapCallee first) := by
  simp only [instructionAt?, instructionIn?, mapCallee, List.getElem?_map]
  cases function.blocks[site.1]? with
  | none => rfl
  | some block =>
      cases block with
      | none => rfl
      | some block =>
          simp only [Option.map_some, Option.join_some, Option.bind_some, Block.mapCallee,
            List.getElem?_map]
          cases block.instructions[site.2]? <;> rfl

end Reading

/-! ## Orders -/

/-- The place to which an order moves what was at a place; other numbers stay. -/
def newPlace
    (order : Equiv.Perm (Fin n))
    (old : Nat) : Nat :=
  if inside : old < n then order.symm ⟨old, inside⟩ else old

theorem newPlace_apply
    (order : Equiv.Perm (Fin n))
    (place : Fin n) :
    newPlace order (order place) = place := by
  simp [newPlace]

theorem newPlace_of_ge
    (order : Equiv.Perm (Fin n))
    {old : Nat}
    (outside : n ≤ old) :
    newPlace order old = old := by
  rw [newPlace, dif_neg (Nat.not_lt_of_le outside)]

namespace Program

/-- The instruction at a site of the function at a place, if there is one. -/
def instructionAt?
    (program : Program)
    (place : Nat)
    (site : Nat × Nat) : Option (Instruction Nat) :=
  (program.functions[place]?).bind fun function => function.instructionAt? site

/-- The second program is the first one with its functions in another order: at each place
it has the function that the order takes there, and calls follow the functions. -/
structure Reordered
    (order : Equiv.Perm (Fin n))
    (first second : Program) : Prop where
  /-- The name is kept. -/
  name : second.name = first.name
  /-- The first program has a function for each place. -/
  length : first.functions.length = n
  /-- So has the second. -/
  length' : second.functions.length = n
  /-- Functions are moved, and the calls in them are renumbered. -/
  functions : ∀ place : Fin n, second.functions[(place : Nat)]? =
    (first.functions[(order place : Nat)]?).map
      (Function.mapCallee fun old => some (newPlace order old))

namespace Reordered

variable {n : Nat} {order : Equiv.Perm (Fin n)} {first second : Program}

/-- At the new place of a function is its signature. -/
theorem signature?_newPlace
    (reordered : Reordered order first second)
    (old : Nat) :
    second.signature? (newPlace order old) = first.signature? old := by
  by_cases inside : old < n
  · have place : newPlace order old = (order.symm ⟨old, inside⟩ : Nat) := by
      rw [newPlace, dif_pos inside]
    rw [signature?, signature?, place, reordered.functions, Equiv.apply_symm_apply, Option.map_map]
    rfl
  · have outside := Nat.le_of_not_lt inside
    rw [newPlace_of_ge order outside, signature?, signature?,
      List.getElem?_eq_none (reordered.length'.trans_le outside),
      List.getElem?_eq_none (reordered.length.trans_le outside)]

/-- The functions are the same as soon as targets are read as signatures. -/
theorem getElem?_resolved
    (reordered : Reordered order first second)
    (place : Fin n) :
    second.resolved[(place : Nat)]? = first.resolved[(order place : Nat)]? := by
  rw [resolved, resolved, List.getElem?_map, List.getElem?_map, reordered.functions,
    Option.map_map]
  congr 1
  funext function
  simp only [Function.comp_apply, Function.mapCallee_mapCallee, Option.bind_some,
    reordered.signature?_newPlace]

theorem instructionAt?_eq
    (reordered : Reordered order first second)
    (place : Fin n)
    (site : Nat × Nat) :
    second.instructionAt? place site =
      (first.instructionAt? (order place) site).map
        (Instruction.mapCallee fun old => some (newPlace order old)) := by
  rw [instructionAt?, instructionAt?, reordered.functions]
  cases first.functions[(order place : Nat)]? with
  | none => rfl
  | some function => exact function.instructionAt?_mapCallee _ site

end Reordered
end Program

namespace Description

/-! ## Names -/

/-- The description with its functions in another order. -/
def reordered
    (description : Description)
    (order : Equiv.Perm (Fin description.functions.length)) : Description where
  name := description.name
  functions := List.ofFn fun place => description.functions.get (order place)

theorem perm_reordered
    (description : Description)
    (order : Equiv.Perm (Fin description.functions.length)) :
    (description.reordered order).functions.Perm description.functions := by
  have moved := order.ofFn_comp_perm description.functions.get
  rw [List.ofFn_get] at moved
  exact moved

theorem length_reordered
    (description : Description)
    (order : Equiv.Perm (Fin description.functions.length)) :
    (description.reordered order).functions.length = description.functions.length :=
  List.length_ofFn

theorem getElem?_reordered
    (description : Description)
    (order : Equiv.Perm (Fin description.functions.length))
    (place : Fin description.functions.length) :
    (description.reordered order).functions[(place : Nat)]? =
      description.functions[(order place : Nat)]? := by
  simp [reordered]

theorem distinctNames_of_perm
    {functions others : List Func}
    (permuted : functions.Perm others) :
    DistinctNames functions ↔ DistinctNames others := by
  apply permuted.pairwise_iff
  intro early late unnamed same
  exact same.trans (unnamed same.symm)

/-- A name stands for the only function that has it. -/
theorem position?_eq_some_iff
    {description : Description}
    (distinct : DistinctNames description.functions)
    {name : String}
    (named : name ≠ "")
    {place : Nat} :
    description.position? name = some place ↔
      ∃ function, description.functions[place]? = some function ∧ function.name = name :=
  findIdx?_eq_some_iff_of_distinct distinct named

/-- A name stands for the same function, at its new place. -/
theorem position?_reordered
    {description : Description}
    (distinct : DistinctNames description.functions)
    (order : Equiv.Perm (Fin description.functions.length))
    {name : String}
    (named : name ≠ "") :
    (description.reordered order).position? name =
      (description.position? name).map (newPlace order) := by
  have distinctReordered : DistinctNames (description.reordered order).functions :=
    (distinctNames_of_perm (description.perm_reordered order)).mpr distinct
  apply Option.ext
  intro place
  rw [Option.map_eq_some_iff, position?_eq_some_iff distinctReordered named]
  simp only [position?_eq_some_iff distinct named]
  constructor
  · rintro ⟨function, atPlace, named⟩
    have inside : place < description.functions.length :=
      description.length_reordered order ▸ (List.getElem?_eq_some_iff.mp atPlace).1
    rw [description.getElem?_reordered order ⟨place, inside⟩] at atPlace
    exact ⟨_, ⟨function, atPlace, named⟩, newPlace_apply order ⟨place, inside⟩⟩
  · rintro ⟨old, ⟨function, atOld, named⟩, rfl⟩
    have inside : old < description.functions.length := (List.getElem?_eq_some_iff.mp atOld).1
    refine ⟨function, ?_, named⟩
    rw [newPlace, dif_pos inside, description.getElem?_reordered, Equiv.apply_symm_apply]
    exact atOld

/-! ## Functions -/

section Renumbering

variable {first? second? : String -> Option Nat} {renumber : Nat -> Nat}

/-- If positions are renumbered, then so are the targets of calls. -/
theorem Instr.toInstruction_renumber
    (same : ∀ {name : String}, name ≠ "" -> second? name = (first? name).map renumber)
    {function block : String}
    {index : Nat}
    {instr : Instr}
    {instruction : Instruction Nat}
    (taken : instr.toInstruction first? function block index = .ok instruction) :
    instr.toInstruction second? function block index =
      .ok (instruction.mapCallee fun old => some (renumber old)) := by
  cases Instr.becomes_of_toInstruction taken with
  | operation given => simp [toInstruction, given, Instruction.mapCallee]
  | call given =>
      simp [toInstruction, argument, given, same given, Instruction.mapCallee, Call.mapCallee,
        Option.map_eq_bind]
  | indirect given =>
      simp [toInstruction, argument, given, Instruction.mapCallee, Call.mapCallee]

theorem Body.toBlock_renumber
    (same : ∀ {name : String}, name ≠ "" -> second? name = (first? name).map renumber)
    {function : String}
    {body : Body}
    {block : Block Nat}
    (taken : body.toBlock first? function = .ok block) :
    body.toBlock second? function =
      .ok (block.mapCallee fun old => some (renumber old)) := by
  obtain ⟨instructions, each, rfl⟩ := bind_pure_eq_ok_iff.mp taken
  refine bind_pure_eq_ok_iff.mpr ⟨_, mapM_eq_ok_map (Instr.toInstruction_renumber same) each, ?_⟩
  simp only [Block.mapCallee, List.map_map]
  rfl

theorem Func.toFunction_renumber
    (same : ∀ {name : String}, name ≠ "" -> second? name = (first? name).map renumber)
    {described : Func}
    {function : Function Nat}
    (taken : described.toFunction first? = .ok function) :
    described.toFunction second? =
      .ok (function.mapCallee fun old => some (renumber old)) := by
  obtain ⟨blocks, each, rfl⟩ := bind_pure_eq_ok_iff.mp taken
  refine bind_pure_eq_ok_iff.mpr ⟨_, mapM_eq_ok_map (Body.toBlock_renumber same) each, ?_⟩
  simp only [Function.mapCallee, List.map_map]
  rfl

end Renumbering

/-! ## Programs -/

theorem exists_toProgram_reordered_iff
    (description : Description)
    (order : Equiv.Perm (Fin description.functions.length)) :
    (∃ program, (description.reordered order).toProgram = .ok program) ↔
      ∃ program, description.toProgram = .ok program := by
  have moved := description.perm_reordered order
  simp only [exists_toProgram_iff, distinctNames_of_perm moved, moved.mem_iff]

theorem reordered_of_toProgram
    {description : Description}
    {order : Equiv.Perm (Fin description.functions.length)}
    {program other : Program}
    (accepted : description.toProgram = .ok program)
    (acceptedReordered : (description.reordered order).toProgram = .ok other) :
    program.Reordered order other := by
  obtain ⟨fresh, functions, taken, rfl⟩ := toProgram_eq_ok_iff.mp accepted
  obtain ⟨-, others, takenReordered, rfl⟩ := toProgram_eq_ok_iff.mp acceptedReordered
  rw [mapM_eq_ok_iff_map_eq] at taken takenReordered
  have distinct := repeatedName?_nil_eq_none_iff.mp fresh
  refine ⟨rfl, ?_, ?_, ?_⟩
  · simpa using (congrArg List.length taken).symm
  · simpa [length_reordered] using (congrArg List.length takenReordered).symm
  · intro place
    obtain ⟨described, atOld⟩ : ∃ described,
        description.functions[(order place : Nat)]? = some described :=
      ⟨_, List.getElem?_eq_getElem (order place).isLt⟩
    have atNew := (description.getElem?_reordered order place).trans atOld
    have before := congrArg (fun list => list[(order place : Nat)]?) taken
    have after := congrArg (fun list => list[(place : Nat)]?) takenReordered
    simp only [List.getElem?_map, atOld, atNew, Option.map_some] at before after
    obtain ⟨function, own, same⟩ := Option.map_eq_some_iff.mp before.symm
    obtain ⟨moved, ownMoved, sameMoved⟩ := Option.map_eq_some_iff.mp after.symm
    have renumbered := Func.toFunction_renumber (position?_reordered distinct order) same.symm
    obtain rfl := Except.ok.inj (sameMoved.trans renumbered)
    rw [ownMoved, own, Option.map_some]

/-- Resolved calls refer to functions of the description. -/
theorem callee_lt_length_of_toProgram
    {description : Description}
    {program : Program}
    (accepted : description.toProgram = .ok program)
    {place : Nat}
    {site : Nat × Nat}
    {call : Call Nat}
    (atSite : program.instructionAt? place site = some (.call call))
    {old : Nat}
    (resolved : call.callee = some old) :
    old < description.functions.length := by
  obtain ⟨-, distinct, becomes⟩ := becomes_of_toProgram accepted
  obtain ⟨function, atPlace, inFunction⟩ := Option.bind_eq_some_iff.mp atSite
  obtain ⟨described, -, functionBecomes⟩ :=
    exists_of_mem_right becomes (List.mem_of_getElem? atPlace)
  have among : some (.call call) ∈ function.instructions := by
    rw [function.instructions_eq_map_sites, ← inFunction]
    exact List.mem_map_of_mem (Function.mem_sitesOf_of_instructionIn? inFunction)
  obtain ⟨name, named, found⟩ := functionBecomes.callee_of_mem among resolved
  obtain ⟨callee, atOld, -⟩ := (distinct.lookup?_eq_some_iff named).mp found
  rw [becomes.length_eq]
  exact (List.getElem?_eq_some_iff.mp atOld).1

/-- A description with its functions in another order is accepted if and only if it was
accepted before.  Its program is then the program from before with its functions in that
order.  A call that refers to a function refers to the same described function, a call
that refers to none still does not, and scans find the same in each function. -/
theorem function_order_does_not_matter
    (description : Description)
    (order : Equiv.Perm (Fin description.functions.length)) :
    ((∃ other, (description.reordered order).toProgram = .ok other) ↔
        ∃ program, description.toProgram = .ok program) ∧
      ∀ {program other : Program}, description.toProgram = .ok program ->
        (description.reordered order).toProgram = .ok other ->
        program.Reordered order other ∧
          (∀ {place : Fin description.functions.length} {site : Nat × Nat} {call : Call Nat},
            program.instructionAt? (order place) site = some (.call call) ->
            (∀ {old : Nat}, call.callee = some old ->
              ∃ target : Fin description.functions.length, (order target : Nat) = old ∧
                (description.reordered order).functions[(target : Nat)]? =
                  description.functions[old]? ∧
                other.instructionAt? place site =
                  some (.call { call with callee := some (target : Nat) })) ∧
            (call.callee = none -> other.instructionAt? place site = some (.call call))) ∧
          ∀ (marker : String) (place : Fin description.functions.length),
            Marker.scan marker other.resolved[(place : Nat)]? =
              Marker.scan marker program.resolved[(order place : Nat)]? := by
  refine ⟨description.exists_toProgram_reordered_iff order, ?_⟩
  intro program other accepted acceptedReordered
  have reordered := reordered_of_toProgram accepted acceptedReordered
  refine ⟨reordered, ?_, ?_⟩
  · intro place site call atSite
    have moved := reordered.instructionAt?_eq place site
    rw [atSite, Option.map_some, Instruction.mapCallee, Call.mapCallee] at moved
    constructor
    · intro old resolved
      have inside := callee_lt_length_of_toProgram accepted atSite resolved
      refine ⟨order.symm ⟨old, inside⟩, ?_, ?_, ?_⟩
      · rw [Equiv.apply_symm_apply]
      · rw [description.getElem?_reordered, Equiv.apply_symm_apply]
      · rw [moved, resolved, Option.bind_some, newPlace, dif_pos inside]
    · intro unresolved
      rw [moved, unresolved, Option.bind_none, ← unresolved]
  · intro marker place
    rw [reordered.getElem?_resolved]

/-- The first and the last function of the sample change places, so that the call from one
to the other refers backwards. -/
def sampleOrder : Equiv.Perm (Fin sampleDescription.functions.length) :=
  Equiv.swap ⟨0, by decide⟩ ⟨2, by decide⟩

/-- The program of the sample in that order. -/
def sampleReordered : Program where
  name := "sample"
  functions :=
    [⟨⟨"AC1", [⟨"this", "A*", true⟩, ⟨"other", "i8*", false⟩], false⟩, []⟩,
      ⟨⟨"", [], true⟩, []⟩,
      ⟨⟨"main", [], false⟩,
        [some ⟨"entry",
          [some (.other "alloca"), some (.call ⟨some 0, [⟨"%x", "", false⟩], 0⟩),
            some (.call ⟨some 2, [], 0⟩), some (.call ⟨none, [], 0⟩),
            some (.call ⟨none, [⟨"1", "", false⟩, ⟨"2", "", false⟩], 0⟩)]⟩]⟩]

theorem function_order_does_not_matter_sample :
    sampleDescription.toProgram = .ok sampleDescribed ∧
      (sampleDescription.reordered sampleOrder).toProgram = .ok sampleReordered ∧
      sampleDescribed.Reordered sampleOrder sampleReordered ∧
      Marker.scan "C1" sampleReordered.resolved[2]? =
        Marker.scan "C1" sampleDescribed.resolved[0]? ∧
      Marker.scan "C1" sampleDescribed.resolved[0]? = [⟨"main", "AC1", .parameterized, 0⟩] := by
  have accepted : sampleDescription.toProgram = .ok sampleDescribed := by decide +kernel
  have acceptedReordered : (sampleDescription.reordered sampleOrder).toProgram =
      .ok sampleReordered := by
    decide +kernel
  obtain ⟨-, alike⟩ := function_order_does_not_matter sampleDescription sampleOrder
  obtain ⟨reordered, -, sameScan⟩ := alike accepted acceptedReordered
  exact ⟨accepted, acceptedReordered, reordered, sameScan "C1" ⟨2, by decide⟩, by decide +kernel⟩

end Description
end CtorScan
