import CtorScan.Flow.Lowering
import CtorScan.Proofs.Program.Order

/-!
# Declarations that are shared

Functions are lowered one after the other, and what is declared about a called function is
looked up in a table that all of them share.  The table only grows, and it holds for each
function what the function itself declares.  So it makes no difference which functions were
lowered before.
-/

namespace CtorScan

variable {κ μ : Type}

/-! ## What functions call -/

/-- The target of a call, if it is known. -/
def Instruction.callee? : Instruction κ -> Option κ
  | .call target => target.callee
  | .other _ => none

/-- The known targets of the calls of a block. -/
def Block.callees (block : Block κ) : List κ :=
  block.instructions.flatMap fun instruction => (instruction.bind Instruction.callee?).toList

/-- The known targets of the calls of a function, in the order of its body. -/
def Function.callees (function : Function κ) : List κ :=
  function.blocks.flatMap fun block => (block.map Block.callees).getD []

theorem Instruction.mapCallee_congr
    {first second : κ -> Option μ}
    {instruction : Instruction κ}
    (same : ∀ target ∈ instruction.callee?, first target = second target) :
    instruction.mapCallee first = instruction.mapCallee second := by
  cases instruction with
  | other operation => rfl
  | call target =>
      have callee : target.callee.bind first = target.callee.bind second :=
        Option.bind_congr same
      rw [mapCallee, mapCallee, Call.mapCallee, Call.mapCallee, callee]

theorem Block.mapCallee_congr
    {first second : κ -> Option μ}
    {block : Block κ}
    (same : ∀ target ∈ block.callees, first target = second target) :
    block.mapCallee first = block.mapCallee second := by
  rw [mapCallee, mapCallee]
  congr 1
  apply List.map_congr_left
  intro instruction member
  apply Option.map_congr
  intro present isPresent
  apply Instruction.mapCallee_congr
  intro target called
  apply same
  exact List.mem_flatMap.mpr ⟨instruction, member, by rw [isPresent]; simpa using called⟩

/-- Two readings of the targets of a function agree if they agree on those that it
calls. -/
theorem Function.mapCallee_congr
    {first second : κ -> Option μ}
    {function : Function κ}
    (same : ∀ target ∈ function.callees, first target = second target) :
    function.mapCallee first = function.mapCallee second := by
  rw [mapCallee, mapCallee]
  congr 1
  apply List.map_congr_left
  intro block member
  apply Option.map_congr
  intro present isPresent
  apply Block.mapCallee_congr
  intro target called
  apply same
  exact List.mem_flatMap.mpr ⟨block, member, by rw [isPresent]; exact called⟩

namespace Flow

open Source (Env)

variable {π : Type}

/-! ## Lowering without a table -/

namespace Surface

/-- A call that refers to the called function itself. -/
def callOf
    (surface : Surface π)
    (invoked : Bool)
    (instruction : Instruction π) : Call Routine where
  callee := surface.called? invoked instruction.operands.head?
  arguments := (instruction.operands.drop 1).map surface.argument
  position := (((instruction.place.or surface.place).map surface.numberOf).getD 0 : Nat)

/-- An instruction in which a call refers to the called function itself. -/
def instructionOf
    (surface : Surface π)
    (instruction : Instruction π) : CtorScan.Instruction Routine :=
  match instruction.operation with
  | .call invoked => .call (surface.callOf invoked instruction)
  | .spawn invoked => .call (surface.callOf invoked instruction)
  | .postpone invoked => .call (surface.callOf invoked instruction)
  | operation => .other operation.name

/-- A block with a number, in which calls refer to the called functions themselves. -/
def blockOf
    (surface : Surface π)
    (block : Block π)
    (number : Nat) : CtorScan.Block Routine where
  name := toString number ++ "." ++ block.comment
  instructions := block.instructions.toList.map fun instruction =>
    some (surface.instructionOf instruction)

end Surface

/-- A function of a program in which calls refer to the called functions themselves. -/
def Made.withCallees
    (env : Env)
    (numberOf : π -> Nat)
    (made : Made π) : Function Routine where
  toSignature := made.routine.declaration env
  blocks :=
    match made.graph with
    | none => []
    | some graph =>
        let surface : Surface π :=
          ⟨env, numberOf, made.place, graph.registerNumbers, graph.closures⟩
        (graph.blocks.toList.filterMap id).zipIdx.map fun block =>
          some (surface.blockOf block.1 block.2)

/-! ## Tables -/

namespace Declarations

/-- The table holds for each function once what the function declares. -/
structure Sound
    (env : Env)
    (declarations : Declarations) : Prop where
  /-- What is held is what the function declares. -/
  declared : ∀ entry ∈ declarations.entries, entry.2 = entry.1.declaration env
  /-- No function is held twice. -/
  distinct : (declarations.entries.map Prod.fst).Nodup

theorem sound_none (env : Env) :
    none.Sound env :=
  ⟨by simp [none], by simp [none]⟩

variable {env : Env} {declarations later : Declarations} {routine : Routine} {number : Nat}

theorem getElem?_of_number?
    (found : declarations.number? routine = some number) :
    ∃ signature, declarations.entries[number]? = some (routine, signature) := by
  obtain ⟨inside, own, -⟩ := List.findIdx?_eq_some_iff_getElem.mp found
  refine ⟨declarations.entries[number].2, ?_⟩
  rw [List.getElem?_eq_getElem inside, ← of_decide_eq_true own]

/-- Functions with the same number are the same. -/
theorem eq_of_number?
    {other : Routine}
    (found : declarations.number? routine = some number)
    (foundOther : declarations.number? other = some number) :
    routine = other := by
  obtain ⟨signature, atNumber⟩ := getElem?_of_number? found
  obtain ⟨otherSignature, again⟩ := getElem?_of_number? foundOther
  rw [atNumber] at again
  exact (Prod.mk.inj (Option.some.inj again)).1

theorem Sound.get?_of_number?
    (sound : declarations.Sound env)
    (found : declarations.number? routine = some number) :
    declarations.get? number = some (routine.declaration env) := by
  obtain ⟨signature, atNumber⟩ := getElem?_of_number? found
  rw [get?, atNumber, Option.map_some]
  exact congrArg some (sound.declared _ (List.mem_of_getElem? atNumber))

/-- A number that was given stays, since the table only grows. -/
theorem number?_of_grows
    (grows : declarations.entries <+: later.entries)
    (found : declarations.number? routine = some number) :
    later.number? routine = some number := by
  obtain ⟨more, equal⟩ := grows
  unfold number? at found ⊢
  rw [← equal, List.findIdx?_append, found, Option.some_or]

theorem number?_concat
    (absent : declarations.number? routine = .none)
    (signature : Signature) :
    number? ⟨declarations.entries ++ [(routine, signature)]⟩ routine =
      some declarations.entries.length := by
  unfold number? at absent ⊢
  rw [List.findIdx?_append, absent]
  simp

/-- A function that is new is held once. -/
theorem Sound.concat
    (sound : declarations.Sound env)
    (absent : declarations.number? routine = .none) :
    Sound env ⟨declarations.entries ++ [(routine, routine.declaration env)]⟩ where
  declared := by
    intro entry member
    rcases List.mem_append.mp member with before | isNew
    · exact sound.declared entry before
    · rw [List.mem_singleton.mp isNew]
  distinct := by
    rw [List.map_append, List.map_singleton]
    refine List.Nodup.append sound.distinct (by simp) ?_
    apply List.disjoint_singleton.mpr
    intro held
    obtain ⟨entry, member, own⟩ := List.mem_map.mp held
    have other := List.findIdx?_eq_none_iff.mp absent entry member
    exact of_decide_eq_false other own

/-! ## What is made with a table -/

/-- Something is made with a table in which called functions are looked up.  The table
grows and knows these functions afterwards.  What is made does not depend on how the table
was filled: it is what one gets by putting numbers of any later table in place of the
functions. -/
structure Yields
    {α : Type}
    (env : Env)
    (before : Declarations)
    (called : List Routine)
    (numbered : (Routine -> Option Nat) -> α)
    (result : α × Declarations) : Prop where
  /-- The table is sound afterwards if it was before. -/
  sound : before.Sound env -> result.2.Sound env
  /-- Nothing of the table is lost. -/
  grows : before.entries <+: result.2.entries
  /-- All called functions have numbers afterwards. -/
  known : ∀ routine ∈ called, ∃ number, result.2.number? routine = some number
  /-- What is made has the numbers of any later table in it. -/
  equal : ∀ later : Declarations, result.2.entries <+: later.entries ->
    result.1 = numbered later.number?

variable {α β : Type} {before : Declarations}

/-- Looking up a function is the one step that changes the table. -/
theorem yields_find
    (before : Declarations)
    (env : Env)
    (routine : Routine) :
    Yields env before [routine] (fun number? => number? routine)
      (some (before.find env routine).1, (before.find env routine).2) := by
  cases found : before.number? routine with
  | some number =>
      have same : before.find env routine = (number, before) := by rw [find, found]
      rw [same]
      refine ⟨id, List.prefix_rfl, ?_, fun later grows => ?_⟩
      · intro other member
        rw [List.mem_singleton.mp member]
        exact ⟨number, found⟩
      · exact (number?_of_grows grows found).symm
  | none =>
      have added : before.find env routine =
          (before.entries.length, ⟨before.entries ++ [(routine, routine.declaration env)]⟩) := by
        rw [find, found]
      have numbered := number?_concat found (routine.declaration env)
      rw [added]
      refine ⟨fun sound => sound.concat found, List.prefix_append _ _, ?_, fun later grows => ?_⟩
      · intro other member
        rw [List.mem_singleton.mp member]
        exact ⟨_, numbered⟩
      · exact (number?_of_grows grows numbered).symm

theorem yields_pure
    (env : Env)
    (before : Declarations)
    (value : α) :
    Yields env before [] (fun _ => value) (value, before) :=
  ⟨id, List.prefix_rfl, by simp, fun _ _ => rfl⟩

namespace Yields

variable {called others : List Routine} {numbered : (Routine -> Option Nat) -> α}

theorem map
    {result : α × Declarations}
    (yields : Yields env before called numbered result)
    (change : α -> β) :
    Yields env before called (fun number? => change (numbered number?))
      (change result.1, result.2) :=
  ⟨yields.sound, yields.grows, yields.known, fun later grows =>
    congrArg change (yields.equal later grows)⟩

/-- The rest is made with the table that the first step leaves. -/
theorem cons
    {first : α × Declarations}
    {rest : List α × Declarations}
    {numberedRest : (Routine -> Option Nat) -> List α}
    (yieldsFirst : Yields env before called numbered first)
    (yieldsRest : Yields env first.2 others numberedRest rest) :
    Yields env before (called ++ others)
      (fun number? => numbered number? :: numberedRest number?) (first.1 :: rest.1, rest.2) where
  sound := fun sound => yieldsRest.sound (yieldsFirst.sound sound)
  grows := yieldsFirst.grows.trans yieldsRest.grows
  known := by
    intro routine member
    rcases List.mem_append.mp member with inFirst | inRest
    · obtain ⟨number, found⟩ := yieldsFirst.known routine inFirst
      exact ⟨number, number?_of_grows yieldsRest.grows found⟩
    · exact yieldsRest.known routine inRest
  equal := by
    intro later grows
    rw [yieldsFirst.equal later (yieldsRest.grows.trans grows), yieldsRest.equal later grows]

end Yields

end Declarations

/-! ## Lowering with a table -/

open Declarations (Yields yields_find yields_pure)

namespace Surface

variable (surface : Surface π) (before : Declarations)

theorem yields_call
    (invoked : Bool)
    (instruction : Instruction π) :
    Yields surface.env before (surface.called? invoked instruction.operands.head?).toList
      (fun number? => (surface.callOf invoked instruction).mapCallee number?)
      (surface.call invoked instruction before) := by
  let withTarget (callee : Option Nat) : Call Nat :=
    { callee := callee
      arguments := (instruction.operands.drop 1).map surface.argument
      position := (((instruction.place.or surface.place).map surface.numberOf).getD 0 : Nat) }
  have written : ∀ number? : Routine -> Option Nat,
      (surface.callOf invoked instruction).mapCallee number? =
        withTarget ((surface.called? invoked instruction.operands.head?).bind number?) :=
    fun _ => rfl
  simp only [written]
  cases called : surface.called? invoked instruction.operands.head? with
  | none =>
      have result : surface.call invoked instruction before = (withTarget none, before) := by
        rw [Surface.call, called]
      rw [result]
      exact (yields_pure surface.env before none).map withTarget
  | some routine =>
      have result : surface.call invoked instruction before =
          (withTarget (some (before.find surface.env routine).1),
            (before.find surface.env routine).2) := by
        rw [Surface.call, called]
      rw [result]
      exact (yields_find before surface.env routine).map withTarget

theorem yields_instruction (instruction : Instruction π) :
    Yields surface.env before (surface.instructionOf instruction).callee?.toList
      (fun number? => (surface.instructionOf instruction).mapCallee number?)
      (surface.instruction instruction before) := by
  obtain ⟨operation, operands, register, place⟩ := instruction
  cases operation with
  | call invoked | spawn invoked | postpone invoked =>
      exact (surface.yields_call before invoked _).map CtorScan.Instruction.call
  | _ => exact yields_pure _ _ _

theorem yields_instructions (list : List (Instruction π)) :
    Yields surface.env before
      (list.flatMap fun instruction => (surface.instructionOf instruction).callee?.toList)
      (fun number? => list.map fun instruction =>
        (surface.instructionOf instruction).mapCallee number?)
      (surface.instructions list before) := by
  induction list generalizing before with
  | nil => exact yields_pure _ _ _
  | cons instruction rest inductionHypothesis =>
      exact (surface.yields_instruction before instruction).cons (inductionHypothesis _)

theorem yields_block
    (block : Block π)
    (number : Nat) :
    Yields surface.env before (surface.blockOf block number).callees
      (fun number? => (surface.blockOf block number).mapCallee number?)
      (⟨toString number ++ "." ++ block.comment,
        (surface.instructions block.instructions.toList before).1.map some⟩,
        (surface.instructions block.instructions.toList before).2) := by
  have made := surface.yields_instructions before block.instructions.toList
  simpa [CtorScan.Block.callees, CtorScan.Block.mapCallee, blockOf, List.flatMap_map,
    Function.comp_def] using
    made.map fun instructions : List (CtorScan.Instruction Nat) =>
      (⟨toString number ++ "." ++ block.comment, instructions.map some⟩ : CtorScan.Block Nat)

theorem yields_blocks
    (number : Nat)
    (list : List (Block π)) :
    Yields surface.env before
      ((list.zipIdx number).flatMap fun block => (surface.blockOf block.1 block.2).callees)
      (fun number? => (list.zipIdx number).map fun block =>
        (surface.blockOf block.1 block.2).mapCallee number?)
      (surface.blocks number list before) := by
  induction list generalizing number before with
  | nil => exact yields_pure _ _ _
  | cons block rest inductionHypothesis =>
      exact (surface.yields_block before block number).cons (inductionHypothesis _ _)

end Surface

namespace Made

variable (env : Env) (numberOf : π -> Nat) (before : Declarations)

theorem yields_lower (made : Made π) :
    Yields env before (made.withCallees env numberOf).callees
      (fun number? => (made.withCallees env numberOf).mapCallee number?)
      (made.lower env numberOf before) := by
  obtain ⟨routine, place, graph⟩ := made
  cases graph with
  | none => exact yields_pure env before (⟨routine.declaration env, []⟩ : Function Nat)
  | some graph =>
      let surface : Surface π := ⟨env, numberOf, place, graph.registerNumbers, graph.closures⟩
      have blocks := surface.yields_blocks before 0 (graph.blocks.toList.filterMap id)
      have made := blocks.map fun blocks : List (CtorScan.Block Nat) =>
        (⟨routine.declaration env, blocks.map some⟩ : Function Nat)
      simpa [withCallees, Function.callees, Function.mapCallee, lower, surface,
        List.flatMap_map, Function.comp_def] using made

end Made

theorem yields_lowerAll
    (env : Env)
    (numberOf : π -> Nat)
    (before : Declarations)
    (functions : List (Made π)) :
    Yields env before (functions.flatMap fun made => (made.withCallees env numberOf).callees)
      (fun number? => functions.map fun made => (made.withCallees env numberOf).mapCallee number?)
      (lowerAll env numberOf functions before) := by
  induction functions generalizing before with
  | nil => exact yields_pure _ _ _
  | cons made rest inductionHypothesis =>
      exact (made.yields_lower env numberOf before).cons (inductionHypothesis _)

/-! ## What a table leaves unchanged -/

/-- What is declared about the functions that are called, read from a sound table that
knows them, is what they declare. -/
theorem mapCallee_number?_get?
    {env : Env}
    {declarations : Declarations}
    (sound : declarations.Sound env)
    {function : Function Routine}
    (known : ∀ routine ∈ function.callees, ∃ number, declarations.number? routine = some number) :
    (function.mapCallee declarations.number?).mapCallee declarations.get? =
      function.mapCallee fun routine => some (routine.declaration env) := by
  rw [Function.mapCallee_mapCallee]
  apply Function.mapCallee_congr
  intro routine called
  obtain ⟨number, found⟩ := known routine called
  rw [found, Option.bind_some, sound.get?_of_number? found]

/-- A function of a program that is lowered alone, with a table of its own. -/
def Made.alone
    (env : Env)
    (numberOf : π -> Nat)
    (made : Made π) : Function Signature :=
  (made.lower env numberOf .none).1.mapCallee (made.lower env numberOf .none).2.get?

theorem Made.alone_eq
    (env : Env)
    (numberOf : π -> Nat)
    (made : Made π) :
    made.alone env numberOf =
      (made.withCallees env numberOf).mapCallee fun routine => some (routine.declaration env) := by
  have yields := made.yields_lower env numberOf .none
  rw [alone, yields.equal _ List.prefix_rfl]
  exact mapCallee_number?_get? (yields.sound (Declarations.sound_none env)) yields.known

theorem Made.toSignature_lower
    (env : Env)
    (numberOf : π -> Nat)
    (made : Made π)
    (before : Declarations) :
    (made.lower env numberOf before).1.toSignature = made.routine.declaration env := by
  rw [(made.yields_lower env numberOf before).equal _ List.prefix_rfl]
  rfl

/-- Functions are lowered one after the other with one table of declarations.  Each of them
is what it is when it is lowered alone, and all its calls carry what the called functions
declare, which is a signature without a body.  The table holds no function twice.  A called
function always has the same number, which no other one has, and under this number is the
signature that the function has when it is lowered itself, whatever was lowered before. -/
theorem shared_declarations_are_transparent
    (env : Env)
    (numberOf : π -> Nat)
    (functions : List (Made π)) :
    let lowered := (lowerAll env numberOf functions .none).1
    let shared := (lowerAll env numberOf functions .none).2
    lowered.map (Function.mapCallee shared.get?) = functions.map (Made.alone env numberOf) ∧
      (∀ made, Made.alone env numberOf made =
        (made.withCallees env numberOf).mapCallee fun routine =>
          some (routine.declaration env)) ∧
      lowered = functions.map
        (fun made => (made.withCallees env numberOf).mapCallee shared.number?) ∧
      (shared.entries.map Prod.fst).Nodup ∧
      ∀ made ∈ functions, ∀ routine ∈ (made.withCallees env numberOf).callees,
        ∃ number,
          (∀ other, shared.number? other = some number ↔ other = routine) ∧
            ∀ callee : Made π, callee.routine = routine -> ∀ before,
              shared.get? number = some (callee.lower env numberOf before).1.toSignature := by
  intro lowered shared
  have yields := yields_lowerAll env numberOf .none functions
  have sound : shared.Sound env := yields.sound (Declarations.sound_none env)
  have numbered : lowered =
      functions.map fun made => (made.withCallees env numberOf).mapCallee shared.number? :=
    yields.equal shared List.prefix_rfl
  have known : ∀ made ∈ functions, ∀ routine ∈ (made.withCallees env numberOf).callees,
      ∃ number, shared.number? routine = some number := by
    intro made member routine called
    exact yields.known routine (List.mem_flatMap.mpr ⟨made, member, called⟩)
  refine ⟨?_, Made.alone_eq env numberOf, numbered, sound.distinct, ?_⟩
  · rw [numbered, List.map_map]
    apply List.map_congr_left
    intro made member
    rw [Function.comp_apply, mapCallee_number?_get? sound (known made member), Made.alone_eq]
  · intro made member routine called
    obtain ⟨number, found⟩ := known made member routine called
    refine ⟨number, fun other => ⟨?_, ?_⟩, ?_⟩
    · exact fun foundOther => Declarations.eq_of_number? foundOther found
    · rintro rfl
      exact found
    · rintro callee rfl before
      rw [sound.get?_of_number? found, Made.toSignature_lower]

/-- A function that has neither parameters nor results. -/
def sampleRoutine
    (number : Nat)
    (name : String) : Routine :=
  ⟨.declared number [], name, name, none, default, some number⟩

/-- A function with calls of others, one after the other. -/
def sampleMade
    (routine : Routine)
    (called : List Routine) : Made Nat :=
  let calls := called.map fun target =>
    (⟨.call false, [.routine target], none, some 2⟩ : Instruction Nat)
  ⟨routine, some 1, some ⟨#[some ⟨"entry", calls.toArray, []⟩], none⟩⟩

/-- Of two functions that call each other, the first one also itself, and of which the first
is lowered once more at the end, the calls carry what they carry when each is lowered
alone. -/
theorem shared_declarations_are_transparent_sample :
    let even := sampleRoutine 0 "p.evenC1"
    let odd := sampleRoutine 1 "p.oddC1"
    let functions := [sampleMade even [odd, even], sampleMade odd [even], sampleMade even [odd]]
    let shared := (lowerAll default id functions .none).2
    shared.entries.map Prod.fst = [odd, even] ∧
      (lowerAll default id functions .none).1.map (Function.mapCallee shared.get?) =
        functions.map (Made.alone default id) ∧
      ∃ number, shared.number? even = some number ∧
        shared.get? number =
          some ((sampleMade even [odd]).lower default id shared).1.toSignature := by
  intro even odd functions shared
  obtain ⟨equal, -, -, -, known⟩ := shared_declarations_are_transparent default id functions
  obtain ⟨number, unique, declared⟩ :=
    known (sampleMade odd [even]) (by simp [functions]) even (by
      change even ∈ [even]
      exact List.mem_singleton_self even)
  exact ⟨by decide +kernel, equal, number, (unique even).mpr rfl, declared _ rfl _⟩

end Flow
end CtorScan
