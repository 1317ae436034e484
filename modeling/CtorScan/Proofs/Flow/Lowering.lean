import CtorScan.Proofs.Constructor.Targets
import CtorScan.Proofs.Constructor.Scan
import CtorScan.Proofs.Flow.Functions

/-!
# Calls of lowered functions

Every call of a function of a program comes from an instruction of the graph of the
function.  It has the place of that instruction, or else that of the function.
-/

namespace CtorScan
namespace Flow

variable {π : Type}

/-- The instruction becomes a call. -/
def Operation.IsCall : Operation -> Prop
  | .call _ => True
  | .spawn _ => True
  | .postpone _ => True
  | _ => False

/-- The place of a call in a function: its own, or else that of the function. -/
def Made.placeOf
    (made : Made π)
    (instruction : Instruction π) : Option π :=
  instruction.place.or made.place

/-- The instruction is in the graph of the function. -/
def Made.Has
    (made : Made π)
    (instruction : Instruction π) : Prop :=
  ∃ graph block, made.graph = some graph ∧ some block ∈ graph.blocks.toList ∧
    instruction ∈ block.instructions.toList

namespace Surface

variable {surface : Surface π}

theorem call_position
    (invoked : Bool)
    (instruction : Instruction π)
    (declarations : Declarations) :
    (surface.call invoked instruction declarations).1.position =
      (((instruction.place.or surface.place).map surface.numberOf).getD 0 : Nat) := by
  rw [Surface.call]
  cases surface.called? invoked instruction.operands.head? <;> rfl

/-- Only calls become calls, and they have their own places or that of the function. -/
theorem instruction_eq_call
    {instruction : Instruction π}
    {declarations : Declarations}
    {call : Call Nat}
    (kept : (surface.instruction instruction declarations).1 = .call call) :
    instruction.operation.IsCall ∧
      call.position =
        (((instruction.place.or surface.place).map surface.numberOf).getD 0 : Nat) := by
  obtain ⟨operation, operands, register, place⟩ := instruction
  cases operation with
  | call invoked | spawn invoked | postpone invoked =>
      obtain rfl := CtorScan.Instruction.call.inj kept
      exact ⟨trivial, call_position invoked _ declarations⟩
  | _ => contradiction

theorem exists_of_mem_instructions
    {list : List (Instruction π)}
    {declarations : Declarations}
    {instruction : CtorScan.Instruction Nat}
    (member : instruction ∈ (surface.instructions list declarations).1) :
    ∃ source ∈ list, ∃ before, (surface.instruction source before).1 = instruction := by
  induction list generalizing declarations with
  | nil => contradiction
  | cons first rest inductionHypothesis =>
      rcases List.mem_cons.mp member with rfl | later
      · exact ⟨first, List.mem_cons_self, declarations, rfl⟩
      · obtain ⟨source, among, before, same⟩ := inductionHypothesis later
        exact ⟨source, List.mem_cons_of_mem _ among, before, same⟩

theorem exists_of_mem_blocks
    {number : Nat}
    {list : List (Block π)}
    {declarations : Declarations}
    {block : CtorScan.Block Nat}
    (member : block ∈ (surface.blocks number list declarations).1) :
    ∃ source ∈ list, ∃ before, block.instructions =
      (surface.instructions source.instructions.toList before).1.map some := by
  induction list generalizing number declarations with
  | nil => contradiction
  | cons first rest inductionHypothesis =>
      rcases List.mem_cons.mp member with rfl | later
      · exact ⟨first, List.mem_cons_self, declarations, rfl⟩
      · obtain ⟨source, among, before, same⟩ := inductionHypothesis later
        exact ⟨source, List.mem_cons_of_mem _ among, before, same⟩

end Surface

/-- A call of a lowered function comes from a call of its graph. -/
theorem Made.exists_of_mem_lower
    {made : Made π}
    {env : Source.Env}
    {numberOf : π -> Nat}
    {declarations : Declarations}
    {call : Call Nat}
    (member : some (.call call) ∈ (made.lower env numberOf declarations).1.instructions) :
    ∃ instruction, made.Has instruction ∧ instruction.operation.IsCall ∧
      call.position = (((made.placeOf instruction).map numberOf).getD 0 : Nat) := by
  obtain ⟨routine, place, graph⟩ := made
  cases graph with
  | none => contradiction
  | some graph =>
      obtain ⟨_, amongLowered, inBlock⟩ := List.mem_flatMap.mp member
      obtain ⟨block, amongBlocks, rfl⟩ := List.mem_map.mp amongLowered
      obtain ⟨source, amongSources, before, same⟩ := Surface.exists_of_mem_blocks amongBlocks
      have inLowered : some (.call call) ∈ block.instructions := inBlock
      rw [same] at inLowered
      obtain ⟨kept, amongKept, isCall⟩ := List.mem_map.mp inLowered
      obtain rfl := Option.some.inj isCall
      obtain ⟨instruction, amongInstructions, earlier, lowered⟩ :=
        Surface.exists_of_mem_instructions amongKept
      obtain ⟨wasCall, position⟩ := Surface.instruction_eq_call lowered
      obtain ⟨held, inGraph, present⟩ := List.mem_filterMap.mp amongSources
      exact ⟨instruction, ⟨graph, source, rfl, present ▸ inGraph, amongInstructions⟩, wasCall,
        position⟩

/-- A record of a lowered function is of a call of its graph. -/
theorem Made.exists_of_mem_scan
    {made : Made π}
    {env : Source.Env}
    {numberOf : π -> Nat}
    {declarations : Declarations}
    {reading : Nat -> Option Signature}
    {marker : String}
    {record : Record}
    (member : record ∈
      Marker.scan marker (some ((made.lower env numberOf declarations).1.mapCallee reading))) :
    ∃ instruction, made.Has instruction ∧ instruction.operation.IsCall ∧
      record.position = (((made.placeOf instruction).map numberOf).getD 0 : Nat) := by
  rw [Marker.scan, Function.instructions_mapCallee, List.mem_filterMap] at member
  obtain ⟨instruction, among, found⟩ := member
  obtain ⟨call, callee, rfl, -, describes⟩ := Marker.record?_eq_some found
  obtain ⟨source, amongSources, mapped⟩ := List.mem_map.mp among
  obtain ⟨kept, rfl, same⟩ := Option.map_eq_some_iff.mp mapped
  cases kept with
  | other operation => contradiction
  | call kept =>
      obtain rfl := CtorScan.Instruction.call.inj same
      obtain ⟨instruction, held, isCall, position⟩ := Made.exists_of_mem_lower amongSources
      exact ⟨instruction, held, isCall, describes.position.trans position⟩

end Flow
end CtorScan
