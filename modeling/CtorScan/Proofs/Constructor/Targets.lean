import CtorScan.Constructor.Scan
import Mathlib.Data.List.Forall2

/-!
# What a scan depends on

Of an instruction, a scan sees only the name of the function that is called, the kind
that this function's parameters stand for, and the place of the call.  Functions with the
same name in which the same of this is seen are scanned alike.
-/

namespace CtorScan

theorem Function.instructions_mapCallee
    (reading : κ -> Option μ)
    (function : Function κ) :
    (function.mapCallee reading).instructions =
      function.instructions.map (Option.map (Instruction.mapCallee reading)) := by
  simp only [instructions, mapCallee, List.flatMap_map, List.map_flatMap]
  congr 1
  funext block
  cases block <;> rfl

namespace Marker

/-- What a scan sees of a call at a position: nothing, unless the called function has a
name. -/
def seen?
    (position : Int)
    (callee : Signature) : Option (String × Kind × Int) :=
  if callee.name = "" then none
  else some (callee.name, Kind.ofParameters callee.parameters, position)

/-- What a scan sees of an instruction. -/
def target? : Option (Instruction Signature) -> Option (String × Kind × Int)
  | some (.call call) => call.callee.bind (seen? call.position)
  | _ => none

/-- The record of what is seen, if the marker occurs in the name. -/
def recordOf?
    (marker caller : String)
    (target : String × Kind × Int) : Option Record :=
  if isIn marker target.1 then some ⟨caller, target.1, target.2.1, target.2.2⟩ else none

theorem record?_eq_bind_target?
    (marker caller : String)
    (instruction : Option (Instruction Signature)) :
    record? marker caller instruction = (target? instruction).bind (recordOf? marker caller) := by
  unfold record?
  split
  · rename_i callee arguments position
    by_cases unnamed : callee.name = "" <;> simp [target?, seen?, unnamed, recordOf?]
  · rename_i other
    match instruction with
    | none => rfl
    | some (.other operation) => rfl
    | some (.call ⟨none, arguments, position⟩) => rfl
    | some (.call ⟨some callee, arguments, position⟩) =>
        exact absurd rfl (other callee arguments position)

/-- Scanning a function looks at its name and at what it calls. -/
theorem scan_eq_filterMap_targets
    (marker : String)
    (function : Function Signature) :
    scan marker (some function) =
      (function.instructions.filterMap target?).filterMap (recordOf? marker function.name) := by
  rw [List.filterMap_filterMap, scan]
  congr 1
  funext instruction
  exact record?_eq_bind_target? marker function.name instruction

theorem filterMap_target?_eq
    {own other : List (Option (Instruction Signature))}
    (targets : List.Forall₂ (fun left right => target? left = target? right) own other) :
    own.filterMap target? = other.filterMap target? := by
  induction targets with
  | nil => rfl
  | cons seen _ inductionHypothesis =>
      rw [List.filterMap_cons, List.filterMap_cons, seen, inductionHypothesis]

/-- Functions with the same name are scanned alike if their instructions correspond and
the same is seen of those that correspond. -/
theorem scan_eq_of_forall₂
    {first second : Function Signature}
    (name : first.name = second.name)
    (targets : List.Forall₂ (fun own other => target? own = target? other)
      first.instructions second.instructions)
    (marker : String) :
    scan marker (some first) = scan marker (some second) := by
  rw [scan_eq_filterMap_targets, scan_eq_filterMap_targets, name, filterMap_target?_eq targets]

end Marker
end CtorScan
