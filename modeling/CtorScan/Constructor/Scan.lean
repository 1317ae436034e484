import CtorScan.Constructor.Kind
import CtorScan.Text.Search

/-!
# Finding constructor calls

A call is a constructor call when its target is known and has a name in which
the marker occurs.  Scanning a function lists its constructor calls in the
order of the body.
-/

namespace CtorScan

/-- A constructor call that was found. -/
structure Record where
  /-- The name of the function that holds the call. -/
  caller : String
  /-- The name of the called function. -/
  callee : String
  /-- The kind of the called constructor. -/
  kind : Kind
  /-- The place of the call, zero when there is none. -/
  position : Int
deriving DecidableEq, Inhabited

namespace Marker

/-- The marker of complete object constructors in mangled names. -/
def standard : String := "C1"

/-- The marker to search for: the empty one selects the standard one. -/
def effective (marker : String) : String :=
  if marker = "" then standard else marker

/-- The marker occurs in the name. -/
def isIn (marker name : String) : Bool :=
  Text.occursIn (effective marker).toList name.toList

/-- The record of one instruction, if it is a constructor call. -/
def record?
    (marker caller : String) :
    Option (Instruction Signature) -> Option Record
  | some (.call ⟨some callee, _, position⟩) =>
      if callee.name ≠ "" ∧ isIn marker callee.name then
        some {
          caller := caller
          callee := callee.name
          kind := Kind.ofParameters callee.parameters
          position := position }
      else
        none
  | _ => none

/-- The constructor calls of a function, in the order of its body; an absent
function has none. -/
def scan
    (marker : String) : Option (Function Signature) -> List Record
  | none => []
  | some function =>
      function.instructions.filterMap (record? marker function.name)

/-- The constructor calls of all functions of a program, in order. -/
def scanProgram
    (marker : String)
    (program : Program) : List Record :=
  program.resolved.flatMap fun function => scan marker (some function)

end Marker
end CtorScan
