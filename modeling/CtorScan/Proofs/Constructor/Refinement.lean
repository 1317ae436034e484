import CtorScan.Proofs.Constructor.Targets
import CtorScan.Proofs.Text.Search

/-!
# Longer markers

What occurs in a marker occurs in every name in which the marker does.  So a longer marker
finds some of the calls that a shorter one in it finds, and tells the same about them.  The
empty marker is apart from this: it occurs everywhere, but stands for the standard one.
-/

namespace CtorScan
namespace Marker

/-- The name is something, then the marker, then something. -/
def Within (marker name : String) : Prop :=
  ∃ before after, name = before ++ marker ++ after

instance (marker name : String) : Decidable (Within marker name) :=
  decidable_of_iff _ (Text.occursIn_toList_iff marker name)

theorem Within.trans
    {marker refined name : String}
    (inner : Within marker refined)
    (outer : Within refined name) :
    Within marker name := by
  obtain ⟨innerBefore, innerAfter, rfl⟩ := inner
  obtain ⟨before, after, rfl⟩ := outer
  exact ⟨before ++ innerBefore, innerAfter ++ after, by simp only [String.append_assoc]⟩

theorem Within.ne_empty
    {marker refined : String}
    (contained : Within marker refined)
    (nonempty : marker ≠ "") :
    refined ≠ "" := by
  obtain ⟨before, after, rfl⟩ := contained
  intro empty
  simp [nonempty] at empty

theorem effective_of_ne_empty
    {marker : String}
    (nonempty : marker ≠ "") :
    effective marker = marker :=
  if_neg nonempty

/-- A marker that is not empty is searched for as it is. -/
theorem isIn_iff_within
    {marker : String}
    (nonempty : marker ≠ "")
    (name : String) :
    isIn marker name = true ↔ Within marker name := by
  rw [isIn, effective_of_ne_empty nonempty]
  exact Text.occursIn_toList_iff marker name

/-- Of one call, the longer marker finds what the shorter one finds, provided that it
occurs in the name of the callee. -/
theorem recordOf?_refined
    {marker refined : String}
    (nonempty : marker ≠ "")
    (contained : Within marker refined)
    (caller : String)
    (target : String × Kind × Int) :
    recordOf? refined caller target =
      (recordOf? marker caller target).filter fun record => Within refined record.callee := by
  have found := isIn_iff_within (contained.ne_empty nonempty) target.1
  by_cases occurs : Within refined target.1
  · have also : isIn marker target.1 = true :=
      (isIn_iff_within nonempty target.1).mpr (contained.trans occurs)
    simp [recordOf?, found.mpr occurs, also, Option.filter_some, occurs]
  · have missed : isIn refined target.1 = false := by
      rw [Bool.eq_false_iff, ne_eq, found]
      exact occurs
    by_cases also : isIn marker target.1 = true <;>
      simp [recordOf?, missed, also, Option.filter_some, occurs]

theorem scan_refined
    {marker refined : String}
    (nonempty : marker ≠ "")
    (contained : Within marker refined)
    (function : Option (Function Signature)) :
    scan refined function =
      (scan marker function).filter fun record => Within refined record.callee := by
  cases function with
  | none => rfl
  | some function =>
      rw [scan_eq_filterMap_targets, scan_eq_filterMap_targets, List.filter_filterMap]
      congr 1
      funext target
      exact recordOf?_refined nonempty contained function.name target

theorem isIn_effective (marker : String) :
    isIn (effective marker) = isIn marker := by
  have once : effective (effective marker) = effective marker := by
    unfold effective
    split
    · rfl
    · simp
  funext name
  rw [isIn, isIn, once]

/-- A scan depends on the marker only through the one that is searched for. -/
theorem scan_effective
    (marker : String)
    (function : Option (Function Signature)) :
    scan (effective marker) function = scan marker function := by
  cases function with
  | none => rfl
  | some function =>
      rw [scan_eq_filterMap_targets, scan_eq_filterMap_targets]
      congr 1
      funext target
      rw [recordOf?, recordOf?, isIn_effective]

/-- Scanning with a longer marker gives the records of the shorter one whose callees hold the
longer one, in the same order and with nothing changed in them.  The empty marker stands for
the standard one. -/
theorem refining_marker_filters_records
    {marker refined : String}
    (nonempty : marker ≠ "")
    (contained : Within marker refined)
    (function : Option (Function Signature)) :
    scan refined function =
        (scan marker function).filter (fun record => Within refined record.callee) ∧
      (scan refined function).Sublist (scan marker function) ∧
      scan "" function = scan "C1" function := by
  have filtered := scan_refined nonempty contained function
  refine ⟨filtered, ?_, (scan_effective "" function).symm⟩
  rw [filtered]
  exact List.filter_sublist

/-- A function that calls others in whose names the marker occurs next to itself. -/
def overlappingCalls : Function Signature where
  name := "f"
  parameters := []
  variadic := false
  blocks := [some ⟨"entry", ["aaba", "aab", "aaab", "abab"].map fun callee =>
    some (.call ⟨some ⟨callee, [], false⟩, [], 0⟩)⟩]

/-- With a longer marker two of three records are left. -/
theorem refining_marker_filters_records_overlapping :
    "aa" ≠ "" ∧ Within "aa" "aaba" ∧
      (scan "aa" (some overlappingCalls)).map Record.callee = ["aaba", "aab", "aaab"] ∧
      (scan "aaba" (some overlappingCalls)).map Record.callee = ["aaba"] := by
  have nonempty : "aa" ≠ "" := by decide
  have contained : Within "aa" "aaba" := by decide
  have short : (scan "aa" (some overlappingCalls)).map Record.callee = ["aaba", "aab", "aaab"] := by
    decide
  refine ⟨nonempty, contained, short, ?_⟩
  rw [(refining_marker_filters_records nonempty contained (some overlappingCalls)).1]
  decide

end Marker
end CtorScan
