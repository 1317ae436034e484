import CtorScan.Proofs.Analysis.Conservation
import CtorScan.Proofs.Flow.Lowering
import CtorScan.Proofs.Program.Description

/-!
# Where findings are

A finding is at the place of a call, or at that of the function around it if the call has
none.  There are no other places than those in the files of the package.  Only the function
that starts the package has no place, so what it calls without a place is reported at no
position.
-/

namespace CtorScan
namespace Analysis

open Source

/-- Every finding is one of a call of a function of the package. -/
theorem LoadedPackage.exists_of_mem_recordsOf
    {package : LoadedPackage}
    {marker : String}
    {record : Record}
    (found : record ∈ recordsOf marker package.resolved) :
    ∃ made ∈ package.functions.all, ∃ instruction, made.Has instruction ∧
      instruction.operation.IsCall ∧
      record.position = (((made.placeOf instruction).map Subtype.val).getD 0 : Nat) := by
  obtain ⟨function, member, scanned⟩ := List.mem_flatMap.mp found
  obtain ⟨made, among, before, rfl⟩ :=
    Description.exists_of_mem_right package.resolved_forall₂.flip member
  exact ⟨made, among, Flow.Made.exists_of_mem_scan scanned⟩

/-- What has no place has no position. -/
theorem findingPosition_of_no_place
    {used : List PackageText}
    {text : PackageText}
    {package : LoadedPackage}
    (loaded : load used text = .ok package)
    {record : Record}
    (noPlace : record.position = 0) :
    findingPosition package.files record = .none := by
  apply findingPosition_eq_none
  intro file member
  have first := (arranged_of_filesOfTexts? (filesOfTexts?_of_load loaded)).start file member
  rw [File.holds, Chart.contains, noPlace]
  simp only [Int.toNat_zero, Bool.and_eq_false_iff, decide_eq_false_iff_not]
  omega

/-- Every finding is one of a call of a function of the package.  It is reported in the file
of the package that has its place: that of the call, or else that of the function.  Only what
the function that starts the package calls without a place is reported at no position. -/
theorem findings_are_in_files_or_of_package_start
    {used : List PackageText}
    {text : PackageText}
    {package : LoadedPackage}
    (loaded : load used text = .ok package)
    (marker : String) :
    ∀ record ∈ recordsOf marker package.resolved,
      ∃ made ∈ package.functions.all, ∃ instruction, made.Has instruction ∧
        instruction.operation.IsCall ∧
        ((∃ place, made.placeOf instruction = some place ∧ record.position = place.val ∧
          ∃ file ∈ package.files, file.chart.contains place.val = true ∧
            findingPosition package.files record = file.chart.positionOf place.val) ∨
        (made = package.functions.start ∧ instruction.place = none ∧ record.position = 0 ∧
          findingPosition package.files record = .none)) := by
  intro record found
  have arranged := arranged_of_filesOfTexts? (filesOfTexts?_of_load loaded)
  obtain ⟨made, among, instruction, held, isCall, position⟩ :=
    LoadedPackage.exists_of_mem_recordsOf found
  refine ⟨made, among, instruction, held, isCall, ?_⟩
  cases placed : made.placeOf instruction with
  | some place =>
      obtain ⟨file, member, contained⟩ := place.property
      rw [placed] at position
      refine Or.inl ⟨place, rfl, position, file, member, contained, ?_⟩
      rw [findingPosition, position]
      exact arranged.positionIn_eq member contained
  | none =>
      -- Neither the call nor the function has a place.
      obtain ⟨noPlace, functionless⟩ := Option.or_eq_none_iff.mp placed
      rw [placed] at position
      refine Or.inr ⟨?_, noPlace, position, findingPosition_of_no_place loaded position⟩
      rcases Flow.Functions.exists_place_or_start among with ⟨place, atPlace⟩ | isStart
      · rw [functionless] at atPlace
        contradiction
      · exact isStart

/-- A package that uses another one and does nothing else. -/
def usingText : PackageText :=
  ⟨"p", [("p.go", "package p\n\nimport _ \"libC1\"\n")]⟩

/-- The package that it uses. -/
def usedTexts : List PackageText :=
  [⟨"libC1", [("q.go", "package q\n")]⟩]

/-- The finding of the package is one of a call without a place, in the function that starts
the package. -/
theorem findings_are_in_files_or_of_package_start_using :
    ∃ package, load usedTexts usingText = .ok package ∧
      ∃ record ∈ recordsOf "C1" package.resolved, record.position = 0 ∧
        ∃ instruction, package.functions.start.Has instruction ∧
          instruction.operation.IsCall ∧ instruction.place = none := by
  have passes : ((load usedTexts usingText).toOption.any fun package =>
      (recordsOf "C1" package.resolved).any fun record => record.position == 0) = true := by
    decide +kernel
  obtain ⟨package, loaded, passed⟩ := exists_of_any_load passes
  simp only [List.any_eq_true, beq_iff_eq] at passed
  obtain ⟨record, found, atNoPlace⟩ := passed
  obtain ⟨made, -, instruction, held, isCall, placed | ⟨rfl, noPlace, -⟩⟩ :=
    findings_are_in_files_or_of_package_start loaded "C1" record found
  · obtain ⟨place, -, position, file, member, contained, -⟩ := placed
    have first := (arranged_of_filesOfTexts? (filesOfTexts?_of_load loaded)).start file member
    simp only [Chart.contains, Bool.and_eq_true, decide_eq_true_eq] at contained
    omega
  · exact ⟨package, loaded, record, found, atNoPlace, instruction, held, isCall, noPlace⟩

/-- Starting another package is a call that is reported at no position. -/
theorem start_of_used_package_has_no_position :
    ∃ package, load usedTexts usingText = .ok package ∧
      package.diagnostics "C1" = [⟨.none,
        "implicit constructor detected: libC1.init (Default Constructor)"⟩] := by
  have passes : ((load usedTexts usingText).toOption.any fun package =>
      decide (package.diagnostics "C1" = [⟨.none,
        "implicit constructor detected: libC1.init (Default Constructor)"⟩])) = true := by
    decide +kernel
  obtain ⟨package, loaded, passed⟩ := exists_of_any_load passes
  exact ⟨package, loaded, of_decide_eq_true passed⟩

end Analysis
end CtorScan
