import CtorScan.Proofs.Analysis.Conservation

/-!
# Generated files are left out by name

Findings are left out by the names that are given to them, and a redirection gives other
names to what follows it.  So a finding in a generated file is left out if it has the name
that the file has at its first word.  Behind a redirection it may have another one, and
then it is reported like any other finding.
-/

namespace CtorScan

open Source

namespace Source.File

/-- The name that is given to what is at a place of the file: that of the last redirection
before it, or else that of the file. -/
def nameAt
    (file : File)
    (place : Nat) : String :=
  ((file.chart.redirectionAt? (place - file.chart.base)).map Redirection.file).getD
    file.chart.name

/-- Positions carry the names that are given to places. -/
theorem positionOf_file
    (file : File)
    (place : Nat) :
    (file.chart.positionOf place).file = file.nameAt place := by
  rw [nameAt, Chart.positionOf, Chart.position]
  cases file.chart.redirectionAt? (place - file.chart.base) <;> rfl

end Source.File

namespace Analysis

/-! ## Findings among diagnostics -/

/-- The findings of a package that are reported. -/
def LoadedPackage.reportedFindings
    (package : LoadedPackage)
    (marker : String) : List Record :=
  let leftOut := generatedNames package.files
  (recordsOf marker package.resolved).filter
    (isReported package.files leftOut (.ofFiles leftOut package.files))

theorem head?_toList_append
    {first : String}
    {c : Char}
    (starts : first.toList.head? = some c)
    (rest : String) :
    (first ++ rest).toList.head? = some c := by
  rw [String.toList_append, List.head?_append, starts, Option.some_or]

theorem head?_findingMessage (record : Record) :
    (findingMessage record).toList.head? = some 'i' := by
  iterate 4 apply head?_toList_append
  decide

/-- What is said about a directive is never said about a finding. -/
theorem idleMessage_ne_findingMessage
    (idle : Directive.Idle)
    (record : Record) :
    idleMessage idle ≠ findingMessage record := by
  have notice : (idleMessage idle).toList.head? = some 'u' := by
    have starts : "unused implicitctor:ignore directive".toList.head? = some 'u' := by decide
    unfold idleMessage
    split
    · exact starts
    · exact head?_toList_append (head?_toList_append starts _) _
  intro same
  rw [same, head?_findingMessage] at notice
  contradiction

/-- The findings that are reported come first, and nothing else is said to be one. -/
theorem LoadedPackage.diagnostics_eq_append
    (package : LoadedPackage)
    (marker : String) :
    ∃ notices, package.diagnostics marker =
        (package.reportedFindings marker).map (reported package.files) ++ notices ∧
      ∀ notice ∈ notices, ∀ record, notice.message ≠ findingMessage record := by
  refine ⟨idleDirectives package.files (findings package.files (generatedNames package.files)
    (recordsOf marker package.resolved)
    (.ofFiles (generatedNames package.files) package.files)).2, ?_, ?_⟩
  · rw [reportedFindings, ← findings_fst]
    rfl
  · intro notice member record
    obtain ⟨file, -, among⟩ := List.mem_flatMap.mp member
    split at among
    · contradiction
    · obtain ⟨idle, -, rfl⟩ := List.mem_map.mp among
      exact idleMessage_ne_findingMessage idle record

/-! ## Findings in files -/

theorem mem_generatedNames
    {files : List File}
    {name : String} :
    name ∈ generatedNames files ↔
      ∃ file ∈ files, file.isGenerated = true ∧ file.nameAt file.place = name := by
  simp only [generatedNames, List.mem_map, List.mem_filter, File.position, File.positionOf_file,
    and_assoc]

/-- A finding in a file is reported exactly if no generated file has the name that is given
to it and no directive under that name suppresses it. -/
theorem mem_reportedFindings_iff
    {package : LoadedPackage}
    (arranged : Arranged 1 package.files)
    {file : File}
    (member : file ∈ package.files)
    {marker : String}
    {record : Record}
    (found : record ∈ recordsOf marker package.resolved)
    (held : file.holds record = true) :
    record ∈ package.reportedFindings marker ↔
      (∀ other ∈ package.files, other.isGenerated = true ->
        other.nameAt other.place ≠ file.nameAt record.position.toNat) ∧
      (Ledgers.ofFiles (generatedNames package.files) package.files).isSuppressed
        (file.nameAt record.position.toNat)
        (file.chart.positionOf record.position.toNat).line record.kind.shortName = false := by
  have position : findingPosition package.files record =
      file.chart.positionOf record.position.toNat :=
    arranged.positionIn_eq member held
  have considered : file.nameAt record.position.toNat ∉ generatedNames package.files ↔
      ∀ other ∈ package.files, other.isGenerated = true ->
        other.nameAt other.place ≠ file.nameAt record.position.toNat := by
    simp only [mem_generatedNames, not_exists, not_and, ne_eq]
  rw [LoadedPackage.reportedFindings, List.mem_filter, isReported, position, File.positionOf_file,
    ← considered]
  simp [found]

/-! ## Loaded packages -/

/-- The findings that are reported come first, and nothing else is said to be one.  One in a
generated file is not among them if it has the name that the file has at its first word.  It is
among them exactly if its name is that of no generated file at its first word and no directive
under its name suppresses it. -/
theorem findings_in_generated_files
    {used : List PackageText}
    {text : PackageText}
    {package : LoadedPackage}
    (loaded : load used text = .ok package)
    (marker : String) :
    (∃ notices, package.diagnostics marker =
        (package.reportedFindings marker).map (reported package.files) ++ notices ∧
      ∀ notice ∈ notices, ∀ record, notice.message ≠ findingMessage record) ∧
    ∀ file ∈ package.files, file.isGenerated = true ->
      ∀ record ∈ recordsOf marker package.resolved, file.holds record = true ->
        (file.nameAt record.position.toNat = file.nameAt file.place ->
          record ∉ package.reportedFindings marker) ∧
        (record ∈ package.reportedFindings marker ↔
          (∀ other ∈ package.files, other.isGenerated = true ->
            other.nameAt other.place ≠ file.nameAt record.position.toNat) ∧
          (Ledgers.ofFiles (generatedNames package.files) package.files).isSuppressed
            (file.nameAt record.position.toNat)
            (file.chart.positionOf record.position.toNat).line record.kind.shortName = false) := by
  have arranged := arranged_of_filesOfTexts? (filesOfTexts?_of_load loaded)
  refine ⟨package.diagnostics_eq_append marker, ?_⟩
  intro file member generated record found held
  have reportedIff := mem_reportedFindings_iff arranged member found held
  refine ⟨fun sameName isReported => ?_, reportedIff⟩
  exact (reportedIff.mp isReported).1 file member generated sameName.symm

/-- A generated file with a call before a redirection and a call behind it. -/
def redirectedText : PackageText :=
  ⟨"p", [("gen.go", "// Code generated by hand. DO NOT EDIT.\n\npackage p\n\n" ++
    "func FooC1() \x7b\x7d\n\nfunc f() \x7b FooC1() \x7d\n\n" ++
    "//line parser.y:10\nfunc g() \x7b FooC1() \x7d\n")]⟩

/-- A generated file has a finding under its own name, which is not reported, and one under the
name of a redirection, which is. -/
theorem findings_in_generated_files_redirected :
    ∃ package, load [] redirectedText = .ok package ∧
      ∃ file ∈ package.files, file.isGenerated = true ∧
        ∃ early ∈ recordsOf "C1" package.resolved, ∃ late ∈ recordsOf "C1" package.resolved,
          file.holds early = true ∧ file.holds late = true ∧
          early ∉ package.reportedFindings "C1" ∧ late ∈ package.reportedFindings "C1" := by
  have passes : ((load [] redirectedText).toOption.any fun package =>
      package.files.any fun file => file.isGenerated &&
        (recordsOf "C1" package.resolved).any fun early =>
          (recordsOf "C1" package.resolved).any fun late =>
            file.holds early && file.holds late &&
              decide (file.nameAt early.position.toNat = file.nameAt file.place) &&
              decide (late ∈ package.reportedFindings "C1")) = true := by
    decide +kernel
  obtain ⟨package, loaded, passed⟩ := exists_of_any_load passes
  simp only [Bool.and_eq_true, List.any_eq_true, decide_eq_true_eq] at passed
  obtain ⟨file, member, generated, early, earlyFound, late, lateFound,
    ⟨⟨earlyHeld, lateHeld⟩, ownName⟩, lateReported⟩ := passed
  have leftOut := (findings_in_generated_files loaded "C1").2 file member generated early
    earlyFound earlyHeld
  exact ⟨package, loaded, file, member, generated, early, earlyFound, late, lateFound, earlyHeld,
    lateHeld, leftOut.1 ownName, lateReported⟩

/-- A call in a generated file is reported, under the name that a redirection gives to it. -/
theorem generated_file_is_reported :
    ∃ package, load [] redirectedText = .ok package ∧
      ∃ file ∈ package.files, file.isGenerated = true ∧
        ∃ record ∈ recordsOf "C1" package.resolved, file.holds record = true ∧
          reported package.files record = ⟨⟨"parser.y", 10, 0⟩,
            "implicit constructor detected: p.FooC1 (Default Constructor)"⟩ ∧
          package.diagnostics "C1" = [reported package.files record] := by
  have passes : ((load [] redirectedText).toOption.any fun package =>
      package.files.any fun file => file.isGenerated &&
        (recordsOf "C1" package.resolved).any fun record => file.holds record &&
          decide (reported package.files record = ⟨⟨"parser.y", 10, 0⟩,
            "implicit constructor detected: p.FooC1 (Default Constructor)"⟩) &&
          decide (package.diagnostics "C1" = [reported package.files record])) = true := by
    decide +kernel
  obtain ⟨package, loaded, passed⟩ := exists_of_any_load passes
  simp only [Bool.and_eq_true, List.any_eq_true, decide_eq_true_eq] at passed
  obtain ⟨file, member, generated, record, found, ⟨held, position⟩, only⟩ := passed
  exact ⟨package, loaded, file, member, generated, record, found, held, position, only⟩

end Analysis
end CtorScan
