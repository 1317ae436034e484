import CtorScan.Analysis.Diagnostic
import CtorScan.Proofs.Directive.Ledger

/-!
# Findings one after the other

While the findings are gone through, the ledgers of the files change.  What is reported
can still be told from the ledgers before the first finding, and the ledger of a file
afterwards is the one that was asked for the findings of that file.
-/

namespace CtorScan
namespace Analysis

open Source
open Directive (Ledger)

namespace Ledgers

/-! ## Files with ledgers -/

theorem find?_insert
    (ledgers : Ledgers)
    (file other : String)
    (ledger : Ledger) :
    (ledgers.insert file ledger).find? other =
      if other = file then some ledger else ledgers.find? other :=
  lookup_insert ledgers.entries file ledger other

theorem find?_foldl_insert
    (files : List File)
    (leftOut : List String)
    (ledgers : Ledgers)
    (name : String) :
    (files.foldl
      (fun ledgers file =>
        if leftOut.contains file.position.file then ledgers
        else ledgers.insert file.position.file file.directives) ledgers).find? name =
      if name ∈ leftOut then ledgers.find? name
      else ((files.reverse.find? fun file => file.position.file == name).map File.directives).or
        (ledgers.find? name) := by
  induction files generalizing ledgers with
  | nil => simp
  | cons file rest inductionHypothesis =>
      rw [List.foldl_cons, inductionHypothesis, List.reverse_cons, List.find?_append]
      by_cases here : file.position.file = name
      · by_cases isLeftOut : name ∈ leftOut
        · simp [here, isLeftOut]
        · cases rest.reverse.find? fun file => file.position.file == name <;>
            simp [here, isLeftOut, find?_insert]
      · have elsewhere : name ≠ file.position.file := Ne.symm here
        by_cases isLeftOut : file.position.file ∈ leftOut <;>
          simp [here, isLeftOut, find?_insert, elsewhere]

/-- Under a name that is not left out are the directives of the last file with that name. -/
theorem find?_ofFiles_last
    (files : List File)
    (leftOut : List String)
    (name : String) :
    (ofFiles leftOut files).find? name =
      if name ∈ leftOut then none
      else (files.reverse.find? fun file => file.position.file == name).map File.directives := by
  rw [ofFiles, find?_foldl_insert files leftOut empty name]
  split
  · rfl
  · exact Option.or_none

/-- If no two files have the same name, those that are not left out have their directives. -/
theorem find?_ofFiles
    {files : List File}
    (distinct : (files.map fun file => file.position.file).Nodup)
    (leftOut : List String)
    (name : String) :
    (ofFiles leftOut files).find? name =
      if name ∈ leftOut then none
      else (files.find? fun file => file.position.file == name).map File.directives := by
  have same : (files.reverse.find? fun file => file.position.file == name) =
      files.find? fun file => file.position.file == name := by
    cases first : files.find? fun file => file.position.file == name with
    | none => simpa [List.find?_eq_none] using first
    | some file =>
        have named : file.position.file = name := by simpa using List.find?_some first
        have member := List.mem_of_find?_eq_some first
        cases last : files.reverse.find? fun file => file.position.file == name with
        | none =>
            have missed := List.find?_eq_none.mp last file (List.mem_reverse.mpr member)
            simp [named] at missed
        | some other =>
            have alsoNamed : other.position.file = name := by simpa using List.find?_some last
            have alsoMember := List.mem_reverse.mp (List.mem_of_find?_eq_some last)
            rw [List.inj_on_of_nodup_map distinct alsoMember member (alsoNamed.trans named.symm)]
  rw [find?_ofFiles_last, same]

/-! ## One finding -/

/-- A directive suppresses a finding of a kind on a line of a file. -/
def isSuppressed
    (ledgers : Ledgers)
    (file : String)
    (line : Int)
    (kind : String) : Bool :=
  (ledgers.find? file).any fun ledger => (ledger.credited? line kind).isSome

theorem suppress_fst
    (ledgers : Ledgers)
    (file : String)
    (line : Nat)
    (kind : Kind) :
    (ledgers.suppress file line kind).1 = ledgers.isSuppressed file line kind.shortName := by
  unfold suppress isSuppressed
  cases ledgers.find? file with
  | none => rfl
  | some ledger => exact ledger.suppress_fst line kind.shortName

/-- Only the ledger of the file of the finding was asked. -/
theorem find?_suppress
    (ledgers : Ledgers)
    (file : String)
    (line : Nat)
    (kind : Kind)
    (name : String) :
    (ledgers.suppress file line kind).2.find? name =
      (ledgers.find? name).map fun ledger =>
        ledger.asked (if file = name then [((line : Int), kind.shortName)] else []) := by
  unfold suppress
  cases held : ledgers.find? file with
  | none =>
      by_cases same : file = name
      · simp [← same, held]
      · simp [same, Ledger.asked]
  | some ledger =>
      by_cases same : file = name
      · subst same
        simp [find?_insert, held, Ledger.asked]
      · simp [find?_insert, same, Ne.symm same, Ledger.asked]

/-- What was asked before does not change whether a finding is suppressed. -/
theorem isSuppressed_of_asked
    {before after : Ledgers}
    {file : String}
    {queries : List Ledger.Query}
    (asked : after.find? file = (before.find? file).map fun ledger => ledger.asked queries)
    (line : Int)
    (kind : String) :
    after.isSuppressed file line kind = before.isSuppressed file line kind := by
  rw [isSuppressed, isSuppressed, asked, Option.any_map]
  simp [Ledger.asked_eq_credit]

end Ledgers

/-! ## All findings -/

/-- The position of a finding. -/
def findingPosition
    (files : List File)
    (record : Record) : Position :=
  positionAmong files record.position.toNat

/-- The finding as it is reported. -/
def reported
    (files : List File)
    (record : Record) : Diagnostic :=
  ⟨findingPosition files record, findingMessage record⟩

/-- The finding is neither in a file that is left out nor suppressed. -/
def isReported
    (files : List File)
    (leftOut : List String)
    (ledgers : Ledgers)
    (record : Record) : Bool :=
  let position := findingPosition files record
  !leftOut.contains position.file &&
    !ledgers.isSuppressed position.file position.line record.kind.shortName

/-- What the findings ask the ledger of a file, if it is not left out. -/
def queriesIn
    (files : List File)
    (leftOut : List String)
    (name : String)
    (records : List Record) : List Ledger.Query :=
  (records.filter fun record =>
    (findingPosition files record).file == name && !leftOut.contains name).map fun record =>
      (((findingPosition files record).line : Int), record.kind.shortName)

/-- The ledgers after one finding. -/
def afterFinding
    (files : List File)
    (leftOut : List String)
    (ledgers : Ledgers)
    (record : Record) : Ledgers :=
  let position := findingPosition files record
  if leftOut.contains position.file then ledgers
  else (ledgers.suppress position.file position.line record.kind).2

theorem findings_cons
    (files : List File)
    (leftOut : List String)
    (record : Record)
    (rest : List Record)
    (ledgers : Ledgers) :
    findings files leftOut (record :: rest) ledgers =
      let later := findings files leftOut rest (afterFinding files leftOut ledgers record)
      (if isReported files leftOut ledgers record then reported files record :: later.1
        else later.1, later.2) := by
  have suppressed := Ledgers.suppress_fst ledgers (findingPosition files record).file
    (findingPosition files record).line record.kind
  simp only [findings, isReported, afterFinding, reported, ← suppressed]
  simp only [findingPosition]
  split
  · rename_i isLeftOut
    have member : (positionAmong files record.position.toNat).file ∈ leftOut := by
      simpa using isLeftOut
    simp [member]
  · rename_i considered
    have absent : (positionAmong files record.position.toNat).file ∉ leftOut := by
      simpa using considered
    split <;> rename_i answer <;> simp [absent, answer]

/-- A finding asks the ledger of its own file only. -/
theorem find?_afterFinding
    (files : List File)
    (leftOut : List String)
    (ledgers : Ledgers)
    (record : Record)
    (name : String) :
    (afterFinding files leftOut ledgers record).find? name =
      (ledgers.find? name).map fun ledger =>
        ledger.asked (queriesIn files leftOut name [record]) := by
  by_cases here : (findingPosition files record).file = name
  · by_cases isLeftOut : name ∈ leftOut
    · simp [afterFinding, isLeftOut, queriesIn, here, Ledger.asked]
    · simp [afterFinding, isLeftOut, Ledgers.find?_suppress, queriesIn, here]
  · unfold afterFinding
    simp only
    split
    · simp [queriesIn, here, Ledger.asked]
    · simp [Ledgers.find?_suppress, queriesIn, here]

theorem isReported_afterFinding
    (files : List File)
    (leftOut : List String)
    (ledgers : Ledgers)
    (record : Record) :
    isReported files leftOut (afterFinding files leftOut ledgers record) =
      isReported files leftOut ledgers := by
  funext other
  simp only [isReported]
  rw [Ledgers.isSuppressed_of_asked (find?_afterFinding files leftOut ledgers record _)]

theorem queriesIn_cons
    (files : List File)
    (leftOut : List String)
    (name : String)
    (record : Record)
    (rest : List Record) :
    queriesIn files leftOut name (record :: rest) =
      queriesIn files leftOut name [record] ++ queriesIn files leftOut name rest := by
  rw [queriesIn, queriesIn, queriesIn, ← List.map_append, ← List.filter_append,
    List.singleton_append]

/-- What is reported can be told from the ledgers before the first finding. -/
theorem findings_fst
    (files : List File)
    (leftOut : List String)
    (records : List Record)
    (ledgers : Ledgers) :
    (findings files leftOut records ledgers).1 =
      (records.filter (isReported files leftOut ledgers)).map (reported files) := by
  induction records generalizing ledgers with
  | nil => rfl
  | cons record rest inductionHypothesis =>
      rw [findings_cons]
      simp only
      rw [inductionHypothesis, isReported_afterFinding, List.filter_cons]
      split <;> rfl

/-- The ledger of a file was asked for the findings of that file. -/
theorem find?_findings_snd
    (files : List File)
    (leftOut : List String)
    (records : List Record)
    (ledgers : Ledgers)
    (name : String) :
    (findings files leftOut records ledgers).2.find? name =
      (ledgers.find? name).map fun ledger =>
        ledger.asked (queriesIn files leftOut name records) := by
  induction records generalizing ledgers with
  | nil => simp [findings, queriesIn, Ledger.asked]
  | cons record rest inductionHypothesis =>
      rw [findings_cons]
      simp only
      rw [inductionHypothesis, find?_afterFinding, Option.map_map,
        queriesIn_cons files leftOut name record rest]
      congr 1
      funext ledger
      exact List.foldl_append.symm

end Analysis
end CtorScan
