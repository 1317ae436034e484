import CtorScan.Proofs.Analysis.Findings
import CtorScan.Proofs.Flow.Functions
import CtorScan.Proofs.Source.Directives

/-!
# Every finding and every directive is accounted for

A finding is reported unless it is in a generated file or a directive on its line or on
the line before speaks about it.  A directive is reported unless findings were
suppressed by it, for each of the kinds that it lists.  Neither depends on the order in
which the findings are gone through.
-/

namespace CtorScan

open Source

namespace Source.File

/-- The finding is in the file. -/
def holds
    (file : File)
    (record : Record) : Bool :=
  file.chart.contains record.position.toNat

/-- The line of a finding in the file. -/
def lineOfFinding
    (file : File)
    (record : Record) : Nat :=
  file.lineOf record.position.toNat

/-- The finding is in the file and suppressed by the directive: the directive speaks
about it and is on its line, or it is on the line before and no directive on the line of
the finding speaks about it. -/
def suppresses
    (file : File)
    (stated : Stated)
    (record : Record) : Bool :=
  let line := file.lineOfFinding record
  let kind := record.kind.shortName
  file.holds record && stated.covers kind &&
    (stated.line == line || stated.line + 1 == line && !file.coversOn line kind)

/-- What is reported about a directive of the file after some findings: nothing, or that
it was of no use, or for which of its kinds it was of no use. -/
def notice?
    (file : File)
    (records : List Record)
    (stated : Stated) : Option Analysis.Diagnostic :=
  let suppressed := records.filter (file.suppresses stated)
  let position := file.chart.positionOf stated.place
  if stated.kinds.isEmpty then
    if suppressed.isEmpty then some ⟨position, "unused implicitctor:ignore directive"⟩ else none
  else
    let idle := stated.kinds.filter fun kind =>
      !Directive.knownKinds.contains kind ||
        !suppressed.any fun record => record.kind.shortName == kind
    if idle.isEmpty then none
    else
      some ⟨position,
        "unused implicitctor:ignore directive for kind(s): " ++ ", ".intercalate idle⟩

/-- The directive in the ledger of the file after some findings. -/
def enteredAfter
    (file : File)
    (records : List Record)
    (stated : Stated) : Int × Directive.Entry :=
  (stated.line, stated.entered.2.useAll
    ((records.filter (file.suppresses stated)).map fun record => record.kind.shortName))

@[simp] theorem enteredAfter_position
    (file : File)
    (records : List Record)
    (stated : Stated) :
    (file.enteredAfter records stated).2.position = stated.place :=
  Directive.Entry.useAll_position _ _

@[simp] theorem enteredAfter_kinds
    (file : File)
    (records : List Record)
    (stated : Stated) :
    (file.enteredAfter records stated).2.kinds = stated.kinds :=
  Directive.Entry.useAll_kinds _ _

/-- The ledger remembers the kinds of the findings that the directive suppressed. -/
theorem mem_enteredAfter_used
    {file : File}
    {records : List Record}
    {stated : Stated}
    {kind : String} :
    kind ∈ (file.enteredAfter records stated).2.used ↔
      ∃ record ∈ records.filter (file.suppresses stated), record.kind.shortName = kind := by
  simp only [enteredAfter, Directive.Entry.mem_used_useAll, Stated.entered, List.not_mem_nil,
    false_or, List.mem_map]

end Source.File

namespace Analysis

open Directive (Ledger Entry)

/-- The finding is not in a generated file, and in its file no directive on its line or
on the line before speaks about it. -/
def isKept
    (files : List File)
    (record : Record) : Bool :=
  files.all fun file =>
    !file.holds record ||
      !file.isGenerated && !file.coversNear (file.lineOfFinding record) record.kind.shortName

/-- What is to be reported about files with some findings: the findings to be kept, then
file by file the notices of the directives, except in generated files. -/
def accounted
    (files : List File)
    (records : List Record) : List Diagnostic :=
  (records.filter (isKept files)).map (reported files) ++
    files.flatMap fun file =>
      if file.isGenerated then [] else file.stated.filterMap (file.notice? records)

theorem findingPosition_eq_none
    {files : List File}
    {record : Record}
    (outside : ∀ file ∈ files, file.holds record = false) :
    findingPosition files record = .none :=
  positionIn_eq_none outside

/-- Files as they are read, with names of their own and without redirections. -/
structure Tidy (files : List File) : Prop where
  /-- They follow each other. -/
  arranged : Arranged 1 files
  /-- They have no redirections. -/
  plain : ∀ file ∈ files, file.chart.redirections = []
  /-- No two have the same name. -/
  distinct : (files.map fun file => file.chart.name).Nodup
  /-- The generated ones have a name that is not empty. -/
  named : ∀ file ∈ files, file.isGenerated = true -> file.chart.name ≠ ""

namespace Tidy

variable
  {files : List File}
  (tidy : Tidy files)

include tidy

/-! ## Names and positions -/

theorem position_file
    {file : File}
    (member : file ∈ files) :
    file.position.file = file.chart.name := by
  rw [File.position, Chart.positionOf_eq_plainPosition (tidy.plain file member),
    Chart.plainPosition_file]

theorem positions_distinct :
    (files.map fun file => file.position.file).Nodup := by
  have same : (files.map fun file => file.position.file) =
      files.map fun file => file.chart.name :=
    List.map_congr_left fun file member => tidy.position_file member
  rw [same]
  exact tidy.distinct

theorem eq_of_name_eq
    {first second : File}
    (firstMember : first ∈ files)
    (secondMember : second ∈ files)
    (same : first.chart.name = second.chart.name) :
    first = second :=
  List.inj_on_of_nodup_map tidy.distinct firstMember secondMember same

theorem findingPosition_of_holds
    {file : File}
    (member : file ∈ files)
    {record : Record}
    (held : file.holds record = true) :
    (findingPosition files record).file = file.chart.name ∧
      (findingPosition files record).line = file.lineOfFinding record := by
  have position : findingPosition files record = file.chart.plainPosition _ :=
    (tidy.arranged.positionIn_eq member held).trans
      (Chart.positionOf_eq_plainPosition (tidy.plain file member) _)
  rw [position]
  exact ⟨rfl, rfl⟩

/-- The name with a finding tells the file that it is in, if it is in a file at all. -/
theorem findingPosition_eq_none_of_not_holds
    {file : File}
    (member : file ∈ files)
    {record : Record}
    (sameName : (findingPosition files record).file = file.chart.name)
    (elsewhere : file.holds record = false) :
    findingPosition files record = .none := by
  apply findingPosition_eq_none
  intro other otherMember
  by_contra somewhere
  have held : other.holds record = true := by simpa using somewhere
  have named := (tidy.findingPosition_of_holds otherMember held).1
  rw [tidy.eq_of_name_eq otherMember member (named.symm.trans sameName), elsewhere] at held
  contradiction

theorem mem_generatedNames_iff
    {file : File}
    (member : file ∈ files) :
    file.chart.name ∈ generatedNames files ↔ file.isGenerated = true := by
  constructor
  · intro named
    obtain ⟨other, among, sameName⟩ := List.mem_map.mp named
    obtain ⟨otherMember, generated⟩ := List.mem_filter.mp among
    rw [tidy.position_file otherMember] at sameName
    rw [← tidy.eq_of_name_eq otherMember member sameName]
    exact generated
  · intro generated
    exact List.mem_map.mpr
      ⟨file, List.mem_filter.mpr ⟨member, generated⟩, tidy.position_file member⟩

theorem find?_eq_some
    {file : File}
    (member : file ∈ files) :
    (files.find? fun other => other.position.file == file.chart.name) = some file := by
  cases search : files.find? fun other => other.position.file == file.chart.name with
  | none =>
      have missed := List.find?_eq_none.mp search file member
      simp [tidy.position_file member] at missed
  | some other =>
      have otherMember := List.mem_of_find?_eq_some search
      have sameName : other.position.file = file.chart.name := by
        simpa using List.find?_some search
      rw [tidy.position_file otherMember] at sameName
      rw [tidy.eq_of_name_eq otherMember member sameName]

/-! ## Findings -/

/-- The ledger of a file before the first finding. -/
theorem find?_ofFiles_of_mem
    {file : File}
    (member : file ∈ files) :
    (Ledgers.ofFiles (generatedNames files) files).find? file.chart.name =
      if file.isGenerated then none else some file.directives := by
  rw [Ledgers.find?_ofFiles tidy.positions_distinct, tidy.find?_eq_some member]
  simp only [tidy.mem_generatedNames_iff member, Option.map_some]

theorem isKept_eq_of_holds
    {file : File}
    (member : file ∈ files)
    {record : Record}
    (held : file.holds record = true) :
    isKept files record =
      (!file.isGenerated &&
        !file.coversNear (file.lineOfFinding record) record.kind.shortName) := by
  rw [Bool.eq_iff_iff, isKept, List.all_eq_true]
  constructor
  · intro kept
    simpa [held] using kept file member
  · intro kept other otherMember
    by_cases elsewhere : other.holds record = true
    · rw [tidy.arranged.eq_of_contains otherMember member elsewhere held]
      simpa [held] using kept
    · simp [elsewhere]

/-- A finding without a place is in no file and kept. -/
theorem isKept_of_no_place
    {record : Record}
    (noPlace : record.position = 0) :
    isKept files record = true := by
  rw [isKept, List.all_eq_true]
  intro file member
  have start := tidy.arranged.start file member
  have outside : file.holds record = false := by
    rw [File.holds, Chart.contains, noPlace]
    simp only [Int.toNat_zero, Bool.and_eq_false_iff, decide_eq_false_iff_not]
    omega
  simp [outside]

/-- A finding is reported exactly if it is to be kept. -/
theorem isReported_eq_isKept :
    isReported files (generatedNames files) (.ofFiles (generatedNames files) files) =
      isKept files := by
  funext record
  by_cases somewhere : ∃ file ∈ files, file.holds record = true
  · obtain ⟨file, member, held⟩ := somewhere
    obtain ⟨atName, atLine⟩ := tidy.findingPosition_of_holds member held
    have ledger := tidy.find?_ofFiles_of_mem member
    have leftOut := tidy.mem_generatedNames_iff member
    rw [tidy.isKept_eq_of_holds member held]
    simp only [isReported, Ledgers.isSuppressed, atName, atLine, ledger]
    cases generated : file.isGenerated with
    | true => simp [leftOut, generated]
    | false =>
        have credited := (tidy.arranged.sound file member).credited?_isSome
          (tidy.plain file member) (file.lineOfFinding record) record.kind.shortName
        simp [leftOut, generated, credited]
  · -- What is in no file is reported under the empty name and line zero.  A file may have that
    -- name, but no directive of it is near to that line.
    have outside : ∀ file ∈ files, file.holds record = false := by simpa using somewhere
    have notLeftOut : "" ∉ generatedNames files := by
      intro among
      obtain ⟨file, generated, atName⟩ := List.mem_map.mp among
      obtain ⟨member, generated⟩ := List.mem_filter.mp generated
      exact tidy.named file member generated ((tidy.position_file member).symm.trans atName)
    have uncredited : (Ledgers.ofFiles (generatedNames files) files).isSuppressed "" 0
        record.kind.shortName = false := by
      rw [Ledgers.isSuppressed, Ledgers.find?_ofFiles tidy.positions_distinct, if_neg notLeftOut,
        Option.any_map]
      cases search : files.find? fun file => file.position.file == "" with
      | none => rfl
      | some file =>
          have member := List.mem_of_find?_eq_some search
          have sound := tidy.arranged.sound file member
          exact (sound.credited?_isSome (tidy.plain file member) 0 _).trans
            (sound.coversNear_zero _)
    have kept : isKept files record = true := by
      rw [isKept, List.all_eq_true]
      intro file member
      simp [outside file member]
    rw [kept]
    simp [isReported, findingPosition_eq_none outside, Position.none, notLeftOut, uncredited]

/-! ## Directives -/

/-- The directive of a line is credited with the kinds of the findings it suppresses. -/
theorem creditedKinds_queriesIn
    {file : File}
    (member : file ∈ files)
    (considered : file.isGenerated = false)
    {stated : Stated}
    (among : stated ∈ file.stated)
    (records : List Record) :
    file.directives.creditedKinds
        (queriesIn files (generatedNames files) file.chart.name records) stated.line =
      (records.filter (file.suppresses stated)).map fun record => record.kind.shortName := by
  have notLeftOut : file.chart.name ∉ generatedNames files := by
    simp [tidy.mem_generatedNames_iff member, considered]
  rw [Ledger.creditedKinds, queriesIn, List.filter_map, List.map_map, List.filter_filter]
  congr 1
  apply List.filter_congr
  intro record _
  have sound := tidy.arranged.sound file member
  cases held : file.holds record with
  | false =>
      have uncredited : (findingPosition files record).file = file.chart.name ->
          file.directives.credited? (findingPosition files record).line record.kind.shortName ≠
            some (stated.line : Int) := by
        intro sameName
        have line := sound.line_pos_of_mem_stated among
        rw [tidy.findingPosition_eq_none_of_not_holds member sameName held, Position.none, Ne,
          sound.credited?_eq_some_iff (tidy.plain file member) among]
        dsimp only
        omega
      simpa [File.suppresses, held] using fun credited sameName =>
        absurd credited (uncredited sameName)
  | true =>
      obtain ⟨atName, atLine⟩ := tidy.findingPosition_of_holds member held
      have credited := sound.credited?_eq_some_iff (tidy.plain file member) among
        (file.lineOfFinding record) record.kind.shortName
      rw [Bool.eq_iff_iff]
      simp [File.suppresses, held, atName, atLine, notLeftOut, credited]

theorem positionAmong_eq
    {file : File}
    (member : file ∈ files)
    {stated : Stated}
    (among : stated ∈ file.stated) :
    positionAmong files stated.place = file.chart.positionOf stated.place :=
  tidy.arranged.positionIn_eq member
    ((tidy.arranged.sound file member).inside_of_mem_stated among)

end Tidy

/-- The notice of a directive tells whether it is idle and for which kinds. -/
theorem notice?_eq
    (file : File)
    (records : List Record)
    (stated : Stated) :
    file.notice? records stated =
      let entry := (file.enteredAfter records stated).2
      if entry.isIdle then
        some ⟨file.chart.positionOf stated.place, idleMessage ⟨stated.place, entry.idleKinds⟩⟩
      else none := by
  have unused : (file.enteredAfter records stated).2.used.isEmpty =
      (records.filter (file.suppresses stated)).isEmpty := by
    rw [Bool.eq_iff_iff, List.isEmpty_iff, List.isEmpty_iff, List.eq_nil_iff_forall_not_mem,
      List.eq_nil_iff_forall_not_mem]
    constructor
    · exact fun none record member =>
        none _ (File.mem_enteredAfter_used.mpr ⟨record, member, rfl⟩)
    · intro none kind member
      obtain ⟨record, suppressed, -⟩ := File.mem_enteredAfter_used.mp member
      exact none record suppressed
  have idle : (file.enteredAfter records stated).2.idleKinds = stated.kinds.filter fun kind =>
      !Directive.knownKinds.contains kind ||
        !(records.filter (file.suppresses stated)).any fun record =>
          record.kind.shortName == kind := by
    rw [Entry.idleKinds, File.enteredAfter_kinds]
    apply List.filter_congr
    intro kind _
    have same : (file.enteredAfter records stated).2.used.contains kind =
        (records.filter (file.suppresses stated)).any fun record =>
          record.kind.shortName == kind := by
      rw [Bool.eq_iff_iff, List.contains_iff_mem, File.mem_enteredAfter_used, List.any_eq_true]
      simp only [beq_iff_eq]
    rw [same]
  simp only [File.notice?, Entry.isIdle, File.enteredAfter_kinds, unused, idle]
  cases listed : stated.kinds.isEmpty with
  | true =>
      have none : stated.kinds = [] := List.isEmpty_iff.mp listed
      simp [none, idleMessage]
  | false =>
      simp only [Bool.false_eq_true, if_false]
      split
      · rename_i allUsed
        simp only [allUsed, Bool.not_true, Bool.false_eq_true, if_false]
      · rename_i someIdle
        simp only [someIdle, idleMessage, Bool.not_false, if_true, Bool.false_eq_true, if_false]
        rfl

namespace Tidy

variable
  {files : List File}
  (tidy : Tidy files)

include tidy

/-- The idle directives of a file are those that have a notice, in order. -/
theorem idle_eq_notices
    {file : File}
    (member : file ∈ files)
    (considered : file.isGenerated = false)
    (records : List Record) :
    ((file.directives.asked
        (queriesIn files (generatedNames files) file.chart.name records)).idle.map fun idle =>
      (⟨positionAmong files idle.position, idleMessage idle⟩ : Diagnostic)) =
      file.stated.filterMap (file.notice? records) := by
  have sound := tidy.arranged.sound file member
  have entries : (file.directives.asked
      (queriesIn files (generatedNames files) file.chart.name records)).entries =
        (file.stated.map (file.enteredAfter records)).reverse := by
    rw [Ledger.asked_eq_credit, Ledger.credit_entries,
      sound.entries_directives (tidy.plain file member), List.map_reverse, List.map_map]
    congr 1
    apply List.map_congr_left
    intro stated among
    have kinds := tidy.creditedKinds_queriesIn member considered among records
    simp only [Function.comp_apply, File.enteredAfter, Stated.entered, kinds]
  have increasing : (file.stated.map (file.enteredAfter records)).Pairwise fun early late =>
      early.2.position < late.2.position := by
    rw [List.pairwise_map]
    apply sound.stated_increasing.imp
    intro early late ordered
    simpa using ordered.1
  rw [Ledger.idle_eq_of_perm (entries ▸ List.reverse_perm _) increasing, List.filter_map,
    List.map_map, List.map_map, ← List.filterMap_eq_filter, List.map_filterMap]
  apply List.filterMap_congr
  intro stated among
  have position := tidy.positionAmong_eq member among
  rw [notice?_eq file records stated]
  by_cases idle : (file.enteredAfter records stated).2.isIdle = true
  · simp [Option.guard, idle, position]
  · simp [Option.guard, idle]

/-- What is reported about a file once the findings are gone through. -/
theorem match_find?_eq
    {file : File}
    (member : file ∈ files)
    (records : List Record) :
    (match (findings files (generatedNames files) records
          (.ofFiles (generatedNames files) files)).2.find? file.position.file with
      | none => []
      | some ledger =>
          ledger.idle.map fun idle =>
            (⟨positionAmong files idle.position, idleMessage idle⟩ : Diagnostic)) =
      if file.isGenerated then [] else file.stated.filterMap (file.notice? records) := by
  rw [find?_findings_snd, tidy.position_file member, tidy.find?_ofFiles_of_mem member]
  cases generated : file.isGenerated with
  | true => rfl
  | false => exact tidy.idle_eq_notices member generated records

/-- Findings that are kept come first, then the notices of directives file by file. -/
theorem diagnose_eq
    (records : List Record) :
    diagnose files records = accounted files records := by
  have first := findings_fst files (generatedNames files) records
    (.ofFiles (generatedNames files) files)
  rw [tidy.isReported_eq_isKept] at first
  have second := List.flatMap_congr fun file member => tidy.match_find?_eq member records
  rw [accounted, ← first, ← second]
  rfl

end Tidy

/-! ## Loaded packages -/

/-- The files of a package that is loaded are those of its texts. -/
theorem filesOfTexts?_of_load
    {used : List PackageText}
    {text : PackageText}
    {package : LoadedPackage}
    (loaded : load used text = .ok package) :
    filesOfTexts? 1 text.files = some package.files := by
  simp only [load, bind, Except.bind] at loaded
  split at loaded
  · contradiction
  · rename_i library _
    split at loaded
    · contradiction
    · rename_i checked isChecked
      split at loaded
      · contradiction
      · rename_i functions made
        obtain rfl := Except.ok.inj loaded
        simp only [Library.check] at isChecked
        split at isChecked
        · contradiction
        · rename_i files trees read
          split at isChecked
          · contradiction
          · obtain rfl := Except.ok.inj isChecked
            obtain ⟨cut, found, read⟩ := Option.bind_eq_some_iff.mp read
            obtain ⟨said, -, same⟩ := Option.bind_eq_some_iff.mp read
            rw [found, (ReadFiles.mk.inj (Option.some.inj same)).1]

/-- The function of a program is made from a function of the package. -/
def LoadedPackage.Lowers
    (package : LoadedPackage)
    (function : Function Signature)
    (made : Flow.Made (Place package.files)) : Prop :=
  ∃ before, function =
    (made.lower package.env Subtype.val before).1.mapCallee package.lowered.2.get?

/-- Each function of the package becomes one function of the program, in order. -/
theorem LoadedPackage.resolved_forall₂ (package : LoadedPackage) :
    List.Forall₂ package.Lowers package.resolved package.functions.all := by
  have lowered := Flow.lowerAll_forall₂ package.env Subtype.val package.functions.all .none
  rw [resolved, List.forall₂_map_left_iff]
  exact lowered.imp fun function made => fun ⟨before, equal⟩ => ⟨before, by rw [equal]⟩

/-- The functions of a package are scanned in order: the declared ones with those inside
of them, then the one that starts the package and those inside of it, in preorder and
each once.  Of a package whose files have different names and no redirections, and whose
generated files have names that are not empty, the findings to be kept are reported, those
without a place among them, and then file by file the directives that were of no use. -/
theorem diagnostics_conserve_findings_and_directives
    {used : List PackageText}
    {text : PackageText}
    {package : LoadedPackage}
    (loaded : load used text = .ok package)
    (plain : ∀ file ∈ package.files, file.chart.redirections = [])
    (distinct : (text.files.map Prod.fst).Nodup)
    (named : ∀ file ∈ package.files, file.isGenerated = true -> file.chart.name ≠ "")
    (marker : String) :
    (∃ declared started,
      package.functions.all = declared ++ package.functions.start :: started ∧
        Flow.Nested.InPreorder package.functions.declared declared ∧
        Flow.Nested.InPreorder package.functions.inner started) ∧
      List.Forall₂ package.Lowers package.resolved package.functions.all ∧
      (∀ file ∈ package.files,
        file.stated.Pairwise fun early late => early.place < late.place) ∧
      (∀ record : Record, record.position = 0 -> isKept package.files record = true) ∧
      package.diagnostics marker =
        accounted package.files (recordsOf marker package.resolved) := by
  have read := filesOfTexts?_of_load loaded
  have tidy : Tidy package.files :=
    ⟨arranged_of_filesOfTexts? read, plain, by rw [names_of_filesOfTexts? read]; exact distinct,
      named⟩
  refine ⟨⟨_, _, rfl, Flow.Nested.inPreorder_allOf _, Flow.Nested.inPreorder_allOf _⟩,
    package.resolved_forall₂, ?_, ?_, ?_⟩
  · intro file member
    exact (tidy.arranged.sound file member).stated_increasing.imp fun ordered => ordered.1
  · exact fun record noPlace => tidy.isKept_of_no_place noPlace
  · exact tidy.diagnose_eq _

/-- A package of two files, one of them generated and the other one without a name, with
directives of use and of none. -/
def sampleText : PackageText :=
  ⟨"p", [
    ("", "package p\n\nfunc C1() int \x7b return 1 \x7d\n\n" ++
      "var x = func() int \x7b return C1() \x7d()\n\n" ++
      "func f() \x7b\n\tC1() //implicitctor:ignore\n\tC1()\n" ++
      "\tC1() //implicitctor:ignore copy,move\n\x7d\n"),
    ("gen", "// Code generated by hand. DO NOT EDIT.\n\npackage p\n\n" ++
      "func g() \x7b\n\tC1()\n\x7d\n")]⟩

/-- What is reported about the sample package. -/
def sampleDiagnostics : List Diagnostic :=
  [⟨⟨"", 10, 4⟩, "implicit constructor detected: p.C1 (Default Constructor)"⟩,
    ⟨⟨"", 5, 31⟩, "implicit constructor detected: p.C1 (Default Constructor)"⟩,
    ⟨⟨"", 10, 7⟩, "unused implicitctor:ignore directive for kind(s): copy, move"⟩]

/-- A test that a package passes once it is loaded. -/
theorem exists_of_any_load
    {used : List PackageText}
    {text : PackageText}
    {test : LoadedPackage -> Bool}
    (passes : (load used text).toOption.any test = true) :
    ∃ package, load used text = .ok package ∧ test package = true := by
  cases loaded : load used text with
  | error problem =>
      rw [loaded] at passes
      contradiction
  | ok package =>
      rw [loaded] at passes
      exact ⟨package, rfl, passes⟩

/-- The findings and directives of the sample package are accounted for. -/
theorem diagnostics_conserve_findings_and_directives_sample :
    ∃ package, load [] sampleText = .ok package ∧
      (∀ file ∈ package.files, file.chart.redirections = []) ∧
      (sampleText.files.map Prod.fst).Nodup ∧
      (∀ file ∈ package.files, file.isGenerated = true -> file.chart.name ≠ "") ∧
      package.diagnostics "C1" = sampleDiagnostics := by
  have passes : ((load [] sampleText).toOption.any fun package =>
      (package.files.all fun file => file.chart.redirections.isEmpty &&
        (!file.isGenerated || file.chart.name != "")) &&
        decide (accounted package.files (recordsOf "C1" package.resolved) =
          sampleDiagnostics)) = true := by
    decide +kernel
  obtain ⟨package, loaded, passed⟩ := exists_of_any_load passes
  obtain ⟨tested, evaluated⟩ := Bool.and_eq_true_iff.mp passed
  simp only [List.all_eq_true, Bool.and_eq_true, List.isEmpty_iff, Bool.or_eq_true,
    Bool.not_eq_true', bne_iff_ne] at tested
  have plain : ∀ file ∈ package.files, file.chart.redirections = [] :=
    fun file member => (tested file member).1
  have distinct : (sampleText.files.map Prod.fst).Nodup := by decide
  have named : ∀ file ∈ package.files, file.isGenerated = true -> file.chart.name ≠ "" :=
    fun file member generated => (tested file member).2.resolve_left (by simp [generated])
  have conserved :=
    diagnostics_conserve_findings_and_directives loaded plain distinct named "C1"
  exact ⟨package, loaded, plain, distinct, named,
    conserved.2.2.2.2.trans (of_decide_eq_true evaluated)⟩

/-- A generated file without a name that uses another package. -/
def unnamedText : PackageText :=
  ⟨"p", [("", "// Code generated by hand. DO NOT EDIT.\n\npackage p\n\nimport _ \"q\"\n")]⟩

/-- The package that it uses. -/
def unnamedUsed : List PackageText :=
  [⟨"q", [("q", "package q\n")]⟩]

/-- Generated files must have names: one without a name swallows the findings that are in
no file, since those are reported under no name either. -/
theorem unnamed_generated_file_swallows_findings :
    ∃ package, load unnamedUsed unnamedText = .ok package ∧
      (∀ file ∈ package.files, file.chart.redirections = []) ∧
      (unnamedText.files.map Prod.fst).Nodup ∧
      (∃ record ∈ recordsOf "init" package.resolved,
        record.position = 0 ∧ isKept package.files record = true) ∧
      package.diagnostics "init" = [] ∧
      package.diagnostics "init" ≠
        accounted package.files (recordsOf "init" package.resolved) := by
  have passes : ((load unnamedUsed unnamedText).toOption.any fun package =>
      (package.files.all fun file => file.chart.redirections.isEmpty) &&
        ((recordsOf "init" package.resolved).any fun record =>
          record.position == 0 && isKept package.files record) &&
        (package.diagnostics "init").isEmpty &&
        !(accounted package.files (recordsOf "init" package.resolved)).isEmpty) = true := by
    decide +kernel
  obtain ⟨package, loaded, passed⟩ := exists_of_any_load passes
  simp only [Bool.and_eq_true, List.all_eq_true, List.any_eq_true, List.isEmpty_iff, beq_iff_eq,
    Bool.not_eq_true', List.isEmpty_eq_false_iff] at passed
  obtain ⟨⟨⟨plain, record, among, atNoPlace, kept⟩, nothing⟩, something⟩ := passed
  refine ⟨package, loaded, plain, by decide, ⟨record, among, atNoPlace, kept⟩, nothing, ?_⟩
  rw [nothing]
  exact something.symm

end Analysis
end CtorScan
