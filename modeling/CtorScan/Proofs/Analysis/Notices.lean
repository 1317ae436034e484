import CtorScan.Proofs.Analysis.Generated
import CtorScan.Proofs.Directive.Completeness

/-!
# Notices of directives that suppress nothing

Directives are kept by the lines that they are reported at, and files by the names that
they are reported under.  A redirection can give one line to two directives or one name to
two files; then the later one takes the place of the earlier one.  Once all findings are
gone through, the directives under the name of each file are looked at, so those under a
name that several files have are looked at several times.  A directive that suppresses
nothing is told of once if no later one has its line and no other file has its name, and
only then.
-/

namespace CtorScan

open Source
open Directive (Entry Idle Ledger)

/-! ## Directives that speak for a line -/

namespace Source

/-- The comment is a directive that speaks about the kind: it lists it, or it lists none. -/
def Comment.Covers
    (comment : Comment)
    (kind : String) : Prop :=
  ∃ listed, Directive.ofComment? comment.text = some listed ∧
    (Directive.kinds listed = [] ∨ kind ∈ Directive.kinds listed)

namespace File

/-- A directive speaks for its line if it is the last one there. -/
theorem Sound.suppressesAt_iff_covers
    {file : File}
    (sound : file.Sound)
    {line : Int}
    {kind : String} :
    file.directives.suppressesAt line kind = true ↔
      ∃ comment ∈ file.comments, file.LastOnLine comment ∧
        (file.reportedLine comment : Int) = line ∧ comment.Covers kind := by
  simp only [Ledger.suppressesAt, Option.any_eq_true, sound.find?_directives_iff,
    Entry.suppresses_iff]
  constructor
  · rintro ⟨entry, ⟨comment, member, listed, found, last, onLine, rfl⟩, speaks⟩
    exact ⟨comment, member, last, onLine, listed, found, speaks⟩
  · rintro ⟨comment, member, last, onLine, listed, found, speaks⟩
    exact ⟨_, ⟨comment, member, listed, found, last, onLine, rfl⟩, speaks⟩

end File

/-- A place is that of one comment in one file. -/
theorem Arranged.eq_of_place_eq
    {base : Nat}
    {files : List File}
    (arranged : Arranged base files)
    {file other : File}
    (member : file ∈ files)
    (otherMember : other ∈ files)
    {comment otherComment : Comment}
    (among : comment ∈ file.comments)
    (otherAmong : otherComment ∈ other.comments)
    (samePlace : otherComment.place = comment.place) :
    other = file ∧ otherComment = comment := by
  have sound := arranged.sound file member
  have inOther := (arranged.sound other otherMember).contains_of_mem otherAmong
  rw [samePlace] at inOther
  obtain rfl := arranged.eq_of_contains otherMember member inOther (sound.contains_of_mem among)
  have distinct := nodup_map_of_increasing (sound.ordered.imp fun ordered => ordered.1)
  exact ⟨rfl, List.inj_on_of_nodup_map distinct otherAmong among samePlace⟩

end Source

/-! ## Directives in force -/

namespace Analysis

/-- The directives of the file are those that are kept under its name: no generated file has
that name, and no later file. -/
structure Prevails
    (files : List File)
    (file : File) : Prop where
  /-- No generated file has the name. -/
  considered : ∀ other ∈ files, other.isGenerated = true ->
    other.position.file ≠ file.position.file
  /-- No later file has the name. -/
  last : ∀ other ∈ files, other.position.file = file.position.file ->
    other.chart.base ≤ file.chart.base

/-- The directive in a comment of the file is in force: its file prevails, and no later directive
of the file has its line. -/
structure InForce
    (files : List File)
    (file : File)
    (comment : Comment) : Prop where
  /-- The directives of the file are kept. -/
  prevails : Prevails files file
  /-- The directive is kept among those of its file. -/
  lastOnLine : file.LastOnLine comment

/-- The directive in a comment of the file suppresses the finding.  It is in force, the finding
has the name of the file, and the directive speaks about it.  The finding has the line of the
directive or the next one, and in that case no directive on its own line speaks about it. -/
structure Suppresses
    (files : List File)
    (file : File)
    (comment : Comment)
    (record : Record) : Prop where
  /-- The directive is in force. -/
  inForce : InForce files file comment
  /-- The finding is reported under the name of the file. -/
  sameName : file.position.file = (findingPosition files record).file
  /-- The directive speaks about the kind of the finding. -/
  covers : comment.Covers record.kind.shortName
  /-- The finding is on the line of the directive or on the next one. -/
  near : (findingPosition files record).line = file.reportedLine comment ∨
    (findingPosition files record).line = file.reportedLine comment + 1 ∧
      ∀ other ∈ file.comments, file.LastOnLine other ->
        file.reportedLine other = file.reportedLine comment + 1 ->
          ¬ other.Covers record.kind.shortName

variable {files : List File}

theorem mem_generatedNames_iff {name : String} :
    name ∈ generatedNames files ↔
      ∃ file ∈ files, file.isGenerated = true ∧ file.position.file = name := by
  simp only [generatedNames, List.mem_map, List.mem_filter, and_assoc]

/-- Under a name are the directives of the file with that name that prevails, if one does. -/
theorem find?_ofFiles_eq_some_iff
    (arranged : Arranged 1 files)
    {name : String}
    {ledger : Ledger} :
    (Ledgers.ofFiles (generatedNames files) files).find? name = some ledger ↔
      ∃ file ∈ files, Prevails files file ∧ file.position.file = name ∧
        file.directives = ledger := by
  rw [Ledgers.find?_ofFiles_last]
  split
  · rename_i isLeftOut
    obtain ⟨other, otherMember, isGenerated, otherNamed⟩ := mem_generatedNames_iff.mp isLeftOut
    simp only [reduceCtorEq, false_iff]
    rintro ⟨file, member, prevails, rfl, -⟩
    exact prevails.considered other otherMember isGenerated otherNamed
  · rename_i considered
    rw [Option.map_eq_some_iff]
    simp only [find?_reverse_eq_some_iff arranged.bases_increasing, beq_iff_eq]
    constructor
    · rintro ⟨file, ⟨member, rfl, last⟩, equal⟩
      refine ⟨file, member, ⟨?_, last⟩, rfl, equal⟩
      intro other otherMember isGenerated sameName
      exact considered (mem_generatedNames_iff.mpr ⟨other, otherMember, isGenerated, sameName⟩)
    · rintro ⟨file, member, prevails, rfl, equal⟩
      exact ⟨file, ⟨member, rfl, prevails.last⟩, equal⟩

/-- A finding is suppressed exactly if some directive suppresses it. -/
theorem isSuppressed_iff
    (arranged : Arranged 1 files)
    (record : Record) :
    (Ledgers.ofFiles (generatedNames files) files).isSuppressed
        (findingPosition files record).file (findingPosition files record).line
        record.kind.shortName = true ↔
      ∃ file ∈ files, ∃ comment ∈ file.comments, Suppresses files file comment record := by
  simp only [Ledgers.isSuppressed, Option.any_eq_true, find?_ofFiles_eq_some_iff arranged,
    Option.isSome_iff_exists, Ledger.credited?_eq_some_iff]
  constructor
  · rintro ⟨_, ⟨file, member, prevails, sameName, rfl⟩, credited, speaks, near⟩
    have sound := arranged.sound file member
    obtain ⟨comment, among, last, rfl, covers⟩ := sound.suppressesAt_iff_covers.mp speaks
    refine ⟨file, member, comment, among, ⟨prevails, last⟩, sameName, covers, ?_⟩
    rcases near with here | ⟨below, silent⟩
    · exact Or.inl (Int.ofNat.inj here)
    · refine Or.inr ⟨Int.ofNat.inj below, ?_⟩
      intro other otherAmong otherLast onNext otherCovers
      rw [sound.suppressesAt_iff_covers.mpr
        ⟨other, otherAmong, otherLast, by rw [onNext]; rfl, otherCovers⟩] at silent
      contradiction
  · rintro ⟨file, member, comment, among, inForce, sameName, covers, near⟩
    have sound := arranged.sound file member
    refine ⟨_, ⟨file, member, inForce.prevails, sameName, rfl⟩, file.reportedLine comment,
      sound.suppressesAt_iff_covers.mpr ⟨comment, among, inForce.lastOnLine, rfl, covers⟩, ?_⟩
    rcases near with here | ⟨below, silent⟩
    · exact Or.inl (congrArg Int.ofNat here)
    · refine Or.inr ⟨congrArg Int.ofNat below, ?_⟩
      rw [Bool.eq_false_iff]
      intro speaks
      obtain ⟨other, otherAmong, otherLast, onNext, otherCovers⟩ :=
        sound.suppressesAt_iff_covers.mp speaks
      exact silent other otherAmong otherLast (Int.ofNat.inj onNext) otherCovers

/-! ## Use of a directive -/

/-- The findings that ask the ledger under a name. -/
theorem mem_queriesIn_iff
    {leftOut : List String}
    {name : String}
    {records : List Record}
    {line : Int}
    {kind : String} :
    (line, kind) ∈ queriesIn files leftOut name records ↔
      ∃ record ∈ records, (findingPosition files record).file = name ∧ name ∉ leftOut ∧
        ((findingPosition files record).line : Int) = line ∧ record.kind.shortName = kind := by
  simp [queriesIn, and_assoc]

/-- The ledger of a file once the findings were gone through. -/
def directivesAfter
    (files : List File)
    (records : List Record)
    (file : File) : Ledger :=
  file.directives.asked (queriesIn files (generatedNames files) file.position.file records)

/-- A directive in force that suppresses no finding stays as it was. -/
theorem find?_directivesAfter
    (arranged : Arranged 1 files)
    {records : List Record}
    {file : File}
    (member : file ∈ files)
    {comment : Comment}
    (among : comment ∈ file.comments)
    {listed : Directive.Listed}
    (found : Directive.ofComment? comment.text = some listed)
    (inForce : InForce files file comment)
    (idle : ∀ record ∈ records, ¬ Suppresses files file comment record) :
    (directivesAfter files records file).find? (file.reportedLine comment) =
      some ⟨comment.place, Directive.kinds listed, []⟩ := by
  have sound := arranged.sound file member
  have entered := sound.find?_directives_iff.mpr
    ⟨comment, among, listed, found, inForce.lastOnLine, rfl, rfl⟩
  obtain ⟨used, after, uses⟩ := Ledger.find?_asked entered rfl
    (queriesIn files (generatedNames files) file.position.file records)
  have unused : used = [] := by
    rw [List.eq_nil_iff_forall_not_mem]
    intro kind kindUsed
    obtain ⟨speaks, asked⟩ := (uses kind).mp kindUsed
    -- each query comes from a finding, which the directive would then suppress
    rcases asked with here | ⟨below, silent⟩
    · obtain ⟨record, recorded, sameName, -, onLine, rfl⟩ := mem_queriesIn_iff.mp here
      exact idle record recorded
        ⟨inForce, sameName.symm, ⟨listed, found, speaks⟩, Or.inl (Int.ofNat.inj onLine)⟩
    · obtain ⟨record, recorded, sameName, -, onLine, rfl⟩ := mem_queriesIn_iff.mp below
      refine idle record recorded ⟨inForce, sameName.symm, ⟨listed, found, speaks⟩,
        Or.inr ⟨Int.ofNat.inj onLine, ?_⟩⟩
      rintro other otherAmong otherLast onNext ⟨otherListed, otherFound, otherSpeaks⟩
      refine silent _ (sound.find?_directives_iff.mpr
        ⟨other, otherAmong, otherListed, otherFound, otherLast, ?_, rfl⟩) otherSpeaks
      rw [onNext]
      rfl
  rw [directivesAfter, after, unused]

/-- What is in the ledger of a file comes from the comments of the file. -/
theorem exists_of_find?_directivesAfter
    (arranged : Arranged 1 files)
    {records : List Record}
    {file : File}
    (member : file ∈ files)
    {line : Int}
    {entry : Entry}
    (found : (directivesAfter files records file).find? line = some entry) :
    ∃ comment ∈ file.comments, file.LastOnLine comment ∧
      (file.reportedLine comment : Int) = line ∧ entry.position = comment.place := by
  rw [directivesAfter, Ledger.asked_eq_credit, Ledger.find?_credit, Option.map_eq_some_iff] at found
  obtain ⟨before, entered, rfl⟩ := found
  obtain ⟨comment, among, listed, -, last, onLine, rfl⟩ :=
    (arranged.sound file member).find?_directives_iff.mp entered
  exact ⟨comment, among, last, onLine, Entry.useAll_position _ _⟩

/-- A directive that was never of use is reported with all the kinds that it lists. -/
theorem reports_of_used_eq_nil
    {entry : Entry}
    (unused : entry.used = [])
    (idle : Idle) :
    entry.Reports idle ↔ idle = ⟨entry.position, entry.kinds⟩ := by
  have all : entry.idleKinds = entry.kinds := by simp [Entry.idleKinds, unused]
  have isIdle : entry.isIdle = true := by
    rw [Entry.isIdle, all, unused]
    split <;> simp_all
  rw [Entry.reports_iff, all]
  simp [isIdle]

/-! ## Notices -/

/-- The directives under a name that were of no use. -/
def noticesUnder
    (files : List File)
    (records : List Record)
    (name : String) : List Idle :=
  (((findings files (generatedNames files) records
    (.ofFiles (generatedNames files) files)).2.find? name).map Ledger.idle).getD []

/-- The directives that were of no use, for the name of each file. -/
def notices
    (files : List File)
    (records : List Record) : List Idle :=
  files.flatMap fun file => noticesUnder files records file.position.file

/-- How often the directive in a comment is told of. -/
def timesTold
    (files : List File)
    (records : List Record)
    (comment : Comment) : Nat :=
  ((notices files records).map Idle.position).count comment.place

/-- A directive that was of no use as it is reported. -/
def noticed
    (files : List File)
    (idle : Idle) : Diagnostic :=
  ⟨positionAmong files idle.position, idleMessage idle⟩

/-- After the findings come the notices. -/
theorem LoadedPackage.diagnostics_eq_notices
    (package : LoadedPackage)
    (marker : String) :
    package.diagnostics marker =
      (package.reportedFindings marker).map (reported package.files) ++
        (notices package.files (recordsOf marker package.resolved)).map
          (noticed package.files) := by
  rw [reportedFindings, ← findings_fst, notices, List.map_flatMap]
  refine congrArg (_ ++ ·) (List.flatMap_congr fun file _ => ?_)
  rw [noticesUnder]
  split <;> rename_i held <;> simp [held, noticed]

/-- Under the name of a file that prevails are its own directives. -/
theorem noticesUnder_of_prevails
    (arranged : Arranged 1 files)
    {file : File}
    (member : file ∈ files)
    (prevails : Prevails files file)
    (records : List Record) :
    noticesUnder files records file.position.file = (directivesAfter files records file).idle := by
  have held := (find?_ofFiles_eq_some_iff arranged).mpr ⟨file, member, prevails, rfl, rfl⟩
  rw [noticesUnder, find?_findings_snd, held]
  rfl

theorem ordered_directivesAfter
    (arranged : Arranged 1 files)
    {file : File}
    (member : file ∈ files)
    (records : List Record) :
    (directivesAfter files records file).Ordered :=
  (arranged.sound file member).ordered_directives.asked _

/-- A notice is about a directive that is in force. -/
theorem exists_of_mem_noticesUnder
    (arranged : Arranged 1 files)
    {records : List Record}
    {name : String}
    {idle : Idle}
    (notice : idle ∈ noticesUnder files records name) :
    ∃ file ∈ files, file.position.file = name ∧ ∃ comment ∈ file.comments,
      InForce files file comment ∧ idle.position = comment.place := by
  cases held : (Ledgers.ofFiles (generatedNames files) files).find? name with
  | none => simp [noticesUnder, find?_findings_snd, held] at notice
  | some ledger =>
      obtain ⟨file, member, prevails, rfl, rfl⟩ := (find?_ofFiles_eq_some_iff arranged).mp held
      rw [noticesUnder_of_prevails arranged member prevails,
        (ordered_directivesAfter arranged member records).mem_idle_iff] at notice
      obtain ⟨line, entry, found, reports⟩ := notice
      obtain ⟨comment, among, last, -, place⟩ :=
        exists_of_find?_directivesAfter arranged member found
      exact ⟨file, member, rfl, comment, among, ⟨prevails, last⟩, reports.position.trans place⟩

theorem count_flatMap_eq_countP
    {place : Nat}
    {test : File -> Bool}
    {block : File -> List Nat}
    (each : ∀ file ∈ files, (block file).count place = if test file then 1 else 0) :
    (files.flatMap block).count place = files.countP test := by
  induction files with
  | nil => rfl
  | cons file rest inductionHypothesis =>
      have here := each file List.mem_cons_self
      have later := inductionHypothesis fun other member =>
        each other (List.mem_cons_of_mem _ member)
      rw [List.flatMap_cons, List.count_append, here, later, List.countP_cons, Nat.add_comm]

/-- A file is the only one with its name exactly if one file has that name. -/
theorem countP_name_eq_one_iff
    (arranged : Arranged 1 files)
    {file : File}
    (member : file ∈ files) :
    (files.countP fun other => other.position.file == file.position.file) = 1 ↔
      ∀ other ∈ files, other.position.file = file.position.file -> other = file := by
  constructor
  · intro one other otherMember sameName
    rw [List.countP_eq_length_filter] at one
    obtain ⟨only, filtered⟩ := List.length_eq_one_iff.mp one
    have isOnly : ∀ named ∈ files, named.position.file = file.position.file -> named = only := by
      intro named namedMember itsName
      have kept : named ∈ files.filter fun other =>
          other.position.file == file.position.file :=
        List.mem_filter.mpr ⟨namedMember, by simpa using itsName⟩
      rw [filtered] at kept
      exact List.mem_singleton.mp kept
    rw [isOnly other otherMember sameName, isOnly file member rfl]
  · intro only
    have distinct := nodup_map_of_increasing arranged.bases_increasing
    calc
      (files.countP fun other => other.position.file == file.position.file)
          = files.countP fun other => other.chart.base == file.chart.base := by
          apply List.countP_congr
          intro other otherMember
          rw [beq_iff_eq, beq_iff_eq]
          constructor
          · intro sameName
            rw [only other otherMember sameName]
          · intro sameBase
            rw [List.inj_on_of_nodup_map distinct otherMember member sameBase]
      _ = (files.map fun other => other.chart.base).count file.chart.base := by
          rw [List.count_eq_countP, List.countP_map]
          rfl
      _ = 1 := List.count_eq_one_of_mem distinct (List.mem_map.mpr ⟨file, member, rfl⟩)

theorem prevails_of_only
    {file : File}
    (notGenerated : file.isGenerated = false)
    (only : ∀ other ∈ files, other.position.file = file.position.file -> other = file) :
    Prevails files file := by
  refine ⟨?_, ?_⟩
  · intro other member isGenerated sameName
    rw [only other member sameName, notGenerated] at isGenerated
    contradiction
  · intro other member sameName
    rw [only other member sameName]

section Comment

variable
  (arranged : Arranged 1 files)
  {records : List Record}
  {file : File}
  (member : file ∈ files)
  {comment : Comment}
  (among : comment ∈ file.comments)

include arranged member among

/-- A directive is told of only if it is in force, and under the name of its file. -/
theorem inForce_of_mem_noticesUnder
    {name : String}
    {notice : Idle}
    (told : notice ∈ noticesUnder files records name)
    (place : notice.position = comment.place) :
    InForce files file comment ∧ file.position.file = name := by
  obtain ⟨other, otherMember, named, otherComment, otherAmong, inForce, otherPlace⟩ :=
    exists_of_mem_noticesUnder arranged told
  obtain ⟨rfl, rfl⟩ := arranged.eq_of_place_eq member otherMember among otherAmong
    (otherPlace.symm.trans place)
  exact ⟨inForce, named⟩

theorem timesTold_of_not_inForce
    (notInForce : ¬ InForce files file comment) :
    timesTold files records comment = 0 := by
  rw [timesTold, List.count_eq_zero]
  intro told
  obtain ⟨notice, inNotices, place⟩ := List.mem_map.mp told
  obtain ⟨other, -, under⟩ := List.mem_flatMap.mp inNotices
  exact notInForce (inForce_of_mem_noticesUnder arranged member among under place).1

variable
  {listed : Directive.Listed}
  (found : Directive.ofComment? comment.text = some listed)
  (idle : ∀ record ∈ records, ¬ Suppresses files file comment record)

include found idle

/-- A directive that suppresses nothing is told of with all its kinds. -/
theorem eq_of_mem_noticesUnder
    {name : String}
    {notice : Idle}
    (told : notice ∈ noticesUnder files records name)
    (place : notice.position = comment.place) :
    notice = ⟨comment.place, Directive.kinds listed⟩ := by
  obtain ⟨inForce, rfl⟩ := inForce_of_mem_noticesUnder arranged member among told place
  have kept := find?_directivesAfter arranged member among found inForce idle
  rw [noticesUnder_of_prevails arranged member inForce.prevails,
    (ordered_directivesAfter arranged member records).mem_idle_iff] at told
  obtain ⟨line, entry, held, reports⟩ := told
  obtain ⟨other, otherAmong, -, rfl, otherPlace⟩ :=
    exists_of_find?_directivesAfter arranged member held
  obtain ⟨-, rfl⟩ := arranged.eq_of_place_eq member member among otherAmong
    (otherPlace.symm.trans (reports.position.symm.trans place))
  obtain rfl := Option.some.inj (held.symm.trans kept)
  exact (reports_of_used_eq_nil rfl notice).mp reports

/-- A directive in force that suppresses nothing is told of once under the name of its file. -/
theorem count_noticesUnder_eq_one (inForce : InForce files file comment) :
    ((noticesUnder files records file.position.file).map Idle.position).count
      comment.place = 1 := by
  have ordered := ordered_directivesAfter arranged member records
  have kept := find?_directivesAfter arranged member among found inForce idle
  rw [noticesUnder_of_prevails arranged member inForce.prevails]
  apply List.count_eq_one_of_mem
  · exact nodup_map_of_increasing ordered.idle_increasing
  · have told := ordered.mem_idle_iff.mpr
      ⟨_, _, kept, (reports_of_used_eq_nil rfl _).mpr rfl⟩
    exact List.mem_map.mpr ⟨_, told, rfl⟩

/-- A directive in force that suppresses nothing is told of once for each file with the name of
its file. -/
theorem timesTold_of_inForce (inForce : InForce files file comment) :
    timesTold files records comment =
      files.countP fun other => other.position.file == file.position.file := by
  rw [timesTold, notices, List.map_flatMap]
  apply count_flatMap_eq_countP
  intro other _
  by_cases sameName : other.position.file = file.position.file
  · rw [sameName, count_noticesUnder_eq_one arranged member among found idle inForce]
    simp
  · have untold : ((noticesUnder files records other.position.file).map Idle.position).count
        comment.place = 0 := by
      rw [List.count_eq_zero]
      intro told
      obtain ⟨notice, under, place⟩ := List.mem_map.mp told
      exact sameName (inForce_of_mem_noticesUnder arranged member among under place).2.symm
    simp [untold, sameName]

/-- A directive that suppresses nothing is told of once exactly if it is the last one on its line
and no other file has the name of its file. -/
theorem timesTold_eq_one_iff (notGenerated : file.isGenerated = false) :
    timesTold files records comment = 1 ↔
      file.LastOnLine comment ∧
        ∀ other ∈ files, other.position.file = file.position.file -> other = file := by
  rw [← countP_name_eq_one_iff arranged member]
  constructor
  · intro once
    by_cases inForce : InForce files file comment
    · rw [timesTold_of_inForce arranged member among found idle inForce] at once
      exact ⟨inForce.lastOnLine, once⟩
    · rw [timesTold_of_not_inForce arranged member among inForce] at once
      contradiction
  · rintro ⟨last, one⟩
    have only := (countP_name_eq_one_iff arranged member).mp one
    have inForce : InForce files file comment := ⟨prevails_of_only notGenerated only, last⟩
    rw [timesTold_of_inForce arranged member among found idle inForce, one]

end Comment

/-! ## What is said -/

theorem exists_idleMessage_eq (idle : Idle) :
    ∃ rest, idleMessage idle = "unused implicitctor:ignore directive" ++ rest := by
  unfold idleMessage
  split
  · exact ⟨"", String.append_empty.symm⟩
  · exact ⟨_, String.append_assoc⟩

theorem findingMessage_ne_append
    (record : Record)
    (rest : String) :
    findingMessage record ≠ "unused implicitctor:ignore directive" ++ rest := by
  intro same
  have starts := head?_findingMessage record
  rw [same, head?_toList_append (show _ = some 'u' by decide)] at starts
  contradiction

/-- A finding is reported exactly if no generated file has its name and no directive suppresses
it. -/
theorem mem_reportedFindings_iff_not_suppresses
    {package : LoadedPackage}
    (arranged : Arranged 1 package.files)
    {marker : String}
    {record : Record} :
    record ∈ package.reportedFindings marker ↔
      record ∈ recordsOf marker package.resolved ∧
        (∀ file ∈ package.files, file.isGenerated = true ->
          file.position.file ≠ (findingPosition package.files record).file) ∧
        ∀ file ∈ package.files, ∀ comment ∈ file.comments,
          ¬ Suppresses package.files file comment record := by
  have tested : isReported package.files (generatedNames package.files)
        (.ofFiles (generatedNames package.files) package.files) record = true ↔
      (findingPosition package.files record).file ∉ generatedNames package.files ∧
        ¬ (Ledgers.ofFiles (generatedNames package.files) package.files).isSuppressed
          (findingPosition package.files record).file (findingPosition package.files record).line
          record.kind.shortName = true := by
    simp [isReported]
  rw [LoadedPackage.reportedFindings, List.mem_filter, tested, isSuppressed_iff arranged,
    mem_generatedNames_iff]
  simp only [not_exists, not_and, ne_eq]

/-! ## Loaded packages -/

/-- After the findings come the notices of directives, and nothing that is said about a finding
starts like one.  A finding is reported unless a generated file has its name or a directive
suppresses it.  A directive in a file that is not generated, and which suppresses no finding, is
told of at its position and with its kinds: once for each file with the name of its file if it is in
force, and else not at all.  So it is told of exactly once if and only if no later directive
has its line and no other file has the name of its file, as in files without redirections and
with different names. -/
theorem unused_directives_are_noticed
    {used : List PackageText}
    {text : PackageText}
    {package : LoadedPackage}
    (loaded : load used text = .ok package)
    (marker : String) :
    let files := package.files
    let records := recordsOf marker package.resolved
    package.diagnostics marker =
      (package.reportedFindings marker).map (reported files) ++
        (notices files records).map (noticed files) ∧
    (∀ record rest, findingMessage record ≠ "unused implicitctor:ignore directive" ++ rest) ∧
    (∀ record, record ∈ package.reportedFindings marker ↔
      record ∈ records ∧
        (∀ file ∈ files, file.isGenerated = true ->
          file.position.file ≠ (findingPosition files record).file) ∧
        ∀ file ∈ files, ∀ comment ∈ file.comments, ¬ Suppresses files file comment record) ∧
    ∀ file ∈ files, file.isGenerated = false ->
      ∀ comment ∈ file.comments, ∀ listed, Directive.ofComment? comment.text = some listed ->
        (∀ record ∈ records, ¬ Suppresses files file comment record) ->
        (∀ notice ∈ notices files records, notice.position = comment.place ->
          notice.kinds = Directive.kinds listed ∧
            ∃ rest, noticed files notice = ⟨file.chart.positionOf comment.place,
              "unused implicitctor:ignore directive" ++ rest⟩) ∧
        (InForce files file comment ->
          timesTold files records comment =
            files.countP fun other => other.position.file == file.position.file) ∧
        (¬ InForce files file comment -> timesTold files records comment = 0) ∧
        (timesTold files records comment = 1 ↔
          file.LastOnLine comment ∧
            ∀ other ∈ files, other.position.file = file.position.file -> other = file) ∧
        ((∀ other ∈ files, other.chart.redirections = []) -> (text.files.map Prod.fst).Nodup ->
          timesTold files records comment = 1) := by
  intro files records
  have read := filesOfTexts?_of_load loaded
  have arranged : Arranged 1 files := arranged_of_filesOfTexts? read
  refine ⟨package.diagnostics_eq_notices marker, findingMessage_ne_append,
    fun record => mem_reportedFindings_iff_not_suppresses arranged, ?_⟩
  intro file member notGenerated comment among listed found idle
  have onceIff := timesTold_eq_one_iff arranged member among found idle notGenerated
  refine ⟨?_, timesTold_of_inForce arranged member among found idle,
    timesTold_of_not_inForce arranged member among, onceIff, ?_⟩
  · intro notice told place
    obtain ⟨other, -, under⟩ := List.mem_flatMap.mp told
    obtain rfl := eq_of_mem_noticesUnder arranged member among found idle under place
    obtain ⟨rest, said⟩ := exists_idleMessage_eq ⟨comment.place, Directive.kinds listed⟩
    have position : positionAmong files comment.place = file.chart.positionOf comment.place :=
      arranged.positionIn_eq member ((arranged.sound file member).contains_of_mem among)
    exact ⟨rfl, rest, by rw [noticed, position, said]⟩
  · intro plain distinct
    have named : ∀ other ∈ files, other.position.file = other.chart.name := by
      intro other otherMember
      rw [File.position, Chart.positionOf_eq_plainPosition (plain other otherMember),
        Chart.plainPosition_file]
    rw [← names_of_filesOfTexts? read] at distinct
    refine onceIff.mpr
      ⟨(arranged.sound file member).lastOnLine_of_plain (plain file member) among found, ?_⟩
    intro other otherMember sameName
    rw [named other otherMember, named file member] at sameName
    exact List.inj_on_of_nodup_map distinct otherMember member sameName

/-- A file with a directive that suppresses a call, and behind a redirection one that suppresses
nothing. -/
def idleText : PackageText :=
  ⟨"p", [("p.go", "package p\n\nfunc FooC1() \x7b\x7d\n\n" ++
    "func f() \x7b\n\tFooC1() //implicitctor:ignore\n\x7d\n\n" ++
    "//line p.go:40\n//implicitctor:ignore copy\nfunc g() \x7b\x7d\n")]⟩

/-- The call is not reported, and the directive behind the redirection is told of once. -/
theorem unused_directives_are_noticed_redirected :
    ∃ package, load [] idleText = .ok package ∧
      (∃ record ∈ recordsOf "C1" package.resolved, record ∉ package.reportedFindings "C1") ∧
      ∃ file ∈ package.files, file.isGenerated = false ∧
        ∃ comment ∈ file.comments, comment.text = "//implicitctor:ignore copy" ∧
          (∀ record ∈ recordsOf "C1" package.resolved,
            ¬ Suppresses package.files file comment record) ∧
          timesTold package.files (recordsOf "C1" package.resolved) comment = 1 := by
  have passes : ((load [] idleText).toOption.any fun package =>
      ((recordsOf "C1" package.resolved).any fun record =>
        decide (record ∉ package.reportedFindings "C1")) &&
      decide (package.files.length = 1) &&
      package.files.any fun file => !file.isGenerated &&
        file.comments.any fun comment =>
          decide (comment.text = "//implicitctor:ignore copy") &&
          decide (Directive.ofComment? comment.text = some (some ["copy"])) &&
          (file.comments.all fun other => decide (other.place ≤ comment.place)) &&
          (recordsOf "C1" package.resolved).all fun record =>
            decide ((findingPosition package.files record).line < file.reportedLine comment)) =
        true := by
    decide +kernel
  obtain ⟨package, loaded, passed⟩ := exists_of_any_load passes
  simp only [Bool.and_eq_true, Bool.not_eq_true', List.any_eq_true, List.all_eq_true,
    decide_eq_true_eq] at passed
  obtain ⟨⟨⟨record, recorded, unreported⟩, single⟩, file, member, notGenerated, comment, among,
    ⟨⟨written, found⟩, last⟩, above⟩ := passed
  have idle : ∀ record ∈ recordsOf "C1" package.resolved,
      ¬ Suppresses package.files file comment record := by
    intro record recorded suppresses
    have line := above record recorded
    have near := suppresses.near
    omega
  obtain ⟨-, -, -, told⟩ := unused_directives_are_noticed loaded "C1"
  obtain ⟨-, -, -, onceIff, -⟩ := told file member notGenerated comment among _ found idle
  refine ⟨package, loaded, ⟨record, recorded, unreported⟩, file, member, notGenerated, comment,
    among, written, idle, onceIff.mpr ⟨fun other otherAmong _ _ => last other otherAmong, ?_⟩⟩
  intro other otherMember _
  obtain ⟨only, filesEq⟩ := List.length_eq_one_iff.mp single
  rw [filesEq, List.mem_singleton] at member otherMember
  rw [member, otherMember]

/-- A file with two directives, to which a redirection gives the same line. -/
def crowdedText : PackageText :=
  ⟨"p", [("p.go", "package p\n\n//implicitctor:ignore\nfunc f() \x7b\x7d\n\n" ++
    "//line p.go:3\n//implicitctor:ignore\nfunc g() \x7b\x7d\n")]⟩

/-- Two files to which redirections give the same name, one of them with a directive. -/
def namesakesText : PackageText :=
  ⟨"p", [("a.go", "//line x.go:1\npackage p\n"),
    ("b.go", "//line x.go:1\npackage p\n\n//implicitctor:ignore\n")]⟩

/-- Of two directives on one line only one is told of, and the directive of a file that shares
its name is told of twice. -/
theorem shared_positions_mislead_notices :
    (∃ package, load [] crowdedText = .ok package ∧
      (∀ file ∈ package.files, file.isGenerated = false) ∧
      recordsOf "C1" package.resolved = [] ∧
      ((package.files.flatMap File.comments).countP fun comment =>
        (Directive.ofComment? comment.text).isSome) = 2 ∧
      package.diagnostics "C1" =
        [⟨⟨"p.go", 3, 0⟩, "unused implicitctor:ignore directive"⟩]) ∧
    ∃ package, load [] namesakesText = .ok package ∧
      (∀ file ∈ package.files, file.isGenerated = false) ∧
      recordsOf "C1" package.resolved = [] ∧
      ((package.files.flatMap File.comments).countP fun comment =>
        (Directive.ofComment? comment.text).isSome) = 1 ∧
      package.diagnostics "C1" =
        [⟨⟨"x.go", 3, 0⟩, "unused implicitctor:ignore directive"⟩,
          ⟨⟨"x.go", 3, 0⟩, "unused implicitctor:ignore directive"⟩] := by
  have evaluated : ∀ (text : PackageText) (count : Nat) (expected : List Diagnostic),
      ((load [] text).toOption.any fun package =>
        (package.files.all fun file => !file.isGenerated) &&
        (recordsOf "C1" package.resolved).isEmpty &&
        decide (((package.files.flatMap File.comments).countP fun comment =>
          (Directive.ofComment? comment.text).isSome) = count) &&
        decide (package.diagnostics "C1" = expected)) = true ->
      ∃ package, load [] text = .ok package ∧
        (∀ file ∈ package.files, file.isGenerated = false) ∧
        recordsOf "C1" package.resolved = [] ∧
        ((package.files.flatMap File.comments).countP fun comment =>
          (Directive.ofComment? comment.text).isSome) = count ∧
        package.diagnostics "C1" = expected := by
    intro text count expected passes
    obtain ⟨package, loaded, passed⟩ := exists_of_any_load passes
    simp only [Bool.and_eq_true, Bool.not_eq_true', List.all_eq_true, List.isEmpty_iff,
      decide_eq_true_eq] at passed
    obtain ⟨⟨⟨notGenerated, nothing⟩, counted⟩, diagnosed⟩ := passed
    exact ⟨package, loaded, notGenerated, nothing, counted, diagnosed⟩
  exact ⟨evaluated crowdedText _ _ (by decide +kernel),
    evaluated namesakesText _ _ (by decide +kernel)⟩

end Analysis
end CtorScan
