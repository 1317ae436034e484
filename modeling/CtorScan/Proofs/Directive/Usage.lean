import CtorScan.Proofs.Directive.Ledger
import CtorScan.Proofs.Source.File

/-!
# What the directives of a file were of use for

The ledger of a file starts with nothing used.  After any findings, a directive was of
use for exactly the kinds of those findings that are credited to it: findings on its line
that it speaks about, and findings on the next line that it speaks about and no directive
there does.  The directives of no use are told from that, in the order of their places,
however the ledger holds them and however they are sorted.
-/

namespace CtorScan
namespace Directive

/-! ## What a directive speaks about -/

namespace Entry

/-- The directive speaks about a kind: it lists it, or it lists none. -/
def Matches
    (entry : Entry)
    (kind : String) : Prop :=
  entry.kinds = [] ∨ kind ∈ entry.kinds

theorem suppresses_iff
    (entry : Entry)
    (kind : String) :
    entry.suppresses kind = true ↔ entry.Matches kind := by
  simp [suppresses, Matches]

/-- What is reported about a directive that was of no use: its place, and the kinds that
it lists without use, unknown ones among them.  One that lists no kinds is reported if it
was of no use at all. -/
structure Reports
    (entry : Entry)
    (idle : Idle) : Prop where
  /-- The report is about this directive. -/
  position : idle.position = entry.position
  /-- Some part of the directive was of no use, or all of it. -/
  kinds :
    (entry.kinds = [] ∧ entry.used = [] ∧ idle.kinds = []) ∨
      (idle.kinds ≠ [] ∧
        idle.kinds = entry.kinds.filter fun kind =>
          kind ∉ ["default", "copy", "parameterized"] ∨ kind ∉ entry.used)

theorem idleKinds_eq (entry : Entry) :
    entry.idleKinds = entry.kinds.filter fun kind =>
      kind ∉ ["default", "copy", "parameterized"] ∨ kind ∉ entry.used := by
  have known : knownKinds = ["default", "copy", "parameterized"] := rfl
  rw [idleKinds, known]
  apply List.filter_congr
  intro kind _
  rw [Bool.eq_iff_iff]
  simp only [Bool.or_eq_true, Bool.not_eq_true', List.contains_eq_mem, decide_eq_false_iff_not,
    decide_eq_true_eq]

theorem reports_iff
    (entry : Entry)
    (idle : Idle) :
    entry.Reports idle ↔
      entry.isIdle = true ∧ idle = ⟨entry.position, entry.idleKinds⟩ := by
  have listed := entry.idleKinds_eq
  constructor
  · rintro ⟨position, ⟨none, unused, nothing⟩ | ⟨something, equal⟩⟩
    · have idleNone : entry.idleKinds = [] := by simp [idleKinds, none]
      refine ⟨by simp [isIdle, none, unused], ?_⟩
      cases idle
      simp_all
    · rw [← listed] at equal
      have some : entry.kinds ≠ [] := by
        intro none
        exact something (by simp [equal, idleKinds, none])
      refine ⟨?_, ?_⟩
      · rw [equal] at something
        simp [isIdle, some, something]
      · cases idle
        simp_all
  · rintro ⟨isIdle, rfl⟩
    refine ⟨rfl, ?_⟩
    by_cases none : entry.kinds = []
    · refine Or.inl ⟨none, ?_, by simp [idleKinds, none]⟩
      simpa [Entry.isIdle, none] using isIdle
    · refine Or.inr ⟨?_, listed⟩
      simpa [Entry.isIdle, none] using isIdle

end Entry

namespace Ledger

/-! ## Ledgers of comments -/

/-- No two directives are on one line, and the latest comes first. -/
structure Ordered (ledger : Ledger) : Prop where
  /-- No line has two directives. -/
  functional : ledger.IsFunctional
  /-- Later directives come before earlier ones. -/
  latestFirst : ledger.entries.Pairwise fun late early => early.2.position < late.2.position

theorem isFunctional_insert
    {ledger : Ledger}
    (functional : ledger.IsFunctional)
    (line : Int)
    (entry : Entry) :
    (ledger.insert line entry).IsFunctional := by
  rw [IsFunctional, insert, List.map_cons, List.nodup_cons]
  constructor
  · intro member
    obtain ⟨other, kept, same⟩ := List.mem_map.mp member
    simp [same] at kept
  · exact functional.sublist (List.filter_sublist.map _)

/-- A directive takes the place of the one on its line and of no other. -/
theorem isFunctional_ofComments (comments : List Comment) :
    (ofComments comments).IsFunctional := by
  suffices kept : ∀ ledger : Ledger, ledger.IsFunctional ->
      (comments.foldl enter ledger).IsFunctional from kept empty List.nodup_nil
  induction comments with
  | nil => exact fun ledger functional => functional
  | cons comment rest inductionHypothesis =>
      intro ledger functional
      apply inductionHypothesis
      unfold enter
      split
      · exact functional
      · exact isFunctional_insert functional _ _

/-- The directives in a ledger are among those of the comments, the latest first. -/
theorem entries_ofComments_sublist (comments : List Comment) :
    (ofComments comments).entries.reverse.Sublist (comments.filterMap Comment.stated?) := by
  suffices among : ∀ ledger : Ledger,
      (comments.foldl enter ledger).entries.reverse.Sublist
        (ledger.entries.reverse ++ comments.filterMap Comment.stated?) from among empty
  induction comments with
  | nil => simp
  | cons comment rest inductionHypothesis =>
      intro ledger
      rw [List.foldl_cons]
      cases stated : comment.stated? with
      | none =>
          rw [List.filterMap_cons_none stated, enter_of_stated?_eq_none stated]
          exact inductionHypothesis ledger
      | some other =>
          obtain ⟨line, entry⟩ := other
          rw [List.filterMap_cons_some stated, enter_of_stated?_eq_some stated]
          refine (inductionHypothesis _).trans ?_
          rw [insert, List.reverse_cons, List.append_assoc, List.singleton_append]
          exact List.filter_sublist.reverse.append_right _

theorem stated?_increasing
    {comments : List Comment}
    (increasing : comments.Pairwise fun early late => early.position < late.position) :
    (comments.filterMap Comment.stated?).Pairwise fun early late =>
      early.2.position < late.2.position := by
  rw [List.pairwise_filterMap]
  apply increasing.imp
  intro early late before first firstStated second secondStated
  obtain ⟨-, -, rfl⟩ := Option.map_eq_some_iff.mp firstStated
  obtain ⟨-, -, rfl⟩ := Option.map_eq_some_iff.mp secondStated
  exact before

theorem ordered_ofComments
    {comments : List Comment}
    (increasing : comments.Pairwise fun early late => early.position < late.position) :
    (ofComments comments).Ordered where
  functional := isFunctional_ofComments comments
  latestFirst :=
    List.pairwise_reverse.mp
      ((stated?_increasing increasing).sublist (entries_ofComments_sublist comments))

/-- The directive on a line is the one with the largest place. -/
theorem find?_ofComments_eq_some_iff
    {comments : List Comment}
    (increasing : comments.Pairwise fun early late => early.position < late.position)
    {line : Int}
    {entry : Entry} :
    (ofComments comments).find? line = some entry ↔
      (line, entry) ∈ comments.filterMap Comment.stated? ∧
        ∀ other ∈ comments.filterMap Comment.stated?, other.1 = line ->
          other.2.position ≤ entry.position := by
  rw [find?_ofComments, Option.map_eq_some_iff]
  simp only [find?_reverse_eq_some_iff (stated?_increasing increasing), beq_iff_eq]
  constructor
  · rintro ⟨⟨_, _⟩, ⟨member, rfl, last⟩, rfl⟩
    exact ⟨member, last⟩
  · rintro ⟨member, last⟩
    exact ⟨(line, entry), ⟨member, rfl, last⟩, rfl⟩

/-- Before anything was asked, no directive was of use. -/
theorem used_of_mem_ofComments
    {comments : List Comment}
    {line : Int}
    {entry : Entry}
    (found : (ofComments comments).find? line = some entry) :
    entry.used = [] := by
  have member := (find?_eq_some_iff (isFunctional_ofComments comments)).mp found
  have among := (entries_ofComments_sublist comments).mem (List.mem_reverse.mpr member)
  obtain ⟨comment, -, stated⟩ := List.mem_filterMap.mp among
  obtain ⟨listed, -, equal⟩ := Option.map_eq_some_iff.mp stated
  obtain ⟨-, rfl⟩ := Prod.mk.inj equal
  rfl

/-! ## Kinds that were of use -/

theorem suppressesAt_eq_of_find?
    {ledger : Ledger}
    {line : Int}
    {entry : Entry}
    (found : ledger.find? line = some entry)
    (kind : String) :
    ledger.suppressesAt line kind = entry.suppresses kind := by
  rw [suppressesAt, found, Option.any_some]

theorem suppressesAt_eq_false_iff
    {ledger : Ledger}
    {line : Int}
    {kind : String} :
    ledger.suppressesAt line kind = false ↔
      ∀ entry, ledger.find? line = some entry -> ¬ entry.Matches kind := by
  rw [suppressesAt, Option.any_eq_false]
  simp only [← Entry.suppresses_iff, Bool.not_eq_true]

theorem mem_creditedKinds_iff
    {ledger : Ledger}
    {queries : List Query}
    {line : Int}
    {kind : String} :
    kind ∈ ledger.creditedKinds queries line ↔
      ledger.suppressesAt line kind = true ∧
        ((line, kind) ∈ queries ∨
          (line + 1, kind) ∈ queries ∧ ledger.suppressesAt (line + 1) kind = false) := by
  have unfolded : kind ∈ ledger.creditedKinds queries line ↔
      ∃ asked, (asked, kind) ∈ queries ∧ ledger.credited? asked kind = some line := by
    simp [creditedKinds]
  simp only [unfolded, credited?_eq_some_iff]
  constructor
  · rintro ⟨asked, member, speaks, rfl | ⟨rfl, notThere⟩⟩
    · exact ⟨speaks, Or.inl member⟩
    · exact ⟨speaks, Or.inr ⟨member, notThere⟩⟩
  · rintro ⟨speaks, member | ⟨member, notThere⟩⟩
    · exact ⟨line, member, speaks, Or.inl rfl⟩
    · exact ⟨line + 1, member, speaks, Or.inr ⟨rfl, notThere⟩⟩

/-- After some findings, a directive has the same place and the same kinds.  What it was
of use for is told by the findings on its line and on the next one. -/
theorem find?_asked
    {ledger : Ledger}
    {line : Int}
    {entry : Entry}
    (found : ledger.find? line = some entry)
    (unused : entry.used = [])
    (queries : List Query) :
    ∃ used, (ledger.asked queries).find? line = some { entry with used := used } ∧
      ∀ kind, kind ∈ used ↔
        entry.Matches kind ∧
          ((line, kind) ∈ queries ∨
            (line + 1, kind) ∈ queries ∧
              ∀ next, ledger.find? (line + 1) = some next -> ¬ next.Matches kind) := by
  let credited := entry.useAll (ledger.creditedKinds queries line)
  have same : { entry with used := credited.used } = credited := by
    rw [← entry.useAll_position (ledger.creditedKinds queries line),
      ← entry.useAll_kinds (ledger.creditedKinds queries line)]
  refine ⟨credited.used, ?_, ?_⟩
  · rw [asked_eq_credit, find?_credit, found, same]
    rfl
  · intro kind
    have remembered : kind ∈ credited.used ↔ kind ∈ ledger.creditedKinds queries line := by
      rw [Entry.mem_used_useAll, unused]
      simp
    rw [remembered, mem_creditedKinds_iff, suppressesAt_eq_of_find? found,
      Entry.suppresses_iff, suppressesAt_eq_false_iff]

/-! ## Directives of no use -/

theorem Ordered.asked
    {ledger : Ledger}
    (ordered : ledger.Ordered)
    (queries : List Query) :
    (ledger.asked queries).Ordered := by
  rw [asked_eq_credit]
  refine ⟨?_, ?_⟩
  · rw [IsFunctional, credit_entries, List.map_map]
    exact ordered.functional
  · rw [credit_entries, List.pairwise_map]
    simpa using ordered.latestFirst

/-- What is reported about directives, in the order in which they are given. -/
def idleAmong (directives : List (Int × Entry)) : List Idle :=
  (directives.filter fun other => other.2.isIdle).map fun other =>
    ⟨other.2.position, other.2.idleKinds⟩

theorem idle_perm_idleAmong (ledger : Ledger) :
    ledger.idle.Perm (idleAmong ledger.entries) :=
  List.mergeSort_perm _ _

/-- Directives of no use are reported in the order of their places, each once. -/
theorem Ordered.idle_increasing
    {ledger : Ledger}
    (ordered : ledger.Ordered) :
    ledger.idle.Pairwise fun early late => early.position < late.position := by
  have increasing : ledger.entries.reverse.Pairwise fun early late =>
      early.2.position < late.2.position :=
    List.pairwise_reverse.mpr ordered.latestFirst
  rw [idle_eq_of_perm (List.reverse_perm ledger.entries).symm increasing, List.pairwise_map]
  exact increasing.filter _

theorem Ordered.mem_idle_iff
    {ledger : Ledger}
    (ordered : ledger.Ordered)
    {idle : Idle} :
    idle ∈ ledger.idle ↔ ∃ line entry, ledger.find? line = some entry ∧ entry.Reports idle := by
  rw [ledger.idle_perm_idleAmong.mem_iff, idleAmong, List.mem_map]
  simp only [find?_eq_some_iff ordered.functional, Entry.reports_iff, List.mem_filter]
  constructor
  · rintro ⟨⟨line, entry⟩, ⟨member, isIdle⟩, rfl⟩
    exact ⟨line, entry, member, isIdle, rfl⟩
  · rintro ⟨line, entry, member, isIdle, rfl⟩
    exact ⟨(line, entry), ⟨member, isIdle⟩, rfl⟩

/-- Going through the directives in whatever order and sorting in whatever way gives the
same report. -/
theorem Ordered.eq_idle_of_sorted
    {ledger : Ledger}
    (ordered : ledger.Ordered)
    {enumeration : List (Int × Entry)}
    {sorted : List Idle}
    (same : enumeration.Perm ledger.entries)
    (permuted : sorted.Perm (idleAmong enumeration))
    (increasing : sorted.Pairwise fun early late => early.position ≤ late.position) :
    sorted = ledger.idle := by
  have toIdle : sorted.Perm ledger.idle :=
    permuted.trans (((same.filter _).map _).trans ledger.idle_perm_idleAmong.symm)
  exact eq_of_perm_of_increasing toIdle increasing ordered.idle_increasing

/-- A directive that lists an unknown kind is reported with it. -/
theorem Ordered.reports_unknown
    {ledger : Ledger}
    (ordered : ledger.Ordered)
    {line : Int}
    {entry : Entry}
    {kind : String}
    (found : ledger.find? line = some entry)
    (listed : kind ∈ entry.kinds)
    (unknown : kind ∉ ["default", "copy", "parameterized"]) :
    ∃ idle ∈ ledger.idle, idle.position = entry.position ∧ kind ∈ idle.kinds := by
  have idle : kind ∈ entry.idleKinds := by
    rw [Entry.idleKinds_eq]
    exact List.mem_filter.mpr ⟨listed, by simp [unknown]⟩
  refine ⟨⟨entry.position, entry.idleKinds⟩, ?_, rfl, idle⟩
  refine ordered.mem_idle_iff.mpr ⟨line, entry, found, rfl, Or.inr ⟨?_, entry.idleKinds_eq⟩⟩
  exact List.ne_nil_of_mem idle

end Ledger
end Directive

/-! ## Ledgers of files -/

namespace Source.File

open Directive (Entry Idle Ledger)

theorem Sound.ordered_directives
    {file : File}
    (sound : file.Sound) :
    file.directives.Ordered := by
  apply Ledger.ordered_ofComments
  rw [List.pairwise_map]
  exact sound.ordered.imp fun ordered => ordered.1

/-- The use of the directives of a file is exact.  After any findings, each directive has
kept its line, its place and its kinds, and was of use for a kind if and only if a finding
of that kind was on its line and it speaks about the kind, or one was on the next line,
it speaks about the kind and no directive on that line does.  Then exactly the directives
that have a part of no use are reported, in the order of their places, whatever the order
in which they are gone through and the way of sorting; and an unknown kind is always
reported. -/
theorem directive_usage_is_exact
    {name text : String}
    {base : Nat}
    {file : File}
    (read : ofText? name base text = some file)
    (queries : List Ledger.Query) :
    let ledger := file.directives
    let after := ledger.asked queries
    (∀ line, ledger.find? line = none -> after.find? line = none) ∧
      (∀ {line entry}, ledger.find? line = some entry ->
        ∃ used, after.find? line = some { entry with used := used } ∧
          ∀ kind, kind ∈ used ↔
            entry.Matches kind ∧
              ((line, kind) ∈ queries ∨
                (line + 1, kind) ∈ queries ∧
                  ∀ next, ledger.find? (line + 1) = some next -> ¬ next.Matches kind)) ∧
      after.idle.Pairwise (fun early late => early.position < late.position) ∧
      (∀ idle, idle ∈ after.idle ↔
        ∃ line entry, after.find? line = some entry ∧ entry.Reports idle) ∧
      (∀ {enumeration sorted}, enumeration.Perm after.entries ->
        sorted.Perm (Ledger.idleAmong enumeration) ->
        sorted.Pairwise (fun early late => early.position ≤ late.position) ->
        sorted = after.idle) ∧
      ∀ {line entry kind}, after.find? line = some entry -> kind ∈ entry.kinds ->
        kind ∉ ["default", "copy", "parameterized"] ->
        ∃ idle ∈ after.idle, idle.position = entry.position ∧ kind ∈ idle.kinds := by
  intro ledger after
  have ordered : after.Ordered := (sound_of_ofText? read).ordered_directives.asked queries
  refine ⟨?_, ?_, ordered.idle_increasing, fun idle => ordered.mem_idle_iff,
    ordered.eq_idle_of_sorted, ordered.reports_unknown⟩
  · intro line absent
    simp only [after, Ledger.asked_eq_credit, Ledger.find?_credit, absent, Option.map_none]
  · intro line entry found
    exact Ledger.find?_asked found (Ledger.used_of_mem_ofComments found) queries

/-- A file with a directive for two kinds, one of them unknown, and a directive for all
kinds on the next line. -/
def sampleSource : String :=
  "package p\n//implicitctor:ignore copy,move\nvar x = 1 //implicitctor:ignore\n"

/-- Findings on the lines of the two directives. -/
def sampleQueries : List Ledger.Query :=
  [(3, "move"), (2, "copy"), (2, "default")]

/-- The first directive has no part in the finding on the next line, since the directive
there speaks about it. -/
theorem directive_usage_is_exact_sample :
    ∃ file, ofText? "p" 1 sampleSource = some file ∧
      ∃ used, (file.directives.asked sampleQueries).find? 2 =
          some ⟨11, ["copy", "move"], used⟩ ∧
        (∀ kind, kind ∈ used ↔ kind = "copy") ∧
        ∃ idle ∈ (file.directives.asked sampleQueries).idle,
          idle.position = 11 ∧ "move" ∈ idle.kinds := by
  have evaluated : (ofText? "p" 1 sampleSource).any (fun file =>
      file.directives.find? 2 = some ⟨11, ["copy", "move"], []⟩ &&
        (file.directives.find? 3).any fun entry => entry.kinds = []) = true := by
    decide +kernel
  simp only [Option.any_eq_true, Bool.and_eq_true, decide_eq_true_eq] at evaluated
  obtain ⟨file, read, first, next, second, all⟩ := evaluated
  obtain ⟨-, exact, -, -, -, unknown⟩ := directive_usage_is_exact read sampleQueries
  obtain ⟨used, found, kinds⟩ := exact first
  refine ⟨file, read, used, found, ?_, unknown found (by simp) (by decide)⟩
  intro kind
  rw [kinds]
  constructor
  · rintro ⟨speaks, onLine | ⟨-, unspoken⟩⟩
    · have asked : kind = "copy" ∨ kind = "default" := by simpa [sampleQueries] using onLine
      have listed : kind = "copy" ∨ kind = "move" := by simpa [Entry.Matches] using speaks
      rcases asked with rfl | rfl
      · rfl
      · simp at listed
    · exact absurd (Or.inl all) (unspoken next second)
  · rintro rfl
    exact ⟨Or.inr (by decide), Or.inl (by decide)⟩

end Source.File
end CtorScan
