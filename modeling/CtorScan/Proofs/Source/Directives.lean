import CtorScan.Proofs.Directive.Ledger
import CtorScan.Proofs.Source.File

/-!
# Directives of a file without redirections

Without redirections every directive of a file has a line of its own.  So the ledger of
the file holds each of them, and a finding on a line is credited to the one directive on
that line that speaks about it or, failing that, to the one on the line before.
-/

namespace CtorScan
namespace Source

open Directive (Entry)

/-- A directive of a file. -/
structure Stated where
  /-- The line of the comment. -/
  line : Nat
  /-- The place of the comment. -/
  place : Nat
  /-- The kinds that the comment lists; none means all. -/
  kinds : List String
deriving DecidableEq

namespace Stated

/-- The directive lists no kinds, or this one among others. -/
def covers
    (stated : Stated)
    (kind : String) : Bool :=
  stated.kinds.isEmpty || stated.kinds.contains kind

/-- The directive as it is entered into a ledger. -/
def entered (stated : Stated) : Int × Entry :=
  (stated.line, ⟨stated.place, stated.kinds, []⟩)

end Stated

namespace File

/-- The directives of the file, in the order of its comments. -/
def stated (file : File) : List Stated :=
  file.comments.filterMap fun comment =>
    (Directive.ofComment? comment.text).map fun listed =>
      ⟨file.lineOf comment.place, comment.place, Directive.kinds listed⟩

/-- Directives further down have larger places and are on later lines. -/
theorem Sound.stated_increasing
    {file : File}
    (sound : file.Sound) :
    file.stated.Pairwise fun early late => early.place < late.place ∧ early.line < late.line := by
  rw [stated, List.pairwise_filterMap]
  apply sound.ordered.imp
  intro early late ordered first firstFound second secondFound
  obtain ⟨listed, directive, rfl⟩ := Option.map_eq_some_iff.mp firstFound
  obtain ⟨-, -, rfl⟩ := Option.map_eq_some_iff.mp secondFound
  exact ⟨ordered.1, ordered.2 (Comment.isLine_of_ofComment? directive)⟩

theorem Sound.lines_nodup
    {file : File}
    (sound : file.Sound) :
    (file.stated.map Stated.line).Nodup := by
  rw [List.Nodup, List.pairwise_map]
  exact sound.stated_increasing.imp fun ordered => Nat.ne_of_lt ordered.2

theorem Sound.line_pos_of_mem_stated
    {file : File}
    (sound : file.Sound)
    {stated : Stated}
    (member : stated ∈ file.stated) :
    0 < stated.line := by
  obtain ⟨comment, -, found⟩ := List.mem_filterMap.mp member
  obtain ⟨-, -, rfl⟩ := Option.map_eq_some_iff.mp found
  exact sound.counted comment.place

theorem Sound.inside_of_mem_stated
    {file : File}
    (sound : file.Sound)
    {stated : Stated}
    (member : stated ∈ file.stated) :
    file.chart.contains stated.place = true := by
  obtain ⟨comment, among, found⟩ := List.mem_filterMap.mp member
  obtain ⟨-, -, rfl⟩ := Option.map_eq_some_iff.mp found
  exact sound.contains_of_mem among

/-! ## The ledger of the file -/

theorem filterMap_stated?
    {file : File}
    (plain : file.chart.redirections = []) :
    (file.comments.map file.entry).filterMap Directive.Ledger.Comment.stated? =
      file.stated.map Stated.entered := by
  rw [List.filterMap_map, stated, List.map_filterMap]
  apply List.filterMap_congr
  intro comment _
  have line : (file.chart.positionOf comment.place).line = file.lineOf comment.place := by
    rw [Chart.positionOf_eq_plainPosition plain, Chart.plainPosition_line, lineOf]
  simp [Directive.Ledger.Comment.stated?, entry, line, Stated.entered, Function.comp_def]

theorem Sound.entered_nodup
    {file : File}
    (sound : file.Sound) :
    ((file.stated.map Stated.entered).map Prod.fst).Nodup := by
  rw [List.map_map, List.Nodup, List.pairwise_map]
  apply sound.stated_increasing.imp
  intro early late ordered same
  exact Nat.ne_of_lt ordered.2 (Int.ofNat.inj same)

/-- Every directive of the file is in its ledger. -/
theorem Sound.entries_directives
    {file : File}
    (sound : file.Sound)
    (plain : file.chart.redirections = []) :
    file.directives.entries = (file.stated.map Stated.entered).reverse := by
  have listed := filterMap_stated? plain
  rw [directives, Directive.Ledger.entries_ofComments ?_, listed]
  rw [listed]
  exact sound.entered_nodup

theorem Sound.directives_isFunctional
    {file : File}
    (sound : file.Sound)
    (plain : file.chart.redirections = []) :
    file.directives.IsFunctional := by
  rw [Directive.Ledger.IsFunctional, sound.entries_directives plain, List.map_reverse,
    List.nodup_reverse]
  exact sound.entered_nodup

theorem Sound.suppressesAt_iff
    {file : File}
    (sound : file.Sound)
    (plain : file.chart.redirections = [])
    {line : Int}
    {kind : String} :
    file.directives.suppressesAt line kind = true ↔
      ∃ stated ∈ file.stated, (stated.line : Int) = line ∧ stated.covers kind = true := by
  rw [Directive.Ledger.suppressesAt_iff (sound.directives_isFunctional plain),
    sound.entries_directives plain]
  constructor
  · rintro ⟨entry, member, suppresses⟩
    obtain ⟨stated, among, equal⟩ := List.mem_map.mp (List.mem_reverse.mp member)
    obtain ⟨rfl, rfl⟩ := Prod.mk.inj equal
    exact ⟨stated, among, rfl, suppresses⟩
  · rintro ⟨stated, among, rfl, covers⟩
    exact ⟨_, List.mem_reverse.mpr (List.mem_map.mpr ⟨stated, among, rfl⟩), covers⟩

/-! ## Credit for a finding -/

/-- A directive on the line speaks about the kind. -/
def coversOn
    (file : File)
    (line : Nat)
    (kind : String) : Bool :=
  file.stated.any fun stated => stated.line == line && stated.covers kind

/-- A directive on the line or on the line before speaks about the kind. -/
def coversNear
    (file : File)
    (line : Nat)
    (kind : String) : Bool :=
  file.stated.any fun stated =>
    (stated.line == line || stated.line + 1 == line) && stated.covers kind

theorem Sound.suppressesAt_eq
    {file : File}
    (sound : file.Sound)
    (plain : file.chart.redirections = [])
    (line : Nat)
    (kind : String) :
    file.directives.suppressesAt line kind = file.coversOn line kind := by
  rw [Bool.eq_iff_iff, sound.suppressesAt_iff plain]
  simp only [coversOn, Int.ofNat_inj, List.any_eq_true, Bool.and_eq_true, beq_iff_eq]

theorem Sound.suppressesAt_before_iff
    {file : File}
    (sound : file.Sound)
    (plain : file.chart.redirections = [])
    {line : Nat}
    {kind : String} :
    file.directives.suppressesAt ((line : Int) - 1) kind = true ↔
      ∃ stated ∈ file.stated, stated.line + 1 = line ∧ stated.covers kind = true := by
  rw [sound.suppressesAt_iff plain]
  have shifted : ∀ stated : Stated, (stated.line : Int) = (line : Int) - 1 ↔
      stated.line + 1 = line := by omega
  simp only [shifted]

/-- Two directives on one line are the same. -/
theorem Sound.stated_eq_of_line_eq
    {file : File}
    (sound : file.Sound)
    {first second : Stated}
    (firstMember : first ∈ file.stated)
    (secondMember : second ∈ file.stated)
    (sameLine : first.line = second.line) :
    first = second :=
  List.inj_on_of_nodup_map sound.lines_nodup firstMember secondMember sameLine

/-- A finding is credited to some directive if one on its line or on the line before
speaks about it. -/
theorem Sound.credited?_isSome
    {file : File}
    (sound : file.Sound)
    (plain : file.chart.redirections = [])
    (line : Nat)
    (kind : String) :
    (file.directives.credited? line kind).isSome = file.coversNear line kind := by
  have near : file.coversNear line kind = true ↔
      file.coversOn line kind = true ∨
        file.directives.suppressesAt ((line : Int) - 1) kind = true := by
    rw [sound.suppressesAt_before_iff plain]
    simp only [coversNear, coversOn, List.any_eq_true, Bool.and_eq_true, Bool.or_eq_true,
      beq_iff_eq, or_and_right, and_or_left, exists_or]
  rw [Bool.eq_iff_iff, near, Directive.Ledger.credited?, sound.suppressesAt_eq plain]
  split
  · simp [*]
  · split <;> simp [*]

/-- No directive is near to what has no line. -/
theorem Sound.coversNear_zero
    {file : File}
    (sound : file.Sound)
    (kind : String) :
    file.coversNear 0 kind = false := by
  rw [coversNear, List.any_eq_false]
  intro stated member
  have line := sound.line_pos_of_mem_stated member
  simp [Nat.ne_of_gt line]

/-- A finding is credited to a directive that speaks about it: one on its line, or one
on the line before if none on its line does. -/
theorem Sound.credited?_eq_some_iff
    {file : File}
    (sound : file.Sound)
    (plain : file.chart.redirections = [])
    {stated : Stated}
    (member : stated ∈ file.stated)
    (line : Nat)
    (kind : String) :
    file.directives.credited? line kind = some (stated.line : Int) ↔
      stated.covers kind = true ∧
        (stated.line = line ∨ stated.line + 1 = line ∧ file.coversOn line kind = false) := by
  have onIt : file.coversOn stated.line kind = true ↔ stated.covers kind = true := by
    simp only [coversOn, List.any_eq_true, Bool.and_eq_true, beq_iff_eq]
    constructor
    · -- a directive on the same line as this one is this one
      rintro ⟨other, among, sameLine, covers⟩
      rwa [← sound.stated_eq_of_line_eq among member sameLine]
    · intro covers
      exact ⟨stated, member, rfl, covers⟩
  have next : file.directives.suppressesAt ((stated.line : Int) + 1) kind =
      file.coversOn (stated.line + 1) kind := sound.suppressesAt_eq plain (stated.line + 1) kind
  rw [Directive.Ledger.credited?_eq_some_iff, sound.suppressesAt_eq plain, onIt, next]
  have here : (line : Int) = stated.line ↔ stated.line = line := by omega
  have below : (line : Int) = stated.line + 1 ↔ stated.line + 1 = line := by omega
  rw [here, below]
  refine and_congr_right fun _ => or_congr_right (and_congr_right ?_)
  rintro rfl
  rfl

end File
end Source
end CtorScan
