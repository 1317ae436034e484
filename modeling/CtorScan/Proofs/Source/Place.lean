import CtorScan.Source.Place
import Mathlib.Data.List.TakeWhile
import Mathlib.Data.String.Basic

/-!
# Lines of places

The lines of a text start in increasing order, at its beginning and after each of
its line feeds that something follows.  So a line feed between two places of a file
puts them on different lines.
-/

namespace CtorScan
namespace Source

open String (utf8Len)

/-! ## Where lines start -/

/-- The offset is right after a line feed of the text. -/
def FollowsFeed
    (text : List Char)
    (offset : Nat) : Prop :=
  ∃ before after, text = before ++ '\n' :: after ∧ offset = utf8Len before + 1

theorem lt_of_mem_lineStartsAfter
    {size offset start : Nat}
    {text : List Char}
    (member : start ∈ lineStartsAfter size offset text) :
    offset < start := by
  induction text generalizing offset with
  | nil => simp [lineStartsAfter] at member
  | cons c rest inductionHypothesis =>
      have wide := c.utf8Size_pos
      simp only [lineStartsAfter] at member
      split at member
      · rcases List.mem_cons.mp member with rfl | later
        · omega
        · have after := inductionHypothesis later
          omega
      · have after := inductionHypothesis member
        omega

theorem lineStartsAfter_increasing
    (size offset : Nat)
    (text : List Char) :
    (lineStartsAfter size offset text).Pairwise (· < ·) := by
  induction text generalizing offset with
  | nil => exact List.Pairwise.nil
  | cons c rest inductionHypothesis =>
      simp only [lineStartsAfter]
      split
      · exact List.Pairwise.cons (fun _ later => lt_of_mem_lineStartsAfter later)
          (inductionHypothesis _)
      · exact inductionHypothesis _

/-- Lines start in increasing order. -/
theorem lineStarts_increasing (text : String) :
    (lineStarts text).Pairwise (· < ·) :=
  List.Pairwise.cons (fun _ later => lt_of_mem_lineStartsAfter later)
    (lineStartsAfter_increasing _ _ _)

theorem mem_lineStartsAfter
    {size : Nat}
    (offset : Nat)
    (before after : List Char)
    (inside : offset + utf8Len before + 1 < size) :
    offset + utf8Len before + 1 ∈ lineStartsAfter size offset (before ++ '\n' :: after) := by
  induction before generalizing offset with
  | nil =>
      have narrow : '\n'.utf8Size = 1 := by decide
      simp only [List.nil_append, lineStartsAfter, narrow]
      rw [if_pos ⟨trivial, by simpa using inside⟩]
      simp
  | cons c rest inductionHypothesis =>
      rw [String.utf8Len_cons] at inside
      have later := inductionHypothesis (offset + c.utf8Size) (by omega)
      rw [String.utf8Len_cons, show offset + (utf8Len rest + c.utf8Size) + 1 =
        offset + c.utf8Size + utf8Len rest + 1 by omega]
      simp only [List.cons_append, lineStartsAfter]
      split
      · exact List.mem_cons_of_mem _ later
      · exact later

/-- A line starts after each line feed that something follows. -/
theorem mem_lineStarts_of_followsFeed
    {text : String}
    {offset : Nat}
    (follows : FollowsFeed text.toList offset)
    (inside : offset < text.utf8ByteSize) :
    offset ∈ lineStarts text := by
  obtain ⟨before, after, cut, rfl⟩ := follows
  rw [lineStarts, cut]
  apply List.mem_cons_of_mem
  simpa using mem_lineStartsAfter 0 before after (by simpa using inside)

/-! ## The line of an offset -/

namespace Chart

theorem takeWhile_eq_filter
    {starts : List Nat}
    (increasing : starts.Pairwise (· < ·))
    (offset : Nat) :
    starts.takeWhile (· ≤ offset) = starts.filter (· ≤ offset) := by
  induction starts with
  | nil => rfl
  | cons start rest inductionHypothesis =>
      obtain ⟨least, others⟩ := List.pairwise_cons.mp increasing
      by_cases reached : start ≤ offset
      · simp [reached, inductionHypothesis others]
      · have none : rest.filter (· ≤ offset) = [] := by
          rw [List.filter_eq_nil_iff]
          intro later member
          have after := least later member
          simp only [decide_eq_true_eq]
          omega
        simp [reached, none]

/-- The line of an offset is the number of lines that have started. -/
theorem lineAt_eq_countP
    {chart : Chart}
    (increasing : chart.lines.Pairwise (· < ·))
    (offset : Nat) :
    (chart.lineAt offset).1 = chart.lines.countP (· ≤ offset) := by
  rw [lineAt, takeWhile_eq_filter increasing, List.countP_eq_length_filter]

/-- A line that starts between two offsets puts them on different lines. -/
theorem lineAt_lt_of_start_between
    {chart : Chart}
    (increasing : chart.lines.Pairwise (· < ·))
    {early start late : Nat}
    (starts : start ∈ chart.lines)
    (before : early < start)
    (reached : start ≤ late) :
    (chart.lineAt early).1 < (chart.lineAt late).1 := by
  rw [lineAt_eq_countP increasing, lineAt_eq_countP increasing,
    List.countP_eq_length_filter, List.countP_eq_length_filter]
  have narrower : chart.lines.filter (· ≤ early) =
      (chart.lines.filter (· ≤ late)).filter (· ≤ early) := by
    rw [List.filter_filter]
    apply List.filter_congr
    intro other _
    simp only [← Bool.decide_and, decide_eq_decide]
    omega
  rw [narrower]
  apply List.length_filter_lt_length_iff_exists.mpr
  refine ⟨start, List.mem_filter.mpr ⟨starts, by simpa using reached⟩, ?_⟩
  simpa using before

/-! ## Positions without redirections -/

/-- Without redirections a place is reported in its own file. -/
theorem positionOf_eq_plainPosition
    {chart : Chart}
    (plain : chart.redirections = [])
    (place : Nat) :
    chart.positionOf place = chart.plainPosition (place - chart.base) := by
  simp [positionOf, position, redirectionAt?, plain]

@[simp] theorem plainPosition_file
    (chart : Chart)
    (offset : Nat) :
    (chart.plainPosition offset).file = chart.name := rfl

@[simp] theorem plainPosition_line
    (chart : Chart)
    (offset : Nat) :
    (chart.plainPosition offset).line = (chart.lineAt offset).1 := rfl

end Chart
end Source
end CtorScan
