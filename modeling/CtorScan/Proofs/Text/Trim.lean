import CtorScan.Text.Search
import Mathlib.Data.List.TakeWhile

/-!
# What trimming leaves

Trimming removes blanks at the ends of a text and nothing else: a text that starts and
ends with characters that are not blank is what trimming leaves of it, whatever blanks are
put around it.
-/

namespace CtorScan
namespace Text

/-- No character between the space and the end of the first 128 codes is blank. -/
theorem isBlank_eq_false
    {c : Char}
    (above : 0x20 < c.toNat)
    (below : c.toNat < 0x80) :
    isBlank c = false := by
  simp only [isBlank, Bool.or_eq_false_iff, Bool.and_eq_false_iff, decide_eq_false_iff_not,
    beq_eq_false_iff_ne]
  omega

/-- The text holds nothing but blanks. -/
def Blank (text : List Char) : Prop :=
  ∀ c ∈ text, isBlank c = true

/-- The text starts and ends with characters that are not blank. -/
structure Solid (text : List Char) : Prop where
  /-- The first character is not blank. -/
  starts : ∃ c rest, text = c :: rest ∧ isBlank c = false
  /-- The last character is not blank. -/
  ends : ∃ rest c, text = rest ++ [c] ∧ isBlank c = false

theorem solid_of_visible
    {text : List Char}
    (nonempty : text ≠ [])
    (visible : ∀ c ∈ text, isBlank c = false) :
    Solid text where
  starts := by
    obtain ⟨c, rest, rfl⟩ := List.exists_cons_of_ne_nil nonempty
    exact ⟨c, rest, rfl, visible c List.mem_cons_self⟩
  ends := by
    refine ⟨text.dropLast, text.getLast nonempty, ?_, visible _ (List.getLast_mem nonempty)⟩
    rw [List.dropLast_concat_getLast]

/-- What stands between two such texts may be anything. -/
theorem Solid.append
    {first second : List Char}
    (solidFirst : Solid first)
    (middle : List Char)
    (solidSecond : Solid second) :
    Solid (first ++ (middle ++ second)) where
  starts := by
    obtain ⟨c, rest, rfl, visible⟩ := solidFirst.starts
    exact ⟨c, rest ++ (middle ++ second), rfl, visible⟩
  ends := by
    obtain ⟨rest, c, rfl, visible⟩ := solidSecond.ends
    exact ⟨first ++ (middle ++ rest), c, by simp, visible⟩

theorem trimStart_append_of_blank
    {blanks : List Char}
    (blank : Blank blanks)
    (text : List Char) :
    trimStart (blanks ++ text) = trimStart text := by
  rw [trimStart, List.dropWhile_append, List.dropWhile_eq_nil_iff.mpr blank]
  rfl

theorem trimStart_cons
    {c : Char}
    (visible : isBlank c = false)
    (rest : List Char) :
    trimStart (c :: rest) = c :: rest := by
  simp [trimStart, visible]

theorem trimEnd_eq_nil_of_blank
    {blanks : List Char}
    (blank : Blank blanks) :
    trimEnd blanks = [] := by
  rw [trimEnd, List.reverse_eq_nil_iff, List.dropWhile_eq_nil_iff]
  intro c member
  exact blank c (List.mem_reverse.mp member)

/-- What is trimmed at the end is after the last character that is not blank. -/
theorem trimEnd_append_cons
    {c : Char}
    (visible : isBlank c = false)
    (text rest : List Char) :
    trimEnd (text ++ c :: rest) = text ++ c :: trimEnd rest := by
  have turned : (text ++ c :: rest).reverse = rest.reverse ++ c :: text.reverse := by simp
  rw [trimEnd, trimEnd, turned, List.dropWhile_append]
  split
  · rename_i nothing
    rw [List.isEmpty_iff.mp nothing]
    simp [visible]
  · simp

theorem trimEnd_append_of_solid
    (text : List Char)
    {rest : List Char}
    (solid : Solid rest) :
    trimEnd (text ++ rest) = text ++ rest := by
  obtain ⟨init, last, rfl, visible⟩ := solid.ends
  rw [← List.append_assoc, trimEnd_append_cons visible]
  rfl

theorem trim_cons
    {c : Char}
    (visible : isBlank c = false)
    (rest : List Char) :
    trim (c :: rest) = c :: trimEnd rest := by
  rw [trim, trimStart_cons visible]
  exact trimEnd_append_cons visible [] rest

theorem trim_append_of_blank
    {blanks : List Char}
    (blank : Blank blanks)
    (text : List Char) :
    trim (blanks ++ text) = trim text := by
  rw [trim, trim, trimStart_append_of_blank blank]

/-- Only the blanks around a text are removed. -/
theorem trim_surrounded
    {early text late : List Char}
    (blankEarly : Blank early)
    (solid : Solid text)
    (blankLate : Blank late) :
    trim (early ++ (text ++ late)) = text := by
  obtain ⟨first, tail, starts, visibleFirst⟩ := solid.starts
  obtain ⟨init, last, ends, visibleLast⟩ := solid.ends
  have kept : trimStart (text ++ late) = text ++ late := by
    rw [starts]
    exact trimStart_cons visibleFirst (tail ++ late)
  rw [trim_append_of_blank blankEarly, trim, kept, ends, List.append_assoc,
    List.singleton_append, trimEnd_append_cons visibleLast, trimEnd_eq_nil_of_blank blankLate]

theorem trim_of_solid
    {text : List Char}
    (solid : Solid text) :
    trim text = text := by
  have nothing : Blank [] := by simp [Blank]
  simpa using trim_surrounded nothing solid nothing

theorem trim_eq_nil_of_blank
    {blanks : List Char}
    (blank : Blank blanks) :
    trim blanks = [] := by
  have nothing : trimStart blanks = [] := List.dropWhile_eq_nil_iff.mpr blank
  rw [trim, nothing]
  rfl

end Text
end CtorScan
