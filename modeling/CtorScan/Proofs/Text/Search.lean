import CtorScan.Text.Search
import Mathlib.Data.List.Infix

/-!
# Where patterns occur

Searching is exact: a pattern is found in a text if and only if the text is
something, then the pattern, then something, however the partial matches before
it overlap.  A text is cut before the first place where the pattern occurs, and
split at each place where the separator occurs.
-/

namespace CtorScan
namespace Text

/-- Searching for a pattern decides whether it is an infix of the text. -/
theorem occursIn_iff_isInfix
    (pattern text : List Char) :
    occursIn pattern text = true ↔ pattern <:+: text := by
  induction text with
  | nil => simp [List.infix_nil]
  | cons c rest inductionHypothesis =>
      rw [occursIn_cons, Bool.or_eq_true, inductionHypothesis,
        List.isPrefixOf_iff_prefix, List.infix_cons_iff]

/-- A pattern that occurs in a text cuts it in three. -/
theorem occursIn_toList_iff
    (pattern text : String) :
    occursIn pattern.toList text.toList = true ↔
      ∃ before after, text = before ++ pattern ++ after := by
  rw [occursIn_iff_isInfix]
  constructor
  · rintro ⟨before, after, cut⟩
    refine ⟨String.ofList before, String.ofList after, ?_⟩
    apply String.toList_injective
    simpa using cut.symm
  · rintro ⟨before, after, rfl⟩
    exact ⟨before.toList, after.toList, by simp⟩

/-! ## Cutting -/

theorem afterStart?_append (pattern rest : List Char) :
    afterStart? pattern (pattern ++ rest) = some rest := by
  simp [afterStart?]

theorem afterStart?_eq_some_iff {pattern text rest : List Char} :
    afterStart? pattern text = some rest ↔ text = pattern ++ rest := by
  constructor
  · intro found
    simp only [afterStart?, List.isPrefixOf_iff_prefix, Option.ite_none_right_eq_some,
      Option.some.injEq] at found
    obtain ⟨⟨after, rfl⟩, rfl⟩ := found
    simp
  · rintro rfl
    exact afterStart?_append pattern rest

theorem before_self_append
    {pattern : List Char}
    (nonempty : pattern ≠ [])
    (rest : List Char) :
    before pattern (pattern ++ rest) = [] := by
  obtain ⟨c, tail, rfl⟩ := List.exists_cons_of_ne_nil nonempty
  rw [List.cons_append, before, if_pos]
  rw [← List.cons_append]
  exact List.isPrefixOf_iff_prefix.mpr (List.prefix_append _ _)

theorem before_cons_of_not_prefix
    {pattern rest : List Char}
    {c : Char}
    (unmatched : ¬ pattern <+: c :: rest) :
    before pattern (c :: rest) = c :: before pattern rest := by
  rw [before, if_neg]
  rwa [List.isPrefixOf_iff_prefix]

/-- No pattern occurs where its first character does not. -/
theorem before_append_of_notMem
    {c : Char}
    {tail text : List Char}
    (absent : c ∉ text)
    (rest : List Char) :
    before (c :: tail) (text ++ rest) = text ++ before (c :: tail) rest := by
  induction text with
  | nil => rfl
  | cons d text inductionHypothesis =>
      have different := List.ne_of_not_mem_cons absent
      have later := List.not_mem_of_not_mem_cons absent
      rw [List.cons_append, before_cons_of_not_prefix, inductionHypothesis later, List.cons_append]
      intro matched
      exact different (List.cons_prefix_cons.mp matched).1

/-! ## Splitting -/

theorem splitAt_ne_nil
    (separator : Char)
    (text : List Char) :
    splitAt separator text ≠ [] := by
  cases text with
  | nil => simp [splitAt]
  | cons c rest =>
      rw [splitAt]
      split
      · simp
      · split <;> simp

/-- A text is split at each separator, whatever stands around it. -/
theorem splitAt_append_separator
    (separator : Char)
    (text rest : List Char) :
    splitAt separator (text ++ separator :: rest) =
      splitAt separator text ++ splitAt separator rest := by
  induction text with
  | nil => simp [splitAt]
  | cons c text inductionHypothesis =>
      by_cases here : c = separator
      · simp [splitAt, here, inductionHypothesis]
      · cases parts : splitAt separator text with
        | nil => exact absurd parts (splitAt_ne_nil separator text)
        | cons first others =>
            simp [splitAt, here, inductionHypothesis, parts]

theorem splitAt_of_notMem
    {separator : Char}
    {text : List Char}
    (absent : separator ∉ text) :
    splitAt separator text = [text] := by
  induction text with
  | nil => rfl
  | cons c text inductionHypothesis =>
      have different := List.ne_of_not_mem_cons absent
      have later := List.not_mem_of_not_mem_cons absent
      rw [splitAt, if_neg (Ne.symm different), inductionHypothesis later]

theorem splitAt_append_cons
    {separator : Char}
    {text : List Char}
    (absent : separator ∉ text)
    (rest : List Char) :
    splitAt separator (text ++ separator :: rest) = text :: splitAt separator rest := by
  rw [splitAt_append_separator, splitAt_of_notMem absent, List.singleton_append]

end Text
end CtorScan
