import CtorScan.Proofs.Text.Search
import Mathlib.Data.List.TakeWhile

/-!
# Parts between separators

The parts of a text, such as its lines, are what stands between two separators or between a
separator and an end of the text, and has no separator in it.  To say so, and for words in
a text, one looks at the last character before something and at the first one after it.
-/

namespace CtorScan
namespace Text

/-! ## Neighbours -/

/-- The text is empty, or it ends in a character of some kind. -/
def LastIs
    (allowed : Char -> Prop)
    (text : List Char) : Prop :=
  ∀ c, text.getLast? = some c -> allowed c

/-- The text is empty, or it begins with a character of some kind. -/
def FirstIs
    (allowed : Char -> Prop)
    (text : List Char) : Prop :=
  ∀ c, text.head? = some c -> allowed c

variable {allowed : Char -> Prop}

@[simp] theorem lastIs_nil : LastIs allowed [] := by
  simp [LastIs]

@[simp] theorem lastIs_singleton {c : Char} :
    LastIs allowed [c] ↔ allowed c := by
  simp [LastIs]

theorem lastIs_append_of_ne_nil
    {text : List Char}
    (nonempty : text ≠ [])
    (before : List Char) :
    LastIs allowed (before ++ text) ↔ LastIs allowed text := by
  have last : (before ++ text).getLast? = text.getLast? := by
    rw [List.getLast?_append]
    cases found : text.getLast? with
    | none => exact absurd (List.getLast?_eq_none_iff.mp found) nonempty
    | some c => rfl
  rw [LastIs, LastIs, last]

@[simp] theorem lastIs_append_cons
    {before after : List Char}
    {c : Char} :
    LastIs allowed (before ++ c :: after) ↔ LastIs allowed (c :: after) :=
  lastIs_append_of_ne_nil (by simp) before

theorem lastIs_cons_of_lastIs
    {c : Char}
    {text : List Char}
    (first : allowed c)
    (last : LastIs allowed text) :
    LastIs allowed (c :: text) := by
  cases text with
  | nil => simpa using first
  | cons d rest =>
      have same : LastIs allowed ([c] ++ d :: rest) ↔ _ := lastIs_append_cons
      exact same.mpr last

/-- What ends a text also ends the whole, unless nothing is put behind. -/
theorem LastIs.append
    {before text : List Char}
    (first : LastIs allowed before)
    (last : LastIs allowed text) :
    LastIs allowed (before ++ text) := by
  cases text with
  | nil => simpa using first
  | cons c rest => simpa using last

theorem LastIs.of_append
    {before text : List Char}
    (last : LastIs allowed (before ++ text)) :
    LastIs allowed text := by
  cases text with
  | nil => simp
  | cons c rest => simpa using last

theorem lastIs_iff_eq_nil_or_append {text : List Char} :
    LastIs allowed text ↔ text = [] ∨ ∃ before c, text = before ++ [c] ∧ allowed c := by
  constructor
  · intro last
    rcases List.eq_nil_or_concat text with rfl | ⟨before, c, rfl⟩
    · exact Or.inl rfl
    · exact Or.inr ⟨before, c, by simp, last c (by simp)⟩
  · rintro (rfl | ⟨before, c, rfl, isAllowed⟩)
    · simp
    · simpa using isAllowed

@[simp] theorem firstIs_nil : FirstIs allowed [] := by
  simp [FirstIs]

@[simp] theorem firstIs_cons
    {c : Char}
    {rest : List Char} :
    FirstIs allowed (c :: rest) ↔ allowed c := by
  simp [FirstIs]

theorem FirstIs.append
    {text after : List Char}
    (first : FirstIs allowed text)
    (last : FirstIs allowed after) :
    FirstIs allowed (text ++ after) := by
  cases text with
  | nil => exact last
  | cons c rest => simpa using first

theorem FirstIs.of_append
    {text after : List Char}
    (first : FirstIs allowed (text ++ after)) :
    FirstIs allowed text := by
  cases text with
  | nil => simp
  | cons c rest => simpa using first

theorem LastIs.imp
    {other : Char -> Prop}
    {text : List Char}
    (implies : ∀ c, allowed c -> other c)
    (last : LastIs allowed text) :
    LastIs other text :=
  fun c found => implies c (last c found)

theorem FirstIs.imp
    {other : Char -> Prop}
    {text : List Char}
    (implies : ∀ c, allowed c -> other c)
    (first : FirstIs allowed text) :
    FirstIs other text :=
  fun c found => implies c (first c found)

/-! ## Longest runs -/

/-- The longest run of characters at the start of a text ends where the first one of another
kind stands. -/
theorem takeWhile_eq_iff
    {test : Char -> Bool}
    {text run : List Char} :
    text.takeWhile test = run ↔
      (∀ c ∈ run, test c = true) ∧ ∃ rest, text = run ++ rest ∧ FirstIs (test · = false) rest := by
  constructor
  · rintro rfl
    refine ⟨fun c member => List.mem_takeWhile_imp member, text.dropWhile test,
      List.takeWhile_append_dropWhile.symm, ?_⟩
    intro c found
    have stopped := List.head?_dropWhile_not test text
    rw [found] at stopped
    simpa using stopped
  · rintro ⟨inside, rest, rfl, stops⟩
    rw [List.takeWhile_append_of_pos inside]
    cases rest with
    | nil => simp
    | cons c rest =>
        have stopped : test c = false := by simpa using stops
        simp [stopped]

/-- What is left after the longest run of characters. -/
theorem takeWhile_append_drop
    (test : Char -> Bool)
    (text : List Char) :
    text.takeWhile test ++ text.drop (text.takeWhile test).length = text ∧
      FirstIs (test · = false) (text.drop (text.takeWhile test).length) := by
  obtain ⟨-, rest, cut, stops⟩ := takeWhile_eq_iff.mp (rfl : text.takeWhile test = _)
  generalize text.takeWhile test = run at cut ⊢
  subst cut
  simpa using stops

theorem lastIs_takeWhile
    {test : Char -> Bool}
    (implies : ∀ c, test c = true -> allowed c)
    (text : List Char) :
    LastIs allowed (text.takeWhile test) :=
  fun c found => implies c (List.mem_takeWhile_imp (List.mem_of_getLast? found))

/-- A text goes up to a separator that is not in it, and the rest starts with that one. -/
theorem takeWhile_ne_eq_iff
    {separator : Char}
    {text front : List Char} :
    text.takeWhile (· != separator) = front ↔
      separator ∉ front ∧ ∃ rest, text = front ++ rest ∧ FirstIs (· = separator) rest := by
  rw [takeWhile_eq_iff]
  simp only [bne_iff_ne, ne_eq, bne_eq_false_iff_eq]
  have absent : (∀ c ∈ front, ¬ c = separator) ↔ separator ∉ front :=
    ⟨fun others member => others separator member rfl,
      fun absent c member same => absent (same ▸ member)⟩
  rw [absent]

/-! ## Parts -/

/-- The text has the part: it stands between separators or ends of the text and has no
separator in it. -/
def HasPart
    (separator : Char)
    (text part : List Char) : Prop :=
  separator ∉ part ∧ ∃ before after, text = before ++ part ++ after ∧
    LastIs (· = separator) before ∧ FirstIs (· = separator) after

/-- What stands around a part is split in the same way whatever the part is. -/
theorem exists_splitAt_around
    {separator : Char}
    {before after : List Char}
    (opened : LastIs (· = separator) before)
    (closed : FirstIs (· = separator) after) :
    ∃ early late, ∀ part, separator ∉ part ->
      splitAt separator (before ++ part ++ after) = early ++ part :: late := by
  have behind : ∃ late, ∀ part, separator ∉ part ->
      splitAt separator (part ++ after) = part :: late := by
    cases after with
    | nil => exact ⟨[], fun part absent => by rw [List.append_nil, splitAt_of_notMem absent]⟩
    | cons c after =>
        obtain rfl : c = separator := by simpa using closed
        exact ⟨splitAt c after, fun part absent => splitAt_append_cons absent after⟩
  obtain ⟨late, split⟩ := behind
  rcases lastIs_iff_eq_nil_or_append.mp opened with rfl | ⟨front, c, rfl, rfl⟩
  · exact ⟨[], late, fun part absent => by simpa using split part absent⟩
  · refine ⟨splitAt c front, late, fun part absent => ?_⟩
    rw [List.append_assoc, List.append_assoc, List.singleton_append, splitAt_append_separator,
      split part absent]

/-- Splitting a text gives its parts. -/
theorem mem_splitAt_iff
    {separator : Char}
    {text part : List Char} :
    part ∈ splitAt separator text ↔ HasPart separator text part := by
  constructor
  · -- the first separator cuts off the first part, and the others are parts of the rest
    intro member
    induction length : text.length using Nat.strong_induction_on generalizing text with
    | _ size inductionHypothesis =>
        by_cases some : separator ∈ text
        · obtain ⟨front, rest, rfl, absent⟩ := List.eq_append_cons_of_mem some
          rw [splitAt_append_cons absent] at member
          rcases List.mem_cons.mp member with rfl | later
          · exact ⟨absent, [], separator :: rest, by simp⟩
          · have shorter : rest.length < size := by
              rw [← length, List.length_append, List.length_cons]
              omega
            obtain ⟨notIn, before, after, rfl, opened, closed⟩ :=
              inductionHypothesis rest.length shorter later rfl
            refine ⟨notIn, front ++ separator :: before, after, by simp, ?_, closed⟩
            rw [lastIs_append_cons]
            exact lastIs_cons_of_lastIs rfl opened
        · rw [splitAt_of_notMem some, List.mem_singleton] at member
          exact ⟨member ▸ some, [], [], by simp [member]⟩
  · rintro ⟨absent, before, after, rfl, opened, closed⟩
    obtain ⟨early, late, split⟩ := exists_splitAt_around opened closed
    rw [split part absent]
    simp

end Text
end CtorScan
