import CtorScan.Assembly.Reading
import CtorScan.Proofs.Text.Lines
import Mathlib.Logic.Relation

/-!
# The word for the untyped pointer type

A text that is refused is blamed on the untyped pointer type exactly if the word for it stands
on some line before the first semicolon there, and the characters around it are none of a
longer name.  So what is behind semicolons has no part in the verdict, nor have lines
without the word.
-/

namespace CtorScan
namespace Assembly

open Text (LastIs FirstIs HasPart)

/-! ## The word in a line -/

/-- What stands before and after the word makes it a word by itself. -/
structure Isolates (before after : List Char) : Prop where
  /-- There is nothing before it, or a character that goes into no name and starts none. -/
  opened : LastIs (fun c => c ∉ ['%', '@', '$', '.', '_'] ∧ c.isAlphanum = false) before
  /-- There is nothing after it, or a character that goes into no name. -/
  closed : FirstIs (fun c => c ∉ ['.', '_'] ∧ c.isAlphanum = false) after

/-- The word for the pointer type stands in a text. -/
def ShowsPointer (text : List Char) : Prop :=
  ∃ before after, text = before ++ ['p', 't', 'r'] ++ after ∧ Isolates before after

/-- The word for the pointer type stands in a line before the first semicolon. -/
def NamesPointer (line : List Char) : Prop :=
  ∃ code comment, line = code ++ comment ∧ ';' ∉ code ∧ FirstIs (· = ';') comment ∧
    ShowsPointer code

theorem mayPrecede_iff (c : Char) :
    mayPrecede c = true ↔ c ∉ ['%', '@', '$', '.', '_'] ∧ c.isAlphanum = false := by
  simp only [mayPrecede, isWordChar, Bool.not_eq_true', Bool.or_eq_false_iff, beq_eq_false_iff_ne,
    List.mem_cons, List.not_mem_nil, or_false, not_or]
  tauto

theorem mayFollow_iff (c : Char) :
    mayFollow c = true ↔ c ∉ ['.', '_'] ∧ c.isAlphanum = false := by
  simp only [mayFollow, isWordChar, Bool.not_eq_true', Bool.or_eq_false_iff, beq_eq_false_iff_ne,
    List.mem_cons, List.not_mem_nil, or_false, not_or]
  tauto

theorem isolates_iff {before after : List Char} :
    Isolates before after ↔
      LastIs (mayPrecede · = true) before ∧ FirstIs (mayFollow · = true) after := by
  simp only [mayPrecede_iff, mayFollow_iff]
  exact ⟨fun isolates => ⟨isolates.opened, isolates.closed⟩, fun both => ⟨both.1, both.2⟩⟩

theorem head?_all_iff
    {test : Char -> Bool}
    {text : List Char} :
    text.head?.all test = true ↔ FirstIs (test · = true) text := by
  cases text <;> simp

theorem toList_all_iff
    {test : Char -> Bool}
    {previous : Option Char} :
    previous.all test = true ↔ LastIs (test · = true) previous.toList := by
  cases previous <;> simp

/-- The word is at the start of the text, or it is found behind the first character. -/
theorem namesPointer_cons_iff
    (previous : Option Char)
    (c : Char)
    (rest : List Char) :
    namesPointer previous (c :: rest) = true ↔
      (∃ after, c :: rest = ['p', 't', 'r'] ++ after ∧ Isolates previous.toList after) ∨
        namesPointer (some c) rest = true := by
  have word : "ptr".toList = ['p', 't', 'r'] := by decide
  have starts := fun after => @Text.afterStart?_eq_some_iff ['p', 't', 'r'] (c :: rest) after
  rw [namesPointer, Bool.or_eq_true, Bool.and_eq_true, toList_all_iff, word]
  refine or_congr_left ?_
  cases found : Text.afterStart? ['p', 't', 'r'] (c :: rest) with
  | none =>
      simp only [found, reduceCtorEq, false_iff] at starts
      simp only [starts, false_and, exists_false, Bool.false_eq_true, and_false]
  | some after =>
      have cut := (starts after).mp found
      simp only [head?_all_iff, ← isolates_iff]
      constructor
      · exact fun isolates => ⟨after, cut, isolates⟩
      · rintro ⟨other, same, isolates⟩
        rwa [List.append_cancel_left (cut.symm.trans same)]

/-- The search looks at each place of the text, with the character before it at hand. -/
theorem namesPointer_iff
    (previous : Option Char)
    (text : List Char) :
    namesPointer previous text = true ↔
      ∃ before after, text = before ++ ['p', 't', 'r'] ++ after ∧
        Isolates (previous.toList ++ before) after := by
  induction text generalizing previous with
  | nil => simp [namesPointer]
  | cons c rest inductionHypothesis =>
      -- behind the first character, what came before that one does not matter
      have passed : ∀ before after, Isolates (previous.toList ++ c :: before) after ↔
          Isolates ((some c).toList ++ before) after := by
        simp [isolates_iff]
      rw [namesPointer_cons_iff, inductionHypothesis]
      constructor
      · rintro (⟨after, cut, isolates⟩ | ⟨before, after, rfl, isolates⟩)
        · exact ⟨[], after, by simpa using cut, by simpa using isolates⟩
        · exact ⟨c :: before, after, by simp, (passed before after).mpr isolates⟩
      · rintro ⟨before, after, cut, isolates⟩
        cases before with
        | nil => exact Or.inl ⟨after, by simpa using cut, by simpa using isolates⟩
        | cons d before =>
            obtain ⟨rfl, later⟩ := List.cons.inj cut
            exact Or.inr ⟨before, after, later, (passed before after).mp isolates⟩

theorem namesPointer_none_iff (text : List Char) :
    namesPointer none text = true ↔ ShowsPointer text := by
  rw [namesPointer_iff]
  rfl

/-- A line is searched up to its first semicolon. -/
theorem namesPointer_codeOf_iff (line : List Char) :
    namesPointer none (codeOf line) = true ↔ NamesPointer line := by
  rw [namesPointer_none_iff]
  constructor
  · intro shows
    obtain ⟨absent, comment, cut, stops⟩ :=
      Text.takeWhile_ne_eq_iff.mp (show line.takeWhile (· != ';') = codeOf line from rfl)
    exact ⟨codeOf line, comment, cut, absent, stops, shows⟩
  · rintro ⟨code, comment, cut, absent, stops, shows⟩
    have isCode : codeOf line = code :=
      Text.takeWhile_ne_eq_iff.mpr ⟨absent, comment, cut, stops⟩
    rwa [isCode]

/-! ## Texts -/

/-- A text is blamed for one of its lines. -/
theorem blamesPointer_iff (text : String) :
    blamesPointer text = true ↔ ∃ line, HasPart '\n' text.toList line ∧ NamesPointer line := by
  simp only [blamesPointer, List.any_eq_true, Text.lines, Text.mem_splitAt_iff,
    namesPointer_codeOf_iff]

/-- A change of a text, given by its lines, that leaves the words outside of comments as they
are. -/
inductive LineEdit : List (List Char) -> List (List Char) -> Prop where
  /-- What stands behind a semicolon is changed. -/
  | comment (early late : List (List Char)) (code before after : List Char) :
      LineEdit (early ++ (code ++ ';' :: before) :: late) (early ++ (code ++ ';' :: after) :: late)
  /-- A line without the word is put in. -/
  | line (early late : List (List Char)) (line : List Char) (wordless : ¬ NamesPointer line) :
      LineEdit (early ++ late) (early ++ line :: late)

theorem codeOf_append_semicolon (code comment : List Char) :
    codeOf (code ++ ';' :: comment) = codeOf code := by
  induction code with
  | nil => simp [codeOf]
  | cons c rest inductionHypothesis =>
      by_cases here : c = ';'
      · simp [codeOf, here]
      · simpa [codeOf, here] using inductionHypothesis

/-- One change leaves the verdict as it is. -/
theorem LineEdit.any_eq
    {before after : List (List Char)}
    (edit : LineEdit before after) :
    (before.any fun line => namesPointer none (codeOf line)) =
      after.any fun line => namesPointer none (codeOf line) := by
  cases edit with
  | comment early late code old new => simp [codeOf_append_semicolon]
  | line early late line wordless =>
      have silent : namesPointer none (codeOf line) = false := by
        rw [Bool.eq_false_iff, ne_eq, namesPointer_codeOf_iff]
        exact wordless
      simp [silent]

/-- So do any number of changes, made or taken back. -/
theorem blamesPointer_eq_of_edits
    {text edited : String}
    (edits : Relation.EqvGen LineEdit (Text.lines text) (Text.lines edited)) :
    blamesPointer text = blamesPointer edited := by
  unfold blamesPointer
  generalize Text.lines text = before at edits
  generalize Text.lines edited = after at edits
  induction edits with
  | rel _ _ edit => exact edit.any_eq
  | refl _ => rfl
  | symm _ _ _ inductionHypothesis => exact inductionHypothesis.symm
  | trans _ _ _ _ _ first second => exact first.trans second

theorem programOfText_of_refused
    {text : String}
    (refused : Module.ofText? text = none)
    (name : String) :
    programOfText name text =
      .error (if blamesPointer text then .untypedPointer name else .malformed name) := by
  rw [programOfText, refused]

/-- A text that is refused is blamed on the untyped pointer type exactly if the word for it
stands on some line before the first semicolon and between characters that make it a word by
itself.  Otherwise it is malformed.  The verdict on a text that is refused does not change with
what stands behind semicolons, or by lines without the word. -/
theorem pointer_blame_is_decided_by_word
    {text : String}
    (refused : Module.ofText? text = none)
    (name : String) :
    (programOfText name text = .error (.untypedPointer name) ↔
      ∃ line, HasPart '\n' text.toList line ∧ NamesPointer line) ∧
    (programOfText name text = .error (.malformed name) ↔
      ¬ ∃ line, HasPart '\n' text.toList line ∧ NamesPointer line) ∧
    ∀ edited, Module.ofText? edited = none ->
      Relation.EqvGen LineEdit (Text.lines text) (Text.lines edited) ->
      programOfText name edited = programOfText name text := by
  rw [← blamesPointer_iff, programOfText_of_refused refused]
  refine ⟨?_, ?_, ?_⟩
  · cases blamesPointer text <;> simp
  · cases blamesPointer text <;> simp
  · intro edited stillRefused edits
    rw [programOfText_of_refused stillRefused, blamesPointer_eq_of_edits edits]

/-- A declaration with the untyped pointer type and a comment. -/
def untypedText : String := "declare void @f(ptr) ; old\n"

/-- The same with another comment and with a line more. -/
def recommentedText : String := "; ptr\ndeclare void @f(ptr) ; new\n"

/-- Both texts are refused, with the same verdict. -/
theorem pointer_blame_is_decided_by_word_recommented :
    Module.ofText? untypedText = none ∧ Module.ofText? recommentedText = none ∧
      programOfText "a" untypedText = .error (.untypedPointer "a") ∧
      programOfText "a" recommentedText = .error (.untypedPointer "a") := by
  have refused : Module.ofText? untypedText = none :=
    Option.isNone_iff_eq_none.mp (by decide +kernel)
  have stillRefused : Module.ofText? recommentedText = none :=
    Option.isNone_iff_eq_none.mp (by decide +kernel)
  have wordless : ¬ NamesPointer "; ptr".toList := by
    rw [← namesPointer_codeOf_iff]
    decide
  have comment := LineEdit.comment [] [[]] "declare void @f(ptr) ".toList " old".toList
    " new".toList
  have line := LineEdit.line [] ["declare void @f(ptr) ; new".toList, []] "; ptr".toList wordless
  have edits : Relation.EqvGen LineEdit (Text.lines untypedText) (Text.lines recommentedText) :=
    .trans _ _ _ (.rel _ _ comment) (.rel _ _ line)
  obtain ⟨blamed, -, unchanged⟩ := pointer_blame_is_decided_by_word refused "a"
  have verdict : programOfText "a" untypedText = .error (.untypedPointer "a") :=
    blamed.mpr ((blamesPointer_iff untypedText).mp (by decide))
  exact ⟨refused, stillRefused, verdict, (unchanged _ stillRefused edits).trans verdict⟩

end Assembly
end CtorScan
