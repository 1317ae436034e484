import CtorScan.Proofs.Assembly.Pieces
import CtorScan.Proofs.Assembly.PointerWord

/-!
# The word for the untyped pointer type and its uses

The type is used where one of the tokens of a text is the word for it.  The blame goes by lines
and by the characters around the word, so it can go wrong in both directions: the word may show
within another token, such as a text in quotes, and a semicolon within quotes hides what
follows on the line.  Where neither happens, exactly the uses of the type are blamed.
-/

namespace CtorScan
namespace Assembly

open Text (LastIs FirstIs HasPart)

/-! ## Places of the word -/

/-- No semicolon stands on the line that the text ends in. -/
def Uncommented (text : List Char) : Prop :=
  ∃ earlier line, text = earlier ++ line ∧ LastIs (· = '\n') earlier ∧ '\n' ∉ line ∧ ';' ∉ line

/-- A semicolon hides the rest of its line. -/
theorem not_uncommented_append_semicolon
    {before after : List Char}
    (sameLine : '\n' ∉ after) :
    ¬ Uncommented (before ++ ';' :: after) := by
  rintro ⟨earlier, line, cut, opened, -, uncut⟩
  rcases List.append_eq_append_iff.mp cut with ⟨between, rfl, behind⟩ | ⟨between, rfl, rfl⟩
  · cases between with
    | nil =>
        rw [List.nil_append] at behind
        exact uncut (behind ▸ List.mem_cons_self)
    | cons c between =>
        obtain ⟨rfl, rfl⟩ := List.cons.inj behind
        rw [Text.lastIs_append_cons] at opened
        obtain ⟨last, ends⟩ : ∃ last, (';' :: between).getLast? = some last :=
          ⟨_, List.getLast?_eq_some_getLast (by simp)⟩
        obtain rfl := opened last ends
        rcases List.mem_cons.mp (List.mem_of_getLast? ends) with same | member
        · exact absurd same (by decide)
        · exact sameLine (List.mem_append_left _ member)
  · exact uncut (by simp)

theorem isolates_of_append
    {before inner outer after : List Char}
    (isolates : Isolates (before ++ inner) (outer ++ after)) :
    Isolates inner outer :=
  ⟨isolates.opened.of_append, isolates.closed.of_append⟩

/-- A text is blamed for a place at which the word stands by itself and no semicolon is before
it on its line. -/
theorem blamesPointer_iff_place (text : String) :
    blamesPointer text = true ↔
      ∃ before after, text.toList = before ++ (['p', 't', 'r'] ++ after) ∧
        Isolates before after ∧ Uncommented before := by
  rw [blamesPointer_iff]
  constructor
  · rintro ⟨line, ⟨oneLine, earlier, later, whole, opened, closed⟩, code, comment, rfl, uncut,
      stops, before, after, rfl, isolates⟩
    refine ⟨earlier ++ before, after ++ (comment ++ later), ?_, ⟨?_, ?_⟩, ?_⟩
    · simpa using whole
    · exact (opened.imp (by rintro c rfl; decide)).append isolates.opened
    · refine isolates.closed.append (FirstIs.append ?_ ?_)
      · exact stops.imp (by rintro c rfl; decide)
      · exact closed.imp (by rintro c rfl; decide)
    · refine ⟨earlier, before, rfl, opened, ?_, ?_⟩
      · exact fun member => oneLine (by simp [member])
      · exact fun member => uncut (by simp [member])
  · rintro ⟨before, after, whole, isolates, earlier, front, rfl, opened, sameLine, uncut⟩
    -- the line goes on up to the next line feed, its code up to the next semicolon
    obtain ⟨oneLine, later, cut, closed⟩ :=
      Text.takeWhile_ne_eq_iff.mp (rfl : after.takeWhile (· != '\n') = _)
    generalize after.takeWhile (· != '\n') = rest at oneLine cut
    subst cut
    obtain ⟨noSemicolon, comment, cut, stops⟩ :=
      Text.takeWhile_ne_eq_iff.mp (rfl : rest.takeWhile (· != ';') = _)
    generalize rest.takeWhile (· != ';') = code at noSemicolon cut
    subst cut
    refine ⟨front ++ ['p', 't', 'r'] ++ (code ++ comment), ⟨?_, earlier, later, ?_, opened, closed⟩,
      front ++ ['p', 't', 'r'] ++ code, comment, by simp, ?_, stops, front, code, rfl, ?_⟩
    · simpa [sameLine] using oneLine
    · simpa using whole
    · simpa [uncut] using noSemicolon
    · rw [List.append_assoc] at isolates
      exact isolates_of_append isolates

/-! ## The word in tokens -/

/-- A text is blamed for a token within which the word stands by itself, if no semicolon is
before it on its line. -/
theorem blamesPointer_iff_token (text : String) :
    blamesPointer text = true ↔
      ∃ early token source late, pieces text.toList = early ++ .token token source :: late ∧
        ∃ inner outer, source = inner ++ ['p', 't', 'r'] ++ outer ∧
          Isolates (written early ++ inner) (outer ++ written late) ∧
          Uncommented (written early ++ inner) := by
  rw [blamesPointer_iff_place]
  constructor
  · rintro ⟨before, after, whole, isolates, uncommented⟩
    obtain ⟨early, piece, late, inner, outer, split, source, rfl, rfl⟩ := wordInPiece_of_eq whole
    have long : 3 ≤ piece.source.length := by
      simp only [source, List.length_append, List.length_cons, List.length_nil]
      omega
    cases piece with
    | filler c => simp [Piece.source] at long
    | stray c => simp [Piece.source] at long
    | comment comment =>
        -- the word is behind the semicolon of the comment
        have oneLine := Piece.feed_notMem_of_front (front_of_pieces_eq split).2
        cases inner with
        | nil =>
            have same := (List.cons.inj source).1
            exact absurd same (by decide)
        | cons c inner =>
            obtain ⟨rfl, rfl⟩ := List.cons.inj source
            refine absurd uncommented (not_uncommented_append_semicolon ?_)
            exact fun member => oneLine (by simp [member])
    | token token taken =>
        exact ⟨early, token, taken, late, split, inner, outer, source, isolates, uncommented⟩
  · rintro ⟨early, token, source, late, split, inner, outer, rfl, isolates, uncommented⟩
    refine ⟨_, _, ?_, isolates, uncommented⟩
    rw [(front_of_pieces_eq split).1]
    simp [Piece.source]

theorem mayFollow_of_not_isNameChar
    {c : Char}
    (noName : isNameChar c = false) :
    mayFollow c = true := by
  simp only [isNameChar, isNameLetter, Bool.or_eq_false_iff, beq_eq_false_iff_ne] at noName
  simp [mayFollow, isWordChar, Char.isAlphanum, noName]

/-- A use of the type that does not follow right behind a number stands by itself. -/
theorem isolates_of_use
    {text source : List Char}
    {early late : List Piece}
    (split : pieces text = early ++ .token (.word "ptr") source :: late)
    (apart : ∀ piece, early.getLast? = some piece -> piece.isNumeric = false) :
    source = ['p', 't', 'r'] ∧ Isolates (written early) (written late) := by
  obtain ⟨spelled, follows⟩ :=
    (Piece.reads_of_front (front_of_pieces_eq split).2).word "ptr" rfl
  have word : source = ['p', 't', 'r'] := by
    rw [spelled]
    decide
  refine ⟨word, isolates_iff.mpr ⟨?_, follows.imp fun c => mayFollow_of_not_isNameChar⟩⟩
  rcases List.eq_nil_or_concat early with rfl | ⟨front, previous, rfl⟩
  · simp
  · have noNumber : previous.isNumeric = false := apart previous (by simp)
    rw [List.concat_eq_append, List.append_assoc, List.singleton_append] at split
    have found := (front_of_pieces_eq split).2
    have some := (Piece.front_append found).2
    simp only [written_cons, Piece.source, word, List.cons_append] at found
    have closed : LastIs (mayPrecede · = true) previous.source := by
      rcases Piece.lastIs_of_front found (by decide) (by decide) with closed | ⟨number, -⟩
      · exact closed
      · rw [noNumber] at number
        contradiction
    simpa [Text.lastIs_append_of_ne_nil some] using closed

/-- A use of the type that no semicolon hides and that does not follow right behind a number is
blamed. -/
theorem blamesPointer_of_use
    {text : String}
    {early late : List Piece}
    {source : List Char}
    (split : pieces text.toList = early ++ .token (.word "ptr") source :: late)
    (uncommented : Uncommented (written early))
    (apart : ∀ piece, early.getLast? = some piece -> piece.isNumeric = false) :
    blamesPointer text = true := by
  obtain ⟨word, isolates⟩ := isolates_of_use split apart
  rw [blamesPointer_iff_token]
  refine ⟨early, _, source, late, split, [], [], by simpa using word, ?_, ?_⟩
  · simpa using isolates
  · simpa using uncommented

/-- Only a token that shows the word is blamed. -/
theorem exists_token_of_blamesPointer
    {text : String}
    (blamed : blamesPointer text = true) :
    ∃ token source, .token token source ∈ pieces text.toList ∧ ShowsPointer source := by
  obtain ⟨early, token, source, late, split, inner, outer, shown, isolates, -⟩ :=
    (blamesPointer_iff_token text).mp blamed
  exact ⟨token, source, by simp [split], inner, outer, shown, isolates_of_append isolates⟩

/-- The pieces of a text, which hold the tokens that are read, tell what a text that is refused is
blamed for.  It is a token within which the word stands by itself, with no semicolon before it on
its line.  So a text that does not use the untyped pointer type is not blamed for it, if no other
token shows the word; and one that uses it is, if no semicolon is before it on its line and no
number right before it. -/
theorem pointer_blame_follows_tokens
    {text : String}
    (refused : Module.ofText? text = none)
    (name : String) :
    written (pieces text.toList) = text.toList ∧
    Token.ofText? text = Piece.tokens? (pieces text.toList) ∧
    (programOfText name text = .error (.untypedPointer name) ↔
      ∃ early token source late, pieces text.toList = early ++ .token token source :: late ∧
        ∃ inner outer, source = inner ++ ['p', 't', 'r'] ++ outer ∧
          Isolates (written early ++ inner) (outer ++ written late) ∧
          Uncommented (written early ++ inner)) ∧
    ((∀ token source, .token token source ∈ pieces text.toList -> ShowsPointer source ->
        token = .word "ptr") ->
      (∀ source, .token (.word "ptr") source ∉ pieces text.toList) ->
      programOfText name text = .error (.malformed name)) ∧
    ∀ early source late, pieces text.toList = early ++ .token (.word "ptr") source :: late ->
      Uncommented (written early) ->
      (∀ piece, early.getLast? = some piece -> piece.isNumeric = false) ->
      programOfText name text = .error (.untypedPointer name) := by
  rw [programOfText_of_refused refused, ← blamesPointer_iff_token]
  refine ⟨written_pieces _, ofText?_eq_tokens? text, ?_, ?_, ?_⟩
  · cases blamesPointer text <;> simp
  · intro otherwise unused
    have notBlamed : blamesPointer text = false := by
      rw [Bool.eq_false_iff]
      intro blamed
      obtain ⟨token, source, member, shows⟩ := exists_token_of_blamesPointer blamed
      obtain rfl := otherwise token source member shows
      exact unused source member
    rw [notBlamed]
    rfl
  · intro early source late split uncommented apart
    rw [blamesPointer_of_use split uncommented apart]
    rfl

/-- A declaration with the word in a comment and a use of the type on the next line. -/
def usingText : String := "declare void @f(i8, ; ptr\n ptr)\n"

/-- The use on the next line is blamed. -/
theorem pointer_blame_follows_tokens_using :
    Module.ofText? usingText = none ∧
      ∃ early late, pieces usingText.toList =
          early ++ .token (.word "ptr") ['p', 't', 'r'] :: late ∧
        .comment " ptr".toList ∈ early ∧ Uncommented (written early) ∧
        (∀ piece, early.getLast? = some piece -> piece.isNumeric = false) ∧
        programOfText "a" usingText = .error (.untypedPointer "a") := by
  have refused : Module.ofText? usingText = none :=
    Option.isNone_iff_eq_none.mp (by decide +kernel)
  let early := (pieces usingText.toList).take 12
  have split : pieces usingText.toList =
      early ++ .token (.word "ptr") ['p', 't', 'r'] :: (pieces usingText.toList).drop 13 := by
    decide +kernel
  have commented : .comment " ptr".toList ∈ early := by decide +kernel
  have uncommented : Uncommented (written early) := by
    refine ⟨"declare void @f(i8, ; ptr\n".toList, [' '], by decide +kernel, ?_, by decide,
      by decide⟩
    intro c ends
    exact Option.some.inj (ends.symm.trans (by decide))
  have apart : ∀ piece, early.getLast? = some piece -> piece.isNumeric = false := by
    have last : early.getLast? = some (.filler ' ') := by decide +kernel
    intro piece found
    rw [← Option.some.inj (last.symm.trans found)]
    rfl
  obtain ⟨-, -, -, -, blamed⟩ := pointer_blame_follows_tokens refused "a"
  exact ⟨refused, early, _, split, commented, uncommented, apart,
    blamed early _ _ split uncommented apart⟩

/-- A text in quotes shows the word, and the text around it is not well formed. -/
def quotedWordText : String := "@s = constant [7 x i8] c\"no ptr!\"\ndefine void @f(\n"

/-- A name in quotes has a semicolon in it, and the type is used behind it. -/
def quotedSemicolonText : String := "declare void @\"a;b\"(ptr)\n"

/-- Quotes mislead the blame in both directions: a text that does not use the type is blamed for
the word in quotes, and one that uses it is not, for the semicolon in quotes. -/
theorem quotes_mislead_pointer_blame :
    (Module.ofText? quotedWordText = none ∧
      (∀ source, .token (.word "ptr") source ∉ pieces quotedWordText.toList) ∧
      (∀ piece ∈ pieces quotedWordText.toList, ShowsPointer piece.source ->
        piece = .token (.quoted "no ptr!".toList) "\"no ptr!\"".toList) ∧
      programOfText "a" quotedWordText = .error (.untypedPointer "a")) ∧
    (Module.ofText? quotedSemicolonText = none ∧
      .token (.word "ptr") "ptr".toList ∈ pieces quotedSemicolonText.toList ∧
      programOfText "a" quotedSemicolonText = .error (.malformed "a")) := by
  have refusedWord : Module.ofText? quotedWordText = none :=
    Option.isNone_iff_eq_none.mp (by decide +kernel)
  have refusedSemicolon : Module.ofText? quotedSemicolonText = none :=
    Option.isNone_iff_eq_none.mp (by decide +kernel)
  have shown : ∀ piece ∈ pieces quotedWordText.toList, namesPointer none piece.source = true ->
      piece = .token (.quoted "no ptr!".toList) "\"no ptr!\"".toList := by
    decide +kernel
  have unused : ∀ piece ∈ pieces quotedWordText.toList,
      piece ≠ .token (.word "ptr") piece.source := by
    decide +kernel
  refine ⟨⟨refusedWord, fun source member => unused _ member rfl, ?_, ?_⟩,
    refusedSemicolon, by decide +kernel, ?_⟩
  · intro piece member shows
    exact shown piece member ((namesPointer_none_iff _).mpr shows)
  · rw [programOfText_of_refused refusedWord]
    decide +kernel
  · rw [programOfText_of_refused refusedSemicolon]
    decide +kernel

end Assembly
end CtorScan
