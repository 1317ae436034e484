import CtorScan.Proofs.Assembly.Tokens

/-!
# Pieces of a text

Every text, whether it is made of tokens or not, falls into pieces: tokens, comments, blanks,
and characters that start no token.  Nothing is lost, and the tokens are those that are read
when there are no such characters.  A word of letters does not go over the end of a piece.
-/

namespace CtorScan
namespace Assembly

open Text (LastIs FirstIs)

/-- A piece of a text. -/
inductive Piece where
  /-- A character between tokens. -/
  | filler (c : Char)
  /-- A comment, after its semicolon and up to the end of the line. -/
  | comment (text : List Char)
  /-- A token and what is written for it. -/
  | token (token : Token) (source : List Char)
  /-- A character that starts no token. -/
  | stray (c : Char)
deriving DecidableEq

namespace Piece

/-- What is written for a piece. -/
def source : Piece -> List Char
  | .filler c => [c]
  | .comment text => ';' :: text
  | .token _ source => source
  | .stray c => [c]

/-- The piece is a token that ends in the digits of a number. -/
def isNumeric : Piece -> Bool
  | .token taken _ => taken.isNumeric
  | _ => false

/-- The first piece of a text, and what follows it. -/
def front : List Char -> Option (Piece × List Char)
  | [] => none
  | c :: rest =>
      if Token.isFiller c then some (.filler c, rest)
      else if c = ';' then
        some (.comment (rest.takeWhile fun c => c != '\r' && c != '\n'), Token.skipComment rest)
      else
        match Token.read (c :: rest) with
        | some (taken, after) =>
            some (.token taken ((c :: rest).take ((c :: rest).length - after.length)), after)
        | none => some (.stray c, rest)

/-- The tokens of some pieces, if each is a token or stands between tokens. -/
def tokens? : List Piece -> Option (List Token)
  | [] => some []
  | .token taken _ :: rest => (tokens? rest).map (taken :: ·)
  | .stray _ :: _ => none
  | _ :: rest => tokens? rest

end Piece

/-- The pieces of a text, up to a number of them. -/
def piecesUpTo : Nat -> List Char -> List Piece
  | 0, _ => []
  | bound + 1, text =>
      match Piece.front text with
      | none => []
      | some (piece, rest) => piece :: piecesUpTo bound rest

/-- The pieces of a text. -/
def pieces (text : List Char) : List Piece :=
  piecesUpTo text.length text

/-- What is written for some pieces. -/
def written (pieces : List Piece) : List Char :=
  pieces.flatMap Piece.source

@[simp] theorem written_nil : written [] = [] := rfl

@[simp] theorem written_cons
    (piece : Piece)
    (rest : List Piece) :
    written (piece :: rest) = piece.source ++ written rest :=
  List.flatMap_cons

@[simp] theorem written_append (early late : List Piece) :
    written (early ++ late) = written early ++ written late :=
  List.flatMap_append

/-! ## One piece -/

namespace Piece

/-- The first piece of a text in each case. -/
theorem front_cases
    {text rest : List Char}
    {piece : Piece}
    (found : front text = some (piece, rest)) :
    (∃ c, Token.isFiller c = true ∧ piece = .filler c ∧ text = c :: rest) ∨
      (∃ comment, piece = .comment comment ∧ '\n' ∉ comment ∧ text = ';' :: (comment ++ rest) ∧
        FirstIs (fun c => c = '\r' ∨ c = '\n') rest) ∨
      (∃ taken source, piece = .token taken source ∧ taken.Reads text source rest) ∨
      ∃ c, piece = .stray c ∧ text = c :: rest ∧ Token.read text = none := by
  cases text with
  | nil => contradiction
  | cons c after =>
      rw [front] at found
      split at found
      · rename_i filler
        obtain ⟨rfl, rfl⟩ := Prod.mk.inj (Option.some.inj found)
        exact Or.inl ⟨c, filler, rfl, rfl⟩
      split at found
      · rename_i semicolon
        obtain ⟨rfl, rfl⟩ := Prod.mk.inj (Option.some.inj found)
        refine Or.inr (Or.inl ⟨_, rfl, ?_, ?_, ?_⟩)
        · intro member
          simpa using List.mem_takeWhile_imp member
        · rw [semicolon, Token.skipComment, List.takeWhile_append_dropWhile]
        · intro d first
          have stopped := List.head?_dropWhile_not (fun c => c != '\r' && c != '\n') after
          rw [Token.skipComment] at first
          rw [first] at stopped
          exact or_iff_not_imp_left.mpr (by simpa using stopped)
      split at found
      · rename_i taken left read
        obtain ⟨rfl, rfl⟩ := Prod.mk.inj (Option.some.inj found)
        obtain ⟨source, reads⟩ := Token.reads_of_read read
        have same : (c :: after).take ((c :: after).length - left.length) = source := by
          rw [reads.cut]
          simp
        exact Or.inr (Or.inr (Or.inl ⟨taken, source, by rw [same], reads⟩))
      · rename_i missed
        obtain ⟨rfl, rfl⟩ := Prod.mk.inj (Option.some.inj found)
        exact Or.inr (Or.inr (Or.inr ⟨c, rfl, rfl, missed⟩))

theorem front_eq_none_iff {text : List Char} :
    front text = none ↔ text = [] := by
  cases text with
  | nil => simp [front]
  | cons c rest =>
      rw [front]
      split
      · simp
      split
      · simp
      split <;> simp

/-- The first piece is at the front of the text and not empty. -/
theorem front_append
    {text rest : List Char}
    {piece : Piece}
    (found : front text = some (piece, rest)) :
    text = piece.source ++ rest ∧ piece.source ≠ [] := by
  rcases front_cases found with ⟨c, -, rfl, rfl⟩ | ⟨comment, rfl, -, rfl, -⟩ |
    ⟨taken, source, rfl, reads⟩ | ⟨c, rfl, rfl, -⟩
  · simp [source]
  · simp [source]
  · exact ⟨reads.cut, reads.nonempty⟩
  · simp [source]

theorem reads_of_front
    {text source rest : List Char}
    {taken : Token}
    (found : front text = some (.token taken source, rest)) :
    taken.Reads text source rest := by
  rcases front_cases found with ⟨c, -, same, -⟩ | ⟨comment, same, -⟩ |
    ⟨other, written, same, reads⟩ | ⟨c, same, -⟩
  · contradiction
  · contradiction
  · obtain ⟨rfl, rfl⟩ := Piece.token.inj same
    exact reads
  · contradiction

/-- A comment is on one line. -/
theorem feed_notMem_of_front
    {text comment rest : List Char}
    (found : front text = some (.comment comment, rest)) :
    '\n' ∉ comment := by
  rcases front_cases found with ⟨c, -, same, -⟩ | ⟨other, same, oneLine, -⟩ |
    ⟨taken, source, same, -⟩ | ⟨c, same, -⟩
  · contradiction
  · obtain rfl := Piece.comment.inj same
    exact oneLine
  · contradiction
  · contradiction

theorem mayPrecede_of_isFiller
    {c : Char}
    (filler : Token.isFiller c = true) :
    mayPrecede c = true := by
  simp only [Token.isFiller, Bool.or_eq_true, beq_iff_eq] at filler
  rcases filler with (((rfl | rfl) | rfl) | rfl) | zero
  · decide
  · decide
  · decide
  · decide
  · have isZero : c = '\x00' := Char.toNat_inj.mp zero
    rw [isZero]
    decide

/-- Where a letter follows, a piece ends in a character that may stand before a word, unless it
is a number. -/
theorem lastIs_of_front
    {rest : List Char}
    {text : List Char}
    {piece : Piece}
    {d : Char}
    (found : front text = some (piece, d :: rest))
    (letter : isNameLetter d = true)
    (noDigit : d.isDigit = false) :
    LastIs (mayPrecede · = true) piece.source ∨
      piece.isNumeric = true ∧ LastIs EndsNumber piece.source := by
  have isName : isNameChar d = true := by simp [isNameChar, letter]
  rcases front_cases found with ⟨c, filler, rfl, -⟩ | ⟨comment, rfl, -, -, lineEnd⟩ |
    ⟨taken, source, rfl, reads⟩ | ⟨c, rfl, rfl, missed⟩
  · exact Or.inl (by simpa [source] using mayPrecede_of_isFiller filler)
  · have noName : isNameChar d = false := by
      rcases Text.firstIs_cons.mp lineEnd with rfl | rfl <;> decide
    rw [isName] at noName
    contradiction
  · rcases reads.ends with closed | noName | number
    · exact Or.inl (closed.imp fun c closes => closes.1)
    · rw [Text.firstIs_cons, isName] at noName
      contradiction
    · exact Or.inr number
  · exact Or.inl (by simpa [source] using Token.mayPrecede_of_read_eq_none missed letter noDigit)

end Piece

/-! ## All pieces -/

theorem length_lt_of_front
    {text rest : List Char}
    {piece : Piece}
    (found : Piece.front text = some (piece, rest)) :
    rest.length < text.length := by
  obtain ⟨cut, some⟩ := Piece.front_append found
  have positive := List.length_pos_iff.mpr some
  rw [cut, List.length_append]
  omega

theorem piecesUpTo_of_front
    {text rest : List Char}
    {piece : Piece}
    (found : Piece.front text = some (piece, rest))
    (bound : Nat) :
    piecesUpTo (bound + 1) text = piece :: piecesUpTo bound rest := by
  rw [piecesUpTo, found]

@[simp] theorem piecesUpTo_nil (bound : Nat) :
    piecesUpTo bound [] = [] := by
  cases bound <;> rfl

/-- The bound does not matter if it is as large as the text. -/
theorem piecesUpTo_eq
    {first second : Nat}
    {text : List Char}
    (firstEnough : text.length ≤ first)
    (secondEnough : text.length ≤ second) :
    piecesUpTo first text = piecesUpTo second text := by
  induction first generalizing second text with
  | zero =>
      obtain rfl : text = [] := List.length_eq_zero_iff.mp (Nat.le_zero.mp firstEnough)
      simp
  | succ first inductionHypothesis =>
      cases found : Piece.front text with
      | none => simp [Piece.front_eq_none_iff.mp found]
      | some front =>
          obtain ⟨piece, rest⟩ := front
          have shorter := length_lt_of_front found
          obtain ⟨second, rfl⟩ : ∃ before, second = before + 1 :=
            Nat.exists_eq_add_one.mpr (by omega)
          rw [piecesUpTo_of_front found, piecesUpTo_of_front found,
            @inductionHypothesis second rest (by omega) (by omega)]

@[simp] theorem pieces_nil : pieces [] = [] := rfl

/-- A text that is not empty is its first piece and the pieces of the rest. -/
theorem pieces_of_front
    {text rest : List Char}
    {piece : Piece}
    (found : Piece.front text = some (piece, rest)) :
    pieces text = piece :: pieces rest := by
  have shorter := length_lt_of_front found
  calc
    pieces text = piecesUpTo (rest.length + 1 + text.length) text :=
      piecesUpTo_eq (Nat.le_refl _) (by omega)
    _ = piece :: piecesUpTo (rest.length + text.length) rest := by
      rw [Nat.add_right_comm, piecesUpTo_of_front found]
    _ = piece :: pieces rest := by
      rw [pieces, piecesUpTo_eq (Nat.le_add_right _ _) (Nat.le_refl _)]

/-- What holds of the empty text and is passed on from what follows a piece to the whole holds
of every text. -/
theorem pieces_induction
    {motive : List Char -> Prop}
    (nil : motive [])
    (step : ∀ {text piece rest}, Piece.front text = some (piece, rest) -> motive rest ->
      motive text)
    (text : List Char) :
    motive text := by
  induction length : text.length using Nat.strong_induction_on generalizing text with
  | _ size inductionHypothesis =>
      cases found : Piece.front text with
      | none => exact Piece.front_eq_none_iff.mp found ▸ nil
      | some front =>
          obtain ⟨piece, rest⟩ := front
          exact step found (inductionHypothesis _ (length ▸ length_lt_of_front found) rest rfl)

/-- Nothing is lost: the pieces, one after the other, are the text. -/
theorem written_pieces (text : List Char) :
    written (pieces text) = text := by
  induction text using pieces_induction with
  | nil => rfl
  | step found inductionHypothesis =>
      rw [pieces_of_front found, written_cons, inductionHypothesis, ← (Piece.front_append found).1]

/-- What follows a piece of a text is read as it is read in the text. -/
theorem front_of_pieces_eq
    {text : List Char}
    {early late : List Piece}
    {piece : Piece}
    (cut : pieces text = early ++ piece :: late) :
    text = written early ++ (piece.source ++ written late) ∧
      Piece.front (piece.source ++ written late) = some (piece, written late) := by
  induction early generalizing text with
  | nil =>
      cases found : Piece.front text with
      | none => simp [Piece.front_eq_none_iff.mp found] at cut
      | some front =>
          obtain ⟨first, rest⟩ := front
          rw [pieces_of_front found, List.nil_append] at cut
          obtain ⟨rfl, rfl⟩ := List.cons.inj cut
          rw [written_pieces, ← (Piece.front_append found).1]
          exact ⟨rfl, found⟩
  | cons first early inductionHypothesis =>
      cases found : Piece.front text with
      | none => simp [Piece.front_eq_none_iff.mp found] at cut
      | some front =>
          obtain ⟨other, rest⟩ := front
          rw [pieces_of_front found, List.cons_append] at cut
          obtain ⟨rfl, later⟩ := List.cons.inj cut
          obtain ⟨after, read⟩ := inductionHypothesis later
          refine ⟨?_, read⟩
          rw [(Piece.front_append found).1, after]
          simp

/-! ## The tokens that are read -/

/-- Blanks at the front give no tokens. -/
theorem tokens?_pieces_dropWhile (text : List Char) :
    Piece.tokens? (pieces (text.dropWhile Token.isFiller)) = Piece.tokens? (pieces text) := by
  induction text with
  | nil => rfl
  | cons c rest inductionHypothesis =>
      by_cases filler : Token.isFiller c = true
      · have found : Piece.front (c :: rest) = some (.filler c, rest) := by
          simp [Piece.front, filler]
        rw [List.dropWhile_cons, if_pos filler, inductionHypothesis, pieces_of_front found]
        rfl
      · rw [List.dropWhile_cons, if_neg filler]

theorem readAll_eq
    {bound : Nat}
    {text : List Char}
    (enough : text.length < bound)
    (tokens : List Token) :
    Token.readAll tokens bound text =
      (Piece.tokens? (pieces text)).map (tokens.reverse ++ ·) := by
  induction bound generalizing text tokens with
  | zero => omega
  | succ bound inductionHypothesis =>
      have length := (List.dropWhile_sublist Token.isFiller (l := text)).length_le
      have noFiller := List.head?_dropWhile_not Token.isFiller text
      rw [Token.readAll, ← tokens?_pieces_dropWhile]
      split
      · rename_i start
        simp [start, Piece.tokens?]
      · rename_i rest start
        rw [start] at length noFiller ⊢
        have found : Piece.front (';' :: rest) =
            some (.comment (rest.takeWhile fun c => c != '\r' && c != '\n'),
              Token.skipComment rest) := by
          simp [Piece.front, Token.isFiller]
        have shorter := length_lt_of_front found
        rw [inductionHypothesis (by omega), pieces_of_front found]
        rfl
      · rename_i noText noComment
        generalize text.dropWhile Token.isFiller = start at *
        cases start with
        | nil => exact absurd rfl noText
        | cons c rest =>
            have noSemicolon : c ≠ ';' := by
              rintro rfl
              exact noComment rest rfl
            have blank : Token.isFiller c = false := by simpa using noFiller
            cases read : Token.read (c :: rest) with
            | none =>
                have found : Piece.front (c :: rest) = some (.stray c, rest) := by
                  simp [Piece.front, blank, noSemicolon, read]
                rw [pieces_of_front found]
                rfl
            | some result =>
                obtain ⟨token, after⟩ := result
                have found : ∃ source,
                    Piece.front (c :: rest) = some (.token token source, after) := by
                  simp [Piece.front, blank, noSemicolon, read]
                obtain ⟨source, found⟩ := found
                have shorter := length_lt_of_front found
                simp only
                rw [inductionHypothesis (by omega), pieces_of_front found]
                simp [Piece.tokens?, Function.comp_def]

/-- The tokens of a text are those of its pieces. -/
theorem ofText?_eq_tokens? (text : String) :
    Token.ofText? text = Piece.tokens? (pieces text.toList) := by
  have enough : text.toList.length < text.length + 1 := by
    rw [String.length_toList]
    exact Nat.lt_succ_self _
  rw [Token.ofText?, readAll_eq enough]
  simp

/-! ## Words in pieces -/

/-- A piece does not end between the letters of the word for the pointer type. -/
theorem not_front_within_word
    {text before rest : List Char}
    {piece : Piece}
    {c d : Char}
    (ends : piece.source = before ++ [c])
    (letters : (c, d) ∈ [('p', 't'), ('t', 'r')]) :
    Piece.front text ≠ some (piece, d :: rest) := by
  intro found
  have inWord : mayPrecede c = false ∧ ¬ EndsNumber c ∧ isNameLetter d = true ∧
      d.isDigit = false := by
    simp only [List.mem_cons, Prod.mk.injEq, List.not_mem_nil, or_false] at letters
    rcases letters with ⟨rfl, rfl⟩ | ⟨rfl, rfl⟩
    · refine ⟨by decide, ?_, by decide, by decide⟩
      unfold EndsNumber
      decide
    · refine ⟨by decide, ?_, by decide, by decide⟩
      unfold EndsNumber
      decide
  obtain ⟨apart, noNumber, letter, noDigit⟩ := inWord
  rcases Piece.lastIs_of_front found letter noDigit with closed | ⟨-, number⟩
  · rw [ends] at closed
    simp [apart] at closed
  · rw [ends] at number
    simp [noNumber] at number

/-- The word for the pointer type stands within a piece of the text, with the given texts
before and after it. -/
def WordInPiece (text before after : List Char) : Prop :=
  ∃ early piece late inner outer, pieces text = early ++ piece :: late ∧
    piece.source = inner ++ ['p', 't', 'r'] ++ outer ∧
    before = written early ++ inner ∧ after = outer ++ written late

theorem WordInPiece.of_rest
    {text rest before after : List Char}
    {first : Piece}
    (found : Piece.front text = some (first, rest))
    (inRest : WordInPiece rest before after) :
    WordInPiece text (first.source ++ before) after := by
  obtain ⟨early, piece, late, inner, outer, split, source, rfl, follows⟩ := inRest
  refine ⟨first :: early, piece, late, inner, outer, ?_, source, ?_, follows⟩
  · rw [pieces_of_front found, split, List.cons_append]
  · simp

/-- The word for the pointer type stands within one piece wherever it stands. -/
theorem wordInPiece_of_eq
    {text before after : List Char}
    (cut : text = before ++ (['p', 't', 'r'] ++ after)) :
    WordInPiece text before after := by
  induction text using pieces_induction generalizing before with
  | nil => simp at cut
  | @step text first rest found inductionHypothesis =>
      have whole := (Piece.front_append found).1.symm.trans cut
      rcases List.append_eq_append_iff.mp whole with
        ⟨between, rfl, behind⟩ | ⟨reached, source, left⟩
      · exact (inductionHypothesis behind).of_rest found
      · -- the first piece ends before the word, within it, or not before its end
        match reached, source, left with
        | [], source, left =>
            have behind : WordInPiece rest [] after :=
              inductionHypothesis (by simpa using left.symm)
            simpa [source] using behind.of_rest found
        | [x], source, left =>
            simp only [List.cons_append, List.nil_append, List.cons.injEq] at left
            obtain ⟨rfl, rfl⟩ := left
            exact absurd found (not_front_within_word source (by simp))
        | [x, y], source, left =>
            simp only [List.cons_append, List.nil_append, List.cons.injEq] at left
            obtain ⟨rfl, rfl, rfl⟩ := left
            have ends : first.source = (before ++ ['p']) ++ ['t'] := by simp [source]
            exact absurd found (not_front_within_word ends (by simp))
        | x :: y :: z :: outer, source, left =>
            simp only [List.cons_append, List.nil_append, List.cons.injEq] at left
            obtain ⟨rfl, rfl, rfl, follows⟩ := left
            refine ⟨[], first, pieces rest, before, outer, pieces_of_front found, ?_, rfl, ?_⟩
            · simpa using source
            · rw [written_pieces, follows]

end Assembly
end CtorScan
