import CtorScan.Assembly.Reading
import CtorScan.Proofs.Text.Lines

/-!
# What tokens take from a text

Each token is taken from the front of a text.  It ends in a character that goes into no name,
or no character of a name follows it, or it is a number: then a word may come right behind the
last digit.  A character that starts no token may stand before a word.
-/

namespace CtorScan
namespace Assembly

open Text (LastIs FirstIs)

/-! ## What a token takes from a text -/

/-- A number stands in place of a name. -/
def Ident.isNumber : Ident -> Bool
  | .number _ => true
  | .name _ => false

/-- The token ends in the digits of a number. -/
def Token.isNumeric : Token -> Bool
  | .globalIdent ident | .localIdent ident => ident.isNumber
  | .attributeGroup _ | .metadataId _ | .integer _ | .float _ => true
  | _ => false

/-- A character that ends a token: no name holds it or starts with it. -/
def Closes (c : Char) : Prop :=
  mayPrecede c = true ∧ c ≠ '-'

/-- A character that ends a number. -/
def EndsNumber (c : Char) : Prop :=
  c.isDigit = true ∨ Number.isDigitOf 16 c = true ∨ c = '.'

/-- Something is taken from the front of a text.  It does not end within a name: it ends in a
character that closes it, or no character of a name follows, or it is a number. -/
structure Taken
    (numeric : Bool)
    (text source rest : List Char) : Prop where
  /-- The text is what is taken and what is left. -/
  cut : text = source ++ rest
  /-- Something is taken. -/
  nonempty : source ≠ []
  /-- How it ends. -/
  ends : LastIs Closes source ∨ FirstIs (isNameChar · = false) rest ∨
    numeric = true ∧ LastIs EndsNumber source

theorem isNameChar_of_closes
    {c : Char}
    (closes : Closes c) :
    isNameChar c = false := by
  have apart := closes.1
  have noDash := closes.2
  simp only [mayPrecede, isWordChar, Char.isAlphanum, Bool.not_eq_true', Bool.or_eq_false_iff,
    beq_eq_false_iff_ne] at apart
  simp [isNameChar, isNameLetter, apart, noDash]

theorem mayPrecede_of_not_isNameChar
    {c : Char}
    (noName : isNameChar c = false)
    (noMark : c ≠ '%' ∧ c ≠ '@') :
    mayPrecede c = true := by
  simp only [isNameChar, isNameLetter, Bool.or_eq_false_iff, beq_eq_false_iff_ne] at noName
  simp [mayPrecede, isWordChar, Char.isAlphanum, noName, noMark]

theorem endsNumber_of_isDigit
    (c : Char)
    (digit : c.isDigit = true) :
    EndsNumber c :=
  Or.inl digit

theorem endsNumber_of_isDigitOf
    (c : Char)
    (digit : Number.isDigitOf 16 c = true) :
    EndsNumber c :=
  Or.inr (Or.inl digit)

namespace Taken

variable {numeric : Bool} {text source rest : List Char}

/-- A character before it is taken as well. -/
theorem cons
    (taken : Taken numeric text source rest)
    (c : Char) :
    Taken numeric (c :: text) (c :: source) rest := by
  refine ⟨by rw [taken.cut, List.cons_append], by simp, ?_⟩
  have last : ∀ allowed, LastIs allowed (c :: source) ↔ LastIs allowed source := fun allowed =>
    Text.lastIs_append_of_ne_nil taken.nonempty [c]
  rw [last, last]
  exact taken.ends

theorem append
    (taken : Taken numeric text source rest)
    (front : List Char) :
    Taken numeric (front ++ text) (front ++ source) rest := by
  induction front with
  | nil => exact taken
  | cons c front inductionHypothesis => exact inductionHypothesis.cons c

/-- One character that closes is taken. -/
theorem single
    {c : Char}
    (closes : Closes c)
    (numeric : Bool)
    (rest : List Char) :
    Taken numeric (c :: rest) [c] rest :=
  ⟨rfl, by simp, Or.inl (by simpa using closes)⟩

/-- The longest run of digits is taken. -/
theorem digits
    {test : Char -> Bool}
    (ends : ∀ c, test c = true -> EndsNumber c)
    (text : List Char)
    (some : text.takeWhile test ≠ []) :
    Taken true text (text.takeWhile test) (text.drop (text.takeWhile test).length) := by
  refine ⟨(Text.takeWhile_append_drop test text).1.symm, some, Or.inr (Or.inr ⟨rfl, ?_⟩)⟩
  exact Text.lastIs_takeWhile ends text

/-- The longest run of characters is taken, if those of names are among them. -/
theorem run
    {test : Char -> Bool}
    (wide : ∀ c, isNameChar c = true -> test c = true)
    (text : List Char)
    (some : text.takeWhile test ≠ [])
    (numeric : Bool) :
    Taken numeric text (text.takeWhile test) (text.drop (text.takeWhile test).length) := by
  obtain ⟨cut, stops⟩ := Text.takeWhile_append_drop test text
  refine ⟨cut.symm, some, Or.inr (Or.inl (stops.imp fun c failed => ?_))⟩
  by_contra isName
  rw [wide c (by simpa using isName)] at failed
  contradiction

end Taken

/-! ## What a token takes from a text -/

namespace Token

/-- The token is read from the front of a text.  A word is as long as it can be. -/
structure Reads
    (token : Token)
    (text source rest : List Char) : Prop extends Taken token.isNumeric text source rest where
  /-- A word is what is taken, and no character of a name follows. -/
  word : ∀ written, token = .word written ->
    source = written.toList ∧ FirstIs (isNameChar · = false) rest

theorem reads_of_taken
    {token : Token}
    {text source rest : List Char}
    (taken : Taken token.isNumeric text source rest)
    (wordless : ∀ written, token ≠ .word written) :
    token.Reads text source rest :=
  ⟨taken, fun written isWord => absurd isWord (wordless written)⟩

theorem readQuoted_eq_some
    {text inner rest : List Char}
    (found : readQuoted text = some (inner, rest)) :
    text = inner ++ '"' :: rest := by
  obtain ⟨cut, stops⟩ := Text.takeWhile_append_drop (· != '"') text
  simp only [readQuoted] at found
  split at found
  · contradiction
  · rename_i c after left
    obtain ⟨rfl, rfl⟩ := Prod.mk.inj (Option.some.inj found)
    rw [left] at cut stops
    obtain rfl : c = '"' := by simpa using stops
    exact cut.symm

theorem taken_of_readQuoted
    {text inner rest : List Char}
    (found : readQuoted text = some (inner, rest)) :
    ∃ source, Taken false text source rest := by
  rw [readQuoted_eq_some found]
  exact ⟨_, (Taken.single ⟨by decide, by decide⟩ false rest).append inner⟩

theorem taken_of_readIdent
    {text rest : List Char}
    {ident : Ident}
    (found : readIdent text = some (ident, rest)) :
    ∃ source, Taken ident.isNumber text source rest := by
  unfold readIdent at found
  split at found
  · contradiction
  · rename_i c after
    split at found
    · obtain ⟨⟨inner, left⟩, read, equal⟩ := Option.map_eq_some_iff.mp found
      obtain ⟨rfl, rfl⟩ := Prod.mk.inj equal
      obtain ⟨source, taken⟩ := taken_of_readQuoted read
      exact ⟨_, taken.cons c⟩
    · split at found
      · rename_i digit
        obtain ⟨rfl, rfl⟩ := Prod.mk.inj (Option.some.inj found)
        exact ⟨_, Taken.digits endsNumber_of_isDigit (c :: after) (by simp [digit])⟩
      · split at found
        · rename_i letter
          obtain ⟨rfl, rfl⟩ := Prod.mk.inj (Option.some.inj found)
          exact ⟨_, Taken.run (fun c isName => isName) (c :: after) (by simp [isNameChar, letter])
            false⟩
        · contradiction

/-- A mark is taken with the name or the number behind it. -/
theorem reads_of_readIdent
    {text rest : List Char}
    {ident : Ident}
    {token : Token}
    (found : readIdent text = some (ident, rest))
    (numeric : ident.isNumber = token.isNumeric)
    (wordless : ∀ written, token ≠ .word written)
    (mark : Char) :
    ∃ source, token.Reads (mark :: text) source rest := by
  obtain ⟨source, taken⟩ := taken_of_readIdent found
  rw [numeric] at taken
  exact ⟨_, reads_of_taken (taken.cons mark) wordless⟩

theorem reads_of_readLabel
    {text rest : List Char}
    {token : Token}
    (found : readLabel text = some (token, rest)) :
    ∃ source, token.Reads text source rest := by
  have colon := fun rest => Taken.single (c := ':') ⟨by decide, by decide⟩ false rest
  unfold readLabel at found
  split at found
  · rename_i after
    split at found
    · rename_i inner left read
      obtain ⟨rfl, rfl⟩ := Prod.mk.inj (Option.some.inj found)
      rw [readQuoted_eq_some read]
      exact ⟨_, reads_of_taken ((((colon left).cons '"').append inner).cons '"') (by simp)⟩
    · contradiction
  · simp only at found
    split at found
    · rename_i left _ drop
      obtain ⟨rfl, rfl⟩ := Prod.mk.inj (Option.some.inj found)
      have cut := (Text.takeWhile_append_drop isNameChar text).1
      rw [drop] at cut
      exact ⟨_, reads_of_taken (cut ▸ (colon left).append _) (by simp)⟩
    · contradiction

/-! ## Numbers -/

/-- What is chosen from the first character of a text is at its front. -/
theorem exists_eq_filter_take_one_append
    (test : Char -> Bool)
    (text : List Char) :
    ∃ rest, text = (text.take 1).filter test ++ rest := by
  cases text with
  | nil => exact ⟨[], rfl⟩
  | cons c rest =>
      by_cases chosen : test c = true
      · exact ⟨rest, by simp [chosen]⟩
      · exact ⟨c :: rest, by simp [chosen]⟩

theorem readExponent_append (text : List Char) :
    text = (readExponent text).1 ++ (readExponent text).2 ∧
      LastIs EndsNumber (readExponent text).1 := by
  unfold readExponent
  split
  · rename_i e rest
    split
    · obtain ⟨unsigned, cut⟩ :=
        exists_eq_filter_take_one_append (fun c => c == '+' || c == '-') rest
      simp only
      generalize (rest.take 1).filter (fun c => c == '+' || c == '-') = sign at cut ⊢
      subst cut
      have digits := Taken.digits endsNumber_of_isDigit unsigned
      rw [List.drop_left]
      split
      · simp
      · rename_i some
        have taken := (digits (by simpa using some)).append (e :: sign)
        refine ⟨?_, ?_⟩
        · simpa [List.drop_length_add_append] using taken.cut
        · rw [Text.lastIs_append_of_ne_nil (by simpa using some)]
          exact Text.lastIs_takeWhile endsNumber_of_isDigit unsigned
    · simp
  · simp

/-- After a point come the digits of a fraction and an exponent. -/
theorem taken_of_point (text : List Char) :
    ∃ source, Taken true ('.' :: text) source
      (readExponent (text.drop (text.takeWhile Char.isDigit).length)).2 := by
  have fraction := (Text.takeWhile_append_drop Char.isDigit text).1
  obtain ⟨cut, last⟩ := readExponent_append (text.drop (text.takeWhile Char.isDigit).length)
  have digits := Text.lastIs_takeWhile endsNumber_of_isDigit text
  rw [cut, ← List.append_assoc] at fraction
  refine ⟨'.' :: (_ ++ _), congrArg ('.' :: ·) fraction.symm, by simp, Or.inr (Or.inr ⟨rfl, ?_⟩)⟩
  exact Text.lastIs_cons_of_lastIs (Or.inr (Or.inr rfl)) (digits.append last)

theorem reads_of_readDecimal
    {text rest : List Char}
    {token : Token}
    (found : readDecimal text = some (token, rest)) :
    ∃ source, token.Reads text source rest := by
  obtain ⟨unsigned, cut⟩ := exists_eq_filter_take_one_append (fun c => c == '+' || c == '-') text
  simp only [readDecimal] at found
  generalize (text.take 1).filter (fun c => c == '+' || c == '-') = sign at cut found
  subst cut
  rw [List.drop_left] at found
  split at found
  · contradiction
  · rename_i some
    have whole := Taken.digits endsNumber_of_isDigit unsigned (by simpa using some)
    split at found
    · rename_i after point
      obtain ⟨rfl, rfl⟩ := Prod.mk.inj (Option.some.inj found)
      obtain ⟨source, taken⟩ := taken_of_point after
      have all := whole.cut
      rw [point] at all
      rw [all]
      exact ⟨_, reads_of_taken ((taken.append _).append sign) (by simp)⟩
    · split at found
      · contradiction
      · obtain ⟨rfl, rfl⟩ := Prod.mk.inj (Option.some.inj found)
        exact ⟨_, reads_of_taken (whole.append sign) (by simp)⟩

theorem reads_of_readBits
    {text rest : List Char}
    {token : Token}
    (found : readBits text = some (token, rest)) :
    ∃ source, token.Reads text source rest := by
  unfold readBits at found
  split at found
  · rename_i after
    obtain ⟨digits, cut⟩ := exists_eq_filter_take_one_append
      (fun c => ['K', 'L', 'M', 'H', 'R'].contains c) after
    simp only at found
    generalize (after.take 1).filter _ = kind at cut found
    subst cut
    rw [List.drop_left] at found
    split at found
    · contradiction
    · rename_i some
      obtain ⟨rfl, rfl⟩ := Prod.mk.inj (Option.some.inj found)
      have taken := Taken.digits endsNumber_of_isDigitOf digits (by simpa using some)
      rw [List.drop_length_add_append]
      exact ⟨_, reads_of_taken (((taken.append kind).cons 'x').cons '0') (by simp)⟩
  · rename_i letter after
    simp only at found
    split at found
    · rename_i read
      obtain ⟨rfl, rfl⟩ := Prod.mk.inj (Option.some.inj found)
      have some : after.takeWhile (Number.isDigitOf 16) ≠ [] := by
        simpa using (Bool.and_eq_true_iff.mp read).2
      have taken := Taken.digits endsNumber_of_isDigitOf after some
      exact ⟨_, reads_of_taken (((taken.cons 'x').cons '0').cons letter) (by simp)⟩
    · contradiction
  · contradiction

theorem reads_of_readMetadata
    (text : List Char) :
    ∃ source, (readMetadata text).1.Reads ('!' :: text) source (readMetadata text).2 := by
  have mark := Taken.single (c := '!') ⟨by decide, by decide⟩ false text
  unfold readMetadata
  split
  · rename_i c after
    split
    · rename_i digit
      have taken := Taken.digits endsNumber_of_isDigit (c :: after) (by simp [digit])
      exact ⟨_, reads_of_taken (taken.cons '!') (by simp)⟩
    · split
      · rename_i letter
        have wide : ∀ c, isNameChar c = true -> isMetadataChar c = true := by
          intro c isName
          simp [isMetadataChar, isName]
        have taken := Taken.run wide (c :: after) (by simp [letter]) false
        exact ⟨_, reads_of_taken (taken.cons '!') (by simp)⟩
      · exact ⟨_, reads_of_taken mark (by simp)⟩
  · exact ⟨_, reads_of_taken mark (by simp)⟩

theorem reads_of_readWord
    {text rest : List Char}
    {token : Token}
    (found : readWord text = some (token, rest)) :
    ∃ source, token.Reads text source rest := by
  unfold readWord at found
  split at found
  · rename_i c after
    split at found
    · rename_i letter
      obtain ⟨rfl, rfl⟩ := Prod.mk.inj (Option.some.inj found)
      have taken := Taken.run (fun c isName => isName) (c :: after)
        (by simp [isNameChar, letter]) false
      refine ⟨_, taken, fun written isWord => ?_⟩
      obtain rfl := Token.word.inj isWord
      exact ⟨by simp, (Text.takeWhile_append_drop isNameChar (c :: after)).2⟩
    · contradiction
  · contradiction

/-! ## Tokens -/

theorem closes_of_isSign
    {c : Char}
    (sign : isSign c = true) :
    Closes c := by
  have all : ([',', '=', '(', ')', '[', ']', '\x7b', '\x7d', '<', '>', '*', '|'].all fun c =>
      mayPrecede c && c != '-') = true := by decide
  have closes := List.all_eq_true.mp all c (by simpa [isSign] using sign)
  rw [Bool.and_eq_true, bne_iff_ne] at closes
  exact closes

/-- A token takes a part from the front of the text, and a word is as long as it can be. -/
theorem reads_of_read
    {text rest : List Char}
    {token : Token}
    (found : read text = some (token, rest)) :
    ∃ source, token.Reads text source rest := by
  -- the branches of the reader one after the other
  unfold read at found
  split at found
  · contradiction
  rename_i c after
  split at found
  · rename_i result label
    obtain rfl := Option.some.inj found
    exact reads_of_readLabel label
  split at found
  · obtain ⟨⟨ident, left⟩, read, equal⟩ := Option.map_eq_some_iff.mp found
    obtain ⟨rfl, rfl⟩ := Prod.mk.inj equal
    exact reads_of_readIdent read rfl (by simp) c
  split at found
  · obtain ⟨⟨ident, left⟩, read, equal⟩ := Option.map_eq_some_iff.mp found
    obtain ⟨rfl, rfl⟩ := Prod.mk.inj equal
    exact reads_of_readIdent read rfl (by simp) c
  split at found
  · rename_i mark
    obtain rfl : c = '!' := by simpa using mark
    have metadata := reads_of_readMetadata after
    rwa [Option.some.inj found] at metadata
  split at found
  · split at found
    · rename_i number left read
      obtain ⟨rfl, rfl⟩ := Prod.mk.inj (Option.some.inj found)
      exact reads_of_readIdent read rfl (by simp) c
    · contradiction
  split at found
  · split at found
    · rename_i name left read
      obtain ⟨rfl, rfl⟩ := Prod.mk.inj (Option.some.inj found)
      exact reads_of_readIdent read rfl (by simp) c
    · contradiction
  split at found
  · obtain ⟨⟨inner, left⟩, read, equal⟩ := Option.map_eq_some_iff.mp found
    obtain ⟨rfl, rfl⟩ := Prod.mk.inj equal
    obtain ⟨source, taken⟩ := taken_of_readQuoted read
    exact ⟨_, reads_of_taken (taken.cons c) (by simp)⟩
  split at found
  · rename_i sign
    obtain ⟨rfl, rfl⟩ := Prod.mk.inj (Option.some.inj found)
    exact ⟨_, reads_of_taken (Taken.single (closes_of_isSign sign) false after) (by simp)⟩
  split at found
  · rename_i result bits
    obtain rfl := Option.some.inj found
    exact reads_of_readBits bits
  split at found
  · rename_i result decimal
    obtain rfl := Option.some.inj found
    exact reads_of_readDecimal decimal
  exact reads_of_readWord found

/-! ## Characters that start no token -/

theorem readIdent_of_letter
    {c : Char}
    (letter : isNameLetter c = true)
    (noDigit : c.isDigit = false)
    (rest : List Char) :
    ∃ name left, readIdent (c :: rest) = some (.name name, left) := by
  have unquoted : c ≠ '"' := by
    rintro rfl
    exact absurd letter (by decide)
  simp [readIdent, unquoted, noDigit, letter]

theorem readDecimal_ne_none
    {c : Char}
    (digit : c.isDigit = true)
    (rest : List Char) :
    readDecimal (c :: rest) ≠ none := by
  have unsigned : c ≠ '+' ∧ c ≠ '-' := by
    constructor <;> rintro rfl <;> exact absurd digit (by decide)
  simp only [readDecimal]
  simp [unsigned, digit]
  split <;> simp

/-- A character of names starts a token; only for a dollar sign it depends on what follows. -/
theorem read_ne_none_of_isNameChar
    {c : Char}
    (isName : isNameChar c = true)
    (noDollar : c ≠ '$')
    (rest : List Char) :
    read (c :: rest) ≠ none := by
  have other : ∀ d, isNameChar d = false -> (c == d) = false := by
    intro d notName
    rw [beq_eq_false_iff_ne]
    rintro rfl
    rw [isName] at notName
    contradiction
  have noSign : isSign c = false := by
    rw [Bool.eq_false_iff]
    intro sign
    rw [isNameChar_of_closes (closes_of_isSign sign)] at isName
    contradiction
  intro missed
  rw [read] at missed
  split at missed
  · contradiction
  rw [other '@' (by decide), other '%' (by decide), other '!' (by decide), other '#' (by decide),
    other '"' (by decide), noSign, beq_eq_false_iff_ne.mpr noDollar] at missed
  simp only [Bool.false_eq_true, if_false] at missed
  split at missed
  · contradiction
  split at missed
  · contradiction
  rename_i noDecimal
  rcases Bool.or_eq_true_iff.mp isName with letter | digit
  · simp [readWord, letter] at missed
  · exact readDecimal_ne_none digit rest noDecimal

/-- A character that starts no token may stand before a word. -/
theorem mayPrecede_of_read_eq_none
    {c d : Char}
    {rest : List Char}
    (missed : read (c :: d :: rest) = none)
    (letter : isNameLetter d = true)
    (noDigit : d.isDigit = false) :
    mayPrecede c = true := by
  obtain ⟨name, left, ident⟩ := readIdent_of_letter letter noDigit rest
  have noMark : ∀ mark ∈ ['%', '@', '$'], c ≠ mark := by
    intro mark member same
    rw [read] at missed
    split at missed
    · contradiction
    simp only [List.mem_cons, List.not_mem_nil, or_false] at member
    rcases member with rfl | rfl | rfl <;> simp [same, ident] at missed
  have noName : isNameChar c = false := by
    rw [Bool.eq_false_iff]
    intro isName
    exact read_ne_none_of_isNameChar isName (noMark '$' (by simp)) _ missed
  exact mayPrecede_of_not_isNameChar noName ⟨noMark '%' (by simp), noMark '@' (by simp)⟩

end Token
end Assembly
end CtorScan
