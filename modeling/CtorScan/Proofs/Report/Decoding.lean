import CtorScan.Report.Json
import CtorScan.Number.Decimal
import Mathlib.Data.List.Basic

/-!
# Reading JSON

A reader of JSON values: objects, lists, texts, numbers and the three words, with blanks
between them.  In a text, a backslash and a letter stand for a character, and a backslash,
`u` and four hexadecimal digits for a unit of the sixteen-bit form of the text, so that a
character beyond that range is given by two units.  Numbers are kept as they are written.

The line for a record is read back as its members.
-/

namespace CtorScan
namespace Report
namespace Json

/-! ## Values and readers -/

/-- A JSON value. -/
inductive Value where
  /-- No value. -/
  | null
  /-- A truth value. -/
  | bool (value : Bool)
  /-- A number, as it is written. -/
  | number (written : String)
  /-- A text. -/
  | text (value : String)
  /-- A list of values. -/
  | array (items : List Value)
  /-- Names with values, in order. -/
  | object (members : List (String × Value))

/-- A reader of something at the start of a text. -/
abbrev Reader (α : Type) := List Char -> Option (α × List Char)

/-- A character that may stand between values. -/
def isBlank (c : Char) : Bool :=
  c == ' ' || c == '\t' || c == '\n' || c == '\r'

/-- The text without leading blanks. -/
def skipBlanks (text : List Char) : List Char :=
  text.dropWhile isBlank

/-! ## Texts -/

/-- A part of a text as it is written. -/
inductive Piece where
  /-- A character. -/
  | char (c : Char)
  /-- A unit of the sixteen-bit form, given by its number. -/
  | unit (code : Nat)

/-- The character that a letter after a backslash stands for. -/
def escape? : Char -> Option Char
  | '"' => some '"'
  | '\\' => some '\\'
  | '/' => some '/'
  | 'b' => some '\x08'
  | 'f' => some '\x0c'
  | 'n' => some '\n'
  | 'r' => some '\r'
  | 't' => some '\t'
  | _ => none

/-- Read one part of a text. -/
def readPiece : Reader Piece
  | '\\' :: 'u' :: rest =>
      if 4 ≤ rest.length then
        (Number.ofDigits? 16 (rest.take 4)).map fun code => (.unit code, rest.drop 4)
      else
        none
  | '\\' :: letter :: rest => (escape? letter).map fun c => (.char c, rest)
  | ['\\'] => none
  | c :: rest => if c.toNat < 32 then none else some (.char c, rest)
  | [] => none

/-- Read the parts of a text up to the quote that ends it. -/
def readPieces : Nat -> Reader (List Piece)
  | 0, _ => none
  | _ + 1, '"' :: rest => some ([], rest)
  | bound + 1, text => do
      let (piece, rest) <- readPiece text
      let (pieces, rest) <- readPieces bound rest
      return (piece :: pieces, rest)

/-- The unit is the first of two that stand for one character. -/
def isLeading (code : Nat) : Bool :=
  0xd800 ≤ code && code < 0xdc00

/-- The unit is the second of two that stand for one character. -/
def isTrailing (code : Nat) : Bool :=
  0xdc00 ≤ code && code < 0xe000

/-- The character of a unit; a unit that is one of two but stands alone is replaced. -/
def charOfUnit (code : Nat) : Char :=
  if isLeading code || isTrailing code then Char.ofNat 0xfffd else Char.ofNat code

/-- The characters that the parts of a text stand for. -/
def charsOf : List Piece -> List Char
  | [] => []
  | .char c :: rest => c :: charsOf rest
  | .unit first :: .unit second :: rest =>
      if isLeading first && isTrailing second then
        Char.ofNat (0x10000 + (first - 0xd800) * 0x400 + (second - 0xdc00)) :: charsOf rest
      else
        charOfUnit first :: charsOf (.unit second :: rest)
  | .unit code :: rest => charOfUnit code :: charsOf rest

/-- Read a text, after the quote at its start. -/
def readText : Reader String := fun text =>
  (readPieces (text.length + 1) text).map fun (pieces, rest) =>
    (String.ofList (charsOf pieces), rest)

/-! ## Numbers -/

/-- The text is an exponent or nothing. -/
def isExponent : List Char -> Bool
  | [] => true
  | mark :: rest =>
      let digits :=
        match rest with
        | '-' :: digits => digits
        | '+' :: digits => digits
        | digits => digits
      (mark == 'e' || mark == 'E') && !digits.isEmpty && digits.all Char.isDigit

/-- The text is what may follow the whole part of a number. -/
def isFraction : List Char -> Bool
  | '.' :: rest =>
      let digits := rest.takeWhile Char.isDigit
      !digits.isEmpty && isExponent (rest.drop digits.length)
  | rest => isExponent rest

/-- The text is a number. -/
def isNumber (text : List Char) : Bool :=
  let unsigned := if text.head? == some '-' then text.drop 1 else text
  let whole := unsigned.takeWhile Char.isDigit
  (whole == ['0'] || whole.head?.any (· != '0')) && isFraction (unsigned.drop whole.length)

/-- Read a number. -/
def readNumber : Reader Value := fun text =>
  let written := text.takeWhile fun c => c.isDigit || ['-', '+', '.', 'e', 'E'].contains c
  if isNumber written then
    some (.number (String.ofList written), text.drop written.length)
  else
    none

/-! ## Values in values -/

/-- Read the values of a list after its bracket or a comma, by a reader of values. -/
def readItems (value : Reader Value) : Nat -> Reader (List Value)
  | 0, _ => none
  | bound + 1, text => do
      let (item, rest) <- value text
      match skipBlanks rest with
      | ',' :: rest =>
          let (items, rest) <- readItems value bound rest
          return (item :: items, rest)
      | ']' :: rest => return ([item], rest)
      | _ => none

/-- Read the members of an object after its brace or a comma, by a reader of values. -/
def readMembers (value : Reader Value) : Nat -> Reader (List (String × Value))
  | 0, _ => none
  | bound + 1, text =>
      match skipBlanks text with
      | '"' :: rest => do
          let (name, rest) <- readText rest
          match skipBlanks rest with
          | ':' :: rest =>
              let (item, rest) <- value rest
              match skipBlanks rest with
              | ',' :: rest =>
                  let (members, rest) <- readMembers value bound rest
                  return ((name, item) :: members, rest)
              | '\x7d' :: rest => return ([(name, item)], rest)
              | _ => none
          | _ => none
      | _ => none

/-- Read a value that is nested at most as deep as the number says. -/
def readValue : Nat -> Reader Value
  | 0, _ => none
  | depth + 1, text =>
      match skipBlanks text with
      | '"' :: rest => (readText rest).map fun (value, rest) => (.text value, rest)
      | '[' :: rest =>
          match skipBlanks rest with
          | ']' :: rest => some (.array [], rest)
          | rest =>
              (readItems (readValue depth) (rest.length + 1) rest).map
                fun (items, rest) => (.array items, rest)
      | '\x7b' :: rest =>
          match skipBlanks rest with
          | '\x7d' :: rest => some (.object [], rest)
          | rest =>
              (readMembers (readValue depth) (rest.length + 1) rest).map
                fun (members, rest) => (.object members, rest)
      | 'n' :: 'u' :: 'l' :: 'l' :: rest => some (.null, rest)
      | 't' :: 'r' :: 'u' :: 'e' :: rest => some (.bool true, rest)
      | 'f' :: 'a' :: 'l' :: 's' :: 'e' :: rest => some (.bool false, rest)
      | rest => readNumber rest

/-- The value that a text is, if it is one. -/
def decode? (text : String) : Option Value :=
  match readValue (text.length + 1) text.toList with
  | some (value, rest) => if (skipBlanks rest).isEmpty then some value else none
  | none => none

/-! ## Escapes are undone -/

theorem digitValue?_hexDigit (value : Nat) :
    Number.digitValue? (Text.hexDigit value) = some (value % 16) := by
  have single : ∀ digit < 16, Number.digitValue? (Text.hexDigit digit) = some digit := by
    decide
  have last : Text.hexDigit value = Text.hexDigit (value % 16) := by
    simp [Text.hexDigit]
  rw [last]
  exact single _ (Nat.mod_lt _ (by decide))

theorem ofDigits?_hexDigits
    {code : Nat}
    (small : code < 0x10000) :
    Number.ofDigits? 16 (Text.hexDigits 4 code) = some code := by
  have digits : Text.hexDigits 4 code =
      [Text.hexDigit (code / 16 / 16 / 16), Text.hexDigit (code / 16 / 16),
        Text.hexDigit (code / 16), Text.hexDigit code] := rfl
  simp only [digits, Number.ofDigits?, Number.ofDigits, Number.isDigitOf, digitValue?_hexDigit,
    List.all_cons, List.all_nil, List.foldl_cons, List.foldl_nil, Option.any_some,
    Option.getD_some, Nat.mod_lt _ (show 16 > 0 by decide), decide_true, Bool.and_self, if_true,
    Option.some.injEq]
  omega

theorem charsOf_unit
    {code : Nat}
    (alone : isLeading code = false)
    (rest : List Piece) :
    charsOf (.unit code :: rest) = charOfUnit code :: charsOf rest := by
  match rest with
  | [] => rfl
  | .char c :: others => rfl
  | .unit second :: others => simp [charsOf, alone]

/-- A character that is written as a number is read as that unit. -/
theorem readPiece_numbered
    {code : Nat}
    (small : code < 0x10000)
    (rest : List Char) :
    readPiece ('\\' :: 'u' :: Text.hexDigits 4 code ++ rest) = some (.unit code, rest) := by
  have length : (Text.hexDigits 4 code).length = 4 := rfl
  simp only [readPiece, List.cons_append, List.length_append, length, Nat.le_add_right, if_true]
  rw [List.take_left' length, List.drop_left' length, ofDigits?_hexDigits small]
  rfl

/-- What is written for a character is read as one part, which stands for it. -/
theorem readPiece_escapedChar
    (c : Char)
    (rest : List Char) :
    ∃ piece, readPiece (escapedChar c ++ rest) = some (piece, rest) ∧
      ∀ others, charsOf (piece :: others) = c :: charsOf others := by
  unfold escapedChar
  split_ifs with isQuote isBackslash isBackspace isFormFeed isLineFeed isReturn isTab isNumbered
  · exact ⟨.char '"', rfl, fun _ => by rw [isQuote]; rfl⟩
  · exact ⟨.char '\\', rfl, fun _ => by rw [isBackslash]; rfl⟩
  · exact ⟨.char '\x08', rfl, fun _ => by rw [isBackspace]; rfl⟩
  · exact ⟨.char '\x0c', rfl, fun _ => by rw [isFormFeed]; rfl⟩
  · exact ⟨.char '\n', rfl, fun _ => by rw [isLineFeed]; rfl⟩
  · exact ⟨.char '\r', rfl, fun _ => by rw [isReturn]; rfl⟩
  · exact ⟨.char '\t', rfl, fun _ => by rw [isTab]; rfl⟩
  · have small : c.toNat < 0xd800 := by
      rcases isNumbered with low | rfl | rfl | rfl | separator | separator
      · omega
      · decide
      · decide
      · decide
      · omega
      · omega
    refine ⟨.unit c.toNat, readPiece_numbered (by omega) rest, fun others => ?_⟩
    have notLeading : isLeading c.toNat = false := by
      simp only [isLeading, Bool.and_eq_false_iff, decide_eq_false_iff_not]
      omega
    have notTrailing : isTrailing c.toNat = false := by
      simp only [isTrailing, Bool.and_eq_false_iff, decide_eq_false_iff_not]
      omega
    rw [charsOf_unit notLeading, charOfUnit, notLeading, notTrailing]
    simp
  · refine ⟨.char c, ?_, fun _ => rfl⟩
    have visible : ¬ c.toNat < 32 := fun low => isNumbered (Or.inl low)
    simp [readPiece, isBackslash, visible]

/-- What is written for a character does not look like the end of the text. -/
theorem exists_cons_of_escapedChar (c : Char) :
    ∃ first others, escapedChar c = first :: others ∧ first ≠ '"' := by
  unfold escapedChar
  split_ifs with isQuote
  case neg => exact ⟨c, [], rfl, isQuote⟩
  all_goals exact ⟨'\\', _, rfl, by decide⟩

theorem readPieces_cons
    {first : Char}
    {others middle rest : List Char}
    {piece : Piece}
    {pieces : List Piece}
    {bound : Nat}
    (notQuote : first ≠ '"')
    (readFirst : readPiece (first :: others) = some (piece, middle))
    (read : readPieces bound middle = some (pieces, rest)) :
    readPieces (bound + 1) (first :: others) = some (piece :: pieces, rest) := by
  simp [readPieces, notQuote, readFirst, read]

/-- What is written for a text is read as parts that stand for it. -/
theorem readPieces_escaped
    (text rest : List Char)
    {bound : Nat}
    (enough : text.length < bound) :
    ∃ pieces, readPieces bound (text.flatMap escapedChar ++ '"' :: rest) = some (pieces, rest) ∧
      charsOf pieces = text := by
  induction text generalizing bound with
  | nil =>
      obtain ⟨bound, rfl⟩ := Nat.exists_eq_add_of_lt enough
      exact ⟨[], rfl, rfl⟩
  | cons c text inductionHypothesis =>
      obtain ⟨bound, rfl⟩ : ∃ smaller, bound = smaller + 1 :=
        ⟨bound - 1, by simp only [List.length_cons] at enough; omega⟩
      obtain ⟨pieces, read, stand⟩ :=
        inductionHypothesis (Nat.lt_of_succ_lt_succ enough)
      obtain ⟨piece, readFirst, standsFor⟩ :=
        readPiece_escapedChar c (text.flatMap escapedChar ++ '"' :: rest)
      obtain ⟨first, others, written, notQuote⟩ := exists_cons_of_escapedChar c
      refine ⟨piece :: pieces, ?_, by rw [standsFor, stand]⟩
      rw [written, List.cons_append] at readFirst
      rw [List.flatMap_cons, List.append_assoc, written, List.cons_append]
      exact readPieces_cons notQuote readFirst read

theorem length_le_length_flatMap_escapedChar (text : List Char) :
    text.length ≤ (text.flatMap escapedChar).length := by
  induction text with
  | nil => simp
  | cons c text inductionHypothesis =>
      obtain ⟨first, others, written, -⟩ := exists_cons_of_escapedChar c
      simp only [List.flatMap_cons, written, List.length_append, List.length_cons]
      omega

/-- A text is read back from its written form. -/
theorem readText_string
    (text : String)
    (rest : List Char) :
    readText (text.toList.flatMap escapedChar ++ '"' :: rest) = some (text, rest) := by
  have enough : text.toList.length <
      (text.toList.flatMap escapedChar ++ '"' :: rest).length + 1 := by
    have := length_le_length_flatMap_escapedChar text.toList
    simp only [List.length_append]
    omega
  obtain ⟨pieces, read, stand⟩ := readPieces_escaped text.toList rest enough
  rw [readText, read, Option.map_some]
  simp only [stand, String.ofList_toList]

/-! ## Objects are read back -/

theorem skipBlanks_cons
    {first : Char}
    (visible : isBlank first = false)
    (rest : List Char) :
    skipBlanks (first :: rest) = first :: rest := by
  simp [skipBlanks, visible]

theorem member_append
    (entry : String × String)
    (rest : List Char) :
    member entry ++ rest =
      '"' :: (entry.1.toList.flatMap escapedChar ++ '"' :: ':' :: '"' ::
        (entry.2.toList.flatMap escapedChar ++ '"' :: rest)) := by
  simp [member, string]

theorem readValue_text
    (text : String)
    (rest : List Char)
    (depth : Nat) :
    readValue (depth + 1) ('"' :: (text.toList.flatMap escapedChar ++ '"' :: rest)) =
      some (.text text, rest) := by
  rw [readValue, skipBlanks_cons (by decide)]
  change Option.map _ (readText _) = _
  rw [readText_string, Option.map_some]

/-- The last member of an object is read, up to the brace after it. -/
theorem readMembers_last
    (entry : String × String)
    (rest : List Char)
    (depth bound : Nat) :
    readMembers (readValue (depth + 1)) (bound + 1) (member entry ++ '\x7d' :: rest) =
      some ([(entry.1, .text entry.2)], rest) := by
  rw [member_append]
  simp [readMembers, skipBlanks_cons, isBlank, readText_string, readValue_text]

/-- A member of an object is read, up to the comma after it. -/
theorem readMembers_more
    (entry : String × String)
    {rest last : List Char}
    {members : List (String × Value)}
    {depth bound : Nat}
    (read : readMembers (readValue (depth + 1)) bound rest = some (members, last)) :
    readMembers (readValue (depth + 1)) (bound + 1) (member entry ++ ',' :: rest) =
      some ((entry.1, .text entry.2) :: members, last) := by
  rw [member_append]
  simp [readMembers, skipBlanks_cons, isBlank, readText_string, readValue_text, read]

/-- The members of an object whose values are texts are read in order. -/
theorem readMembers_joined
    {entries : List (String × String)}
    (given : entries ≠ [])
    (rest : List Char)
    (depth : Nat)
    {bound : Nat}
    (enough : entries.length ≤ bound) :
    readMembers (readValue (depth + 1)) bound
        (Text.joinWith [','] (entries.map member) ++ '\x7d' :: rest) =
      some (entries.map fun entry => (entry.1, .text entry.2), rest) := by
  induction entries generalizing bound with
  | nil => contradiction
  | cons entry others inductionHypothesis =>
      obtain ⟨bound, rfl⟩ : ∃ smaller, bound = smaller + 1 :=
        ⟨bound - 1, by simp only [List.length_cons] at enough; omega⟩
      cases others with
      | nil => exact readMembers_last entry rest depth bound
      | cons second others =>
          have later := inductionHypothesis (by simp) (Nat.le_of_succ_le_succ enough)
          have joined : Text.joinWith [','] ((entry :: second :: others).map member) ++
              '\x7d' :: rest =
                member entry ++ ',' ::
                  (Text.joinWith [','] ((second :: others).map member) ++ '\x7d' :: rest) := by
            simp [Text.joinWith]
          rw [joined]
          exact readMembers_more entry later

theorem exists_cons_of_joined
    {entries : List (String × String)}
    (given : entries ≠ []) :
    ∃ rest, Text.joinWith [','] (entries.map member) = '"' :: rest := by
  match entries with
  | [entry] => exact ⟨_, rfl⟩
  | entry :: second :: others => exact ⟨_, rfl⟩

theorem length_le_length_joined (entries : List (String × String)) :
    entries.length ≤ (Text.joinWith [','] (entries.map member)).length := by
  induction entries with
  | nil => simp
  | cons entry others inductionHypothesis =>
      have start : 0 < (member entry).length := by simp [member, string]
      cases others with
      | nil => exact start
      | cons second others =>
          simp only [List.map_cons, Text.joinWith, List.length_append, List.length_cons]
            at inductionHypothesis ⊢
          omega

/-- An object with members whose values are texts is read, up to what follows it. -/
theorem readValue_object
    {entries : List (String × String)}
    (given : entries ≠ [])
    (rest : List Char)
    (depth : Nat) :
    readValue (depth + 2)
        ('\x7b' :: (Text.joinWith [','] (entries.map member) ++ '\x7d' :: rest)) =
      some (.object (entries.map fun entry => (entry.1, .text entry.2)), rest) := by
  have enough : entries.length ≤
      (Text.joinWith [','] (entries.map member) ++ '\x7d' :: rest).length + 1 := by
    have := length_le_length_joined entries
    simp only [List.length_append]
    omega
  have read := readMembers_joined given rest depth enough
  obtain ⟨inside, starts⟩ := exists_cons_of_joined given
  rw [starts, List.cons_append] at read ⊢
  rw [readValue, skipBlanks_cons (by decide)]
  simp only [skipBlanks_cons (show isBlank '"' = false by decide)]
  change Option.map _ (readMembers _ _ _) = _
  rw [read, Option.map_some]

/-! ## Lines -/

/-- The line for a record without the line feed that ends it. -/
def body
    (record : Record)
    (kind : String) : String :=
  String.ofList ('\x7b' :: Text.joinWith [','] ((members record kind).map member) ++ ['\x7d'])

theorem line_eq
    (record : Record)
    (kind : String) :
    line record kind = body record kind ++ "\n" := by
  apply String.toList_inj.mp
  simp [line, body]

theorem feed_notMem_escapedChar (c : Char) :
    '\n' ∉ escapedChar c := by
  have digit : ∀ value, Text.hexDigit value ≠ '\n' := by
    intro value isFeed
    have read := digitValue?_hexDigit value
    rw [isFeed, show Number.digitValue? '\n' = none by decide] at read
    contradiction
  unfold escapedChar
  split_ifs with _ _ _ _ isFeed
  case neg => simpa using Ne.symm isFeed
  all_goals simp [Text.hexDigits, Ne.symm (digit _)]

theorem feed_notMem_member (entry : String × String) :
    '\n' ∉ member entry := by
  simp [member, string, feed_notMem_escapedChar]

theorem feed_notMem_joinWith
    {parts : List (List Char)}
    (without : ∀ part ∈ parts, '\n' ∉ part) :
    '\n' ∉ Text.joinWith [','] parts := by
  induction parts with
  | nil => simp [Text.joinWith]
  | cons part others inductionHypothesis =>
      obtain ⟨notFirst, notLater⟩ := List.forall_mem_cons.mp without
      cases others with
      | nil => simpa [Text.joinWith] using notFirst
      | cons second others => simp [Text.joinWith, notFirst, inductionHypothesis notLater]

/-- The line feed at the end of a line is the only one in it. -/
theorem feed_notMem_body
    (record : Record)
    (kind : String) :
    '\n' ∉ (body record kind).toList := by
  have inside : '\n' ∉ Text.joinWith [','] ((members record kind).map member) := by
    apply feed_notMem_joinWith
    intro part among
    obtain ⟨entry, -, rfl⟩ := List.mem_map.mp among
    exact feed_notMem_member entry
  simp [body, inside]

/-- The line for a record is read back as its members. -/
theorem decode?_body
    (record : Record)
    (kind : String) :
    decode? (body record kind) =
      some (.object ((members record kind).map fun entry => (entry.1, .text entry.2))) := by
  have given : members record kind ≠ [] := by simp [members]
  have written : (body record kind).toList =
      '\x7b' :: (Text.joinWith [','] ((members record kind).map member) ++ '\x7d' :: []) := by
    simp [body]
  have deep : (body record kind).length + 1 =
      (Text.joinWith [','] ((members record kind).map member)).length + 1 + 2 := by
    rw [← String.length_toList, written]
    simp
  rw [decode?, deep, written, readValue_object given]
  simp [skipBlanks]

-- The reader takes more than is written here: two units for one character, and blanks.
example : decode? " [ 1.5e3 , null, \"\\ud83d\\ude00\" ] " =
    some (.array [.number "1.5e3", .null, .text "😀"]) := by
  cbv

end Json
end Report
end CtorScan
