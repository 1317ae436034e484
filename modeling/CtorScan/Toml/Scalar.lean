import CtorScan.Text.Instant
import CtorScan.Text.Letter
import CtorScan.Toml.Statement

/-!
# TOML scalars

Reading texts, numbers, truth values and times.  A reader takes the characters
that are left and gives its value with the characters after it; there is one way
to fail, since a text that is not TOML is refused as a whole.
-/

namespace CtorScan
namespace Toml

/-- A reader of something at the start of a text. -/
abbrev Reader (α : Type) := List Char -> Option (α × List Char)

/-- A space or a tab. -/
def isSpace (c : Char) : Bool :=
  c == ' ' || c == '\t'

/-- The text without leading spaces and tabs. -/
def skipSpaces (text : List Char) : List Char :=
  text.dropWhile isSpace

/-- A character with a number, unless the number stands for none. -/
def charOf? (code : Nat) : Option Char :=
  if code < 0xd800 ∨ (0xdfff < code ∧ code < 0x110000) then some (Char.ofNat code) else none

/-- Read a character that is given by a number of hexadecimal digits. -/
def readCode (count : Nat) : Reader Char := fun text => do
  let digits := text.take count
  guard (digits.length = count && digits.all (Number.isDigitOf 16))
  let c <- charOf? (Number.ofDigits 16 digits)
  return (c, text.drop count)

/-- Read the rest of an escape after its backslash. -/
def readEscape : Reader Char
  | 'b' :: rest => some (Char.ofNat 8, rest)
  | 't' :: rest => some ('\t', rest)
  | 'n' :: rest => some ('\n', rest)
  | 'f' :: rest => some (Char.ofNat 12, rest)
  | 'r' :: rest => some ('\r', rest)
  | '"' :: rest => some ('"', rest)
  | '\\' :: rest => some ('\\', rest)
  | 'u' :: rest => readCode 4 rest
  | 'U' :: rest => readCode 8 rest
  | _ => none

/-- Read a text in double quotes, after the first quote. -/
def readQuoted
    (read : List Char) : Nat -> Reader String
  | 0, _ => none
  | bound + 1, text =>
      match text with
      | [] => none
      | '"' :: rest => some (String.ofList read.reverse, rest)
      | '\\' :: rest =>
          match readEscape rest with
          | some (c, rest) => readQuoted (c :: read) bound rest
          | none => none
      | c :: rest =>
          if c == '\n' || c == '\r' then none else readQuoted (c :: read) bound rest

/-- Read a text in single quotes, after the first quote. -/
def readRaw
    (read : List Char) : Reader String
  | [] => none
  | c :: rest =>
      if c == '\'' then some (String.ofList read.reverse, rest)
      else if c == '\n' || c == '\r' then none
      else readRaw (c :: read) rest

/-- The text without a line end at its start. -/
def dropLineEnd : List Char -> List Char
  | '\n' :: rest => rest
  | '\r' :: '\n' :: rest => rest
  | rest => rest

/-- At a quote: the quotes that belong to the text, and the rest after the
closing three when there are at least three.  Up to two quotes may stand right
before the closing ones. -/
def closing
    (quote : Char)
    (text : List Char) : Option (List Char × Option (List Char)) :=
  let run := text.takeWhile (· == quote)
  if run.length < 3 then
    some (run, none)
  else if run.length ≤ 5 then
    some (run.drop 3, some (text.drop run.length))
  else
    none

/-- The characters after a backslash that ends a line: everything blank up to
the next character is left out. -/
def afterLineEscape? (text : List Char) : Option (List Char) :=
  let blank := text.takeWhile fun c => isSpace c || c == '\r' || c == '\n'
  if blank.contains '\n' then some (text.drop blank.length) else none

/-- Read a text in three double quotes, after them and a first line end. -/
def readLongQuoted
    (read : List Char) : Nat -> Reader String
  | 0, _ => none
  | bound + 1, text =>
      match text with
      | [] => none
      | '"' :: _ =>
          match closing '"' text with
          | some (quotes, some rest) => some (String.ofList (read.reverse ++ quotes), rest)
          | some (quotes, none) => readLongQuoted (quotes ++ read) bound (text.drop quotes.length)
          | none => none
      | '\\' :: rest =>
          match afterLineEscape? rest with
          | some rest => readLongQuoted read bound rest
          | none =>
              match readEscape rest with
              | some (c, rest) => readLongQuoted (c :: read) bound rest
              | none => none
      | c :: rest => readLongQuoted (c :: read) bound rest

/-- Read a text in three single quotes, after them and a first line end. -/
def readLongRaw
    (read : List Char) : Nat -> Reader String
  | 0, _ => none
  | bound + 1, text =>
      match text with
      | [] => none
      | c :: rest =>
          if c == '\'' then
            match closing '\'' text with
            | some (quotes, some rest) => some (String.ofList (read.reverse ++ quotes), rest)
            | some (quotes, none) => readLongRaw (quotes ++ read) bound (text.drop quotes.length)
            | none => none
          else
            readLongRaw (c :: read) bound rest

/-- Read a text in any quotes. -/
def readText (text : List Char) : Option (String × List Char) :=
  let bound := text.length + 1
  match text with
  | '"' :: '"' :: '"' :: rest => readLongQuoted [] bound (dropLineEnd rest)
  | '"' :: rest => readQuoted [] bound rest
  | '\'' :: '\'' :: '\'' :: rest => readLongRaw [] bound (dropLineEnd rest)
  | '\'' :: rest => readRaw [] rest
  | _ => none

/-- Underscores stand between digits only. -/
def underscoresFit (number : List Char) : Bool :=
  let step (state : Bool × Bool) (c : Char) : Bool × Bool :=
    (state.1 && (c != '_' || state.2), Number.isDigitOf 16 c)
  let (fits, last) := number.foldl step (true, false)
  fits && last

/-- A decimal number has a needless zero at its start. -/
def hasLeadingZero : List Char -> Bool
  | '0' :: c :: _ => !(c == 'b' || c == 'o' || c == 'x')
  | '-' :: '0' :: _ :: _ => true
  | '+' :: '0' :: _ :: _ => true
  | _ => false

/-- The whole number that is written, if it is one of 64 bits. -/
def wholeOf? (number : List Char) : Option Int := do
  guard (underscoresFit number && !hasLeadingZero number)
  let (negative, digits) := Number.splitSign (number.filter (· != '_'))
  let value <- Number.ofAnnounced? digits
  guard (Number.fitsSigned negative value)
  return if negative then -(value : Int) else value

/-- The parts of a number between points and exponent signs, without empty
ones. -/
def numberParts (number : List Char) : List (List Char) :=
  let (parts, last) := number.foldl
    (fun (state : List (List Char) × List Char) c =>
      if c == '.' || c == 'e' || c == 'E' then (state.1 ++ [state.2], [])
      else (state.1, state.2 ++ [c])) ([], [])
  (parts ++ [last]).filter (! ·.isEmpty)

/-- A digit follows each point. -/
def pointsFit : List Char -> Bool
  | [] => true
  | '.' :: rest => (rest.head?.any Char.isDigit) && pointsFit rest
  | _ :: rest => pointsFit rest

/-- The text is a number with a fraction or an exponent in the range of 64-bit
binary numbers. -/
def isFloat (number : List Char) : Bool :=
  let parts := numberParts number
  let plain := (Number.splitSign (number.filter (· != '_'))).2
  parts.all underscoresFit && !(parts.head?.any hasLeadingZero) && pointsFit number &&
    (Number.Decimal.ofChars? plain).any Number.Decimal.fitsDouble

/-- The digits of a date and of a time of day are complete. -/
def isCompleteTime (text : List Char) : Bool :=
  let shape (pattern : String) (text : List Char) : Bool :=
    text.length = pattern.length &&
      (pattern.toList.zip text).all fun (wanted, c) =>
        if wanted == 'd' then c.isDigit else c == wanted
  let date := text.take 10
  let isDate := shape "dddd-dd-dd" date && (Text.Instant.readDate date).any List.isEmpty
  let isClock (text : List Char) : Option (List Char) :=
    if shape "dd:dd:dd" (text.take 8) then Text.Instant.readTime text else none
  match text.drop 10 with
  | [] => isDate || (isClock text).any List.isEmpty
  | 'T' :: rest =>
      (isDate && (isClock rest).any fun zone => zone.isEmpty || Text.Instant.isZone zone) ||
        (isClock text).any List.isEmpty
  | _ => (isClock text).any List.isEmpty

/-- The text is a date, a time of day, or both, where a space or a small letter
may divide them. -/
def isTime (text : List Char) : Bool :=
  isCompleteTime (text.map fun c =>
    if c == 't' || c == ' ' then 'T' else if c == 'z' then 'Z' else c)

/-- Read a date or a time of day, of which some digits were seen. -/
def readTime (text : List Char) : Option (Value × List Char) :=
  let run := text.takeWhile fun c =>
    c.isDigit || ['-', ':', 'T', 't', ' ', '.', 'Z', 'z', '+'].contains c
  let trimmed := (run.reverse.dropWhile isSpace).reverse
  if isTime trimmed then some (.time, text.drop run.length) else none

/-- Read a number with a point or an exponent. -/
def readFloat (text : List Char) : Option (Value × List Char) :=
  let run := text.takeWhile fun c => c.isDigit || ['_', '.', '-', '+', 'e', 'E'].contains c
  if isFloat run then some (.float, text.drop run.length) else none

/-- Read a decimal number with or without sign. -/
def readDecimal (text : List Char) : Option (Value × List Char) :=
  let (_, unsigned) := Number.splitSign text
  let digits := unsigned.takeWhile fun c => c.isDigit || c == '_'
  let run := text.take (text.length - unsigned.length + digits.length)
  match text.drop run.length with
  | c :: rest =>
      if c == '.' || c == 'e' || c == 'E' then
        readFloat text
      else
        (wholeOf? run).map fun value => (.integer value, c :: rest)
  | [] => (wholeOf? run).map fun value => (.integer value, [])

/-- Read a number that announces its base. -/
def readBased
    (base : Nat)
    (text : List Char) : Option (Value × List Char) :=
  let digits := (text.drop 2).takeWhile fun c => Number.isDigitOf base c || c == '_'
  if digits.head?.any (Number.isDigitOf base) then
    let run := text.take (2 + digits.length)
    (wholeOf? run).map fun value => (.integer value, text.drop run.length)
  else
    none

/-- Read a number, a date or a time that starts with a digit. -/
def readNumberOrTime (text : List Char) : Option (Value × List Char) :=
  match text with
  | '0' :: 'b' :: _ => readBased 2 text
  | '0' :: 'o' :: _ => readBased 8 text
  | '0' :: 'x' :: _ => readBased 16 text
  | _ =>
      let digits := text.takeWhile Char.isDigit
      match text.drop digits.length with
      | c :: _ =>
          if 1 < digits.length && (c == '-' || c == ':') then readTime text
          else if digits.length = 1 && digits != ['0'] && (c == '-' || c == ':') then readTime text
          else readDecimal text
      | [] => readDecimal text

/-- Read a number without a value, or an infinite one, after its sign. -/
def readSpecial : Reader Value
  | 'i' :: 'n' :: 'f' :: rest => some (.float, rest)
  | 'n' :: 'a' :: 'n' :: rest => some (.float, rest)
  | _ => none

/-- Read a truth value. -/
def readBool (text : List Char) : Option (Value × List Char) :=
  let word := text.takeWhile Text.isLetter
  if word = "true".toList then some (.bool true, text.drop 4)
  else if word = "false".toList then some (.bool false, text.drop 5)
  else none

/-- Read a number after a sign; the text still holds the sign.  Only decimal
numbers have one. -/
def readSigned (text : List Char) : Option (Value × List Char) :=
  match text.drop 1 with
  | '0' :: 'b' :: _ | '0' :: 'o' :: _ | '0' :: 'x' :: _ => none
  | c :: rest => if c.isDigit then readDecimal text else readSpecial (c :: rest)
  | [] => none

/-- Read a value that holds no other values. -/
def readScalar (text : List Char) : Option (Value × List Char) :=
  match text with
  | [] => none
  | c :: _ =>
      if c == '"' || c == '\'' then
        (readText text).map fun (value, rest) => (.text value, rest)
      else if c.isDigit then
        readNumberOrTime text
      else if c == '-' || c == '+' then
        readSigned text
      else
        match readSpecial text with
        | some result => some result
        | none => readBool text

end Toml
end CtorScan
