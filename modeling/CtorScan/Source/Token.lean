import CtorScan.Number.Decimal
import CtorScan.Text.Letter
import CtorScan.Text.Search
import CtorScan.Text.Utf8

/-!
# Tokens of source files

A token is the longest text at some point that is a name, a number, a quoted
text or a symbol.  The readers here look at the start of a text and give the
part of it that the token takes.
-/

namespace CtorScan
namespace Source

/-- A token. -/
inductive Token where
  /-- A name. -/
  | name (text : String)
  /-- A reserved word. -/
  | keyword (text : String)
  /-- An operator or a punctuation mark. -/
  | symbol (text : String)
  /-- A whole number. -/
  | integer (text : String)
  /-- A number with a fraction or an exponent. -/
  | decimal (text : String)
  /-- An imaginary number. -/
  | imaginary (text : String)
  /-- A character between apostrophes. -/
  | char (text : String)
  /-- A text between quotes. -/
  | string (text : String)
deriving DecidableEq, Inhabited

namespace Token

/-- The reserved words. -/
def keywords : List String :=
  ["break", "case", "chan", "const", "continue", "default", "defer", "else", "fallthrough",
   "for", "func", "go", "goto", "if", "import", "interface", "map", "package", "range",
   "return", "select", "struct", "switch", "type", "var"]

/-- The symbols, longer ones before the shorter ones they start with. -/
def symbols : List String :=
  ["<<=", ">>=", "&^=", "...",
   "&&", "||", "<-", "++", "--", "==", "!=", "<=", ">=", ":=", "+=", "-=", "*=", "/=", "%=",
   "&=", "|=", "^=", "<<", ">>", "&^",
   "+", "-", "*", "/", "%", "&", "|", "^", "<", ">", "=", "!", "(", ")", "[", "]", "\x7b",
   "\x7d", ",", ";", ".", ":", "~"]

/-- A line feed after the token ends a statement. -/
def endsStatement : Token -> Bool
  | name _ => true
  | keyword text => ["break", "continue", "fallthrough", "return"].contains text
  | symbol text => ["++", "--", ")", "]", "\x7d"].contains text
  | _ => true

end Token

/-! ## Names -/

/-- The character may start a name. -/
def startsName (c : Char) : Bool :=
  c.isAlpha || c == '_' || (0x80 ≤ c.toNat && Text.isLetter c)

/-- The character may continue a name. -/
def continuesName (c : Char) : Bool :=
  startsName c || c.isDigit || (0x80 ≤ c.toNat && Text.isDecimalDigit c)

/-- The token of a name. -/
def nameToken (text : List Char) : Token :=
  let text := String.ofList text
  if Token.keywords.contains text then .keyword text else .name text

/-! ## Numbers -/

/-- The parts of a number. -/
structure NumberParts where
  /-- The letter of its base, `0` for a plain leading zero and `d` otherwise. -/
  mark : Char
  /-- The text that announces the base. -/
  start : List Char
  /-- The digits of the whole part, with marks between them. -/
  whole : List Char
  /-- The point and the digits after it; empty when there is no point. -/
  fraction : List Char
  /-- The exponent with its letter; empty when there is none. -/
  exponent : List Char
  /-- Whether the number is imaginary. -/
  imaginary : Bool

namespace NumberParts

/-- The text that announces the base, and what follows it. -/
def splitStart : List Char -> Char × List Char × List Char
  | '0' :: c :: rest =>
      if ['x', 'o', 'b'].contains c.toLower then
        (c.toLower, ['0', c], rest)
      else
        ('0', ['0'], c :: rest)
  | ['0'] => ('0', ['0'], [])
  | text => ('d', [], text)

/-- A digit, or a mark between digits, of a number with a base. -/
def takesDigit
    (mark c : Char) : Bool :=
  c == '_' || (if mark == 'x' then Number.isDigitOf 16 c else c.isDigit)

/-- The exponent at the start of a text. -/
def exponentOf (text : List Char) : List Char :=
  match text with
  | letter :: rest =>
      if letter.toLower == 'e' || letter.toLower == 'p' then
        let (sign, rest) :=
          match rest with
          | '+' :: rest => (['+'], rest)
          | '-' :: rest => (['-'], rest)
          | rest => ([], rest)
        letter :: sign ++ rest.takeWhile (takesDigit 'd')
      else
        []
  | [] => []

/-- The parts of the number at the start of a text. -/
def ofText (text : List Char) : NumberParts :=
  let (mark, start, rest) := splitStart text
  let whole := rest.takeWhile (takesDigit mark)
  let rest := rest.drop whole.length
  let fraction :=
    match rest with
    | '.' :: rest => '.' :: rest.takeWhile (takesDigit mark)
    | _ => []
  let rest := rest.drop fraction.length
  let exponent := exponentOf rest
  let rest := rest.drop exponent.length
  ⟨mark, start, whole, fraction, exponent, rest.head? == some 'i'⟩

/-- The text without the letter of an imaginary number. -/
def body (parts : NumberParts) : List Char :=
  parts.start ++ parts.whole ++ parts.fraction ++ parts.exponent

/-- The whole text. -/
def text (parts : NumberParts) : List Char :=
  parts.body ++ (if parts.imaginary then ['i'] else [])

/-- There is neither a fraction nor an exponent. -/
def isWhole (parts : NumberParts) : Bool :=
  parts.fraction.isEmpty && parts.exponent.isEmpty

/-- There is a digit before the exponent. -/
def hasDigits (parts : NumberParts) : Bool :=
  parts.mark == '0' || parts.whole.any (· != '_') ||
    (parts.fraction.drop 1).any (· != '_')

/-- The exponent, if there is one, has digits and suits the base. -/
def hasProperExponent (parts : NumberParts) : Bool :=
  match parts.exponent with
  | [] => !(parts.mark == 'x' && !parts.fraction.isEmpty)
  | letter :: rest =>
      rest.any Char.isDigit &&
        (if letter.toLower == 'e' then
          parts.mark == 'd' || parts.mark == '0'
        else
          parts.mark == 'x')

/-- The digits of a whole number belong to its base. -/
def hasProperDigits (parts : NumberParts) : Bool :=
  !parts.isWhole || parts.imaginary ||
    (match parts.mark with
      | '0' => parts.whole.all fun c => c == '_' || Number.isDigitOf 8 c
      | 'o' => parts.whole.all fun c => c == '_' || Number.isDigitOf 8 c
      | 'b' => parts.whole.all fun c => c == '_' || Number.isDigitOf 2 c
      | _ => true)

/-- Every mark stands between digits.  The kind of the character before is
given: a digit, a mark, or neither. -/
def separates
    (hex afterDigit afterMark : Bool) : List Char -> Bool
  | [] => !afterMark
  | '_' :: rest => afterDigit && separates hex false true rest
  | c :: rest =>
      if c.isDigit || (hex && Number.isDigitOf 16 c) then
        separates hex true false rest
      else
        !afterMark && separates hex false false rest

/-- The marks of the number stand between digits, for which an announcement of
the base counts. -/
def hasProperMarks (parts : NumberParts) : Bool :=
  let announced := ['x', 'o', 'b'].contains parts.mark
  let rest := if announced then parts.text.drop 2 else parts.text
  separates (parts.mark == 'x') announced false rest

/-- The number is well formed. -/
def isProper (parts : NumberParts) : Bool :=
  parts.hasDigits && parts.hasProperExponent && parts.hasProperDigits &&
    !((parts.mark == 'o' || parts.mark == 'b') && !parts.fraction.isEmpty) &&
    parts.hasProperMarks

/-- The token of the number. -/
def token (parts : NumberParts) : Token :=
  let text := String.ofList parts.text
  if parts.imaginary then .imaginary text
  else if parts.isWhole then .integer text
  else .decimal text

end NumberParts

/-! ## Quoted texts -/

/-- The text up to the closing quote, which is not on another line. -/
def upToQuote
    (quote : Char) : List Char -> Option (List Char)
  | [] => none
  | '\\' :: c :: rest => (upToQuote quote rest).map fun text => '\\' :: c :: text
  | c :: rest =>
      if c == '\n' then none
      else if c == quote then some [c]
      else (upToQuote quote rest).map (c :: ·)

/-- A fixed number of digits as a number, and what follows them. -/
def fixedDigits
    (base count : Nat)
    (text : List Char) : Option (Nat × List Char) :=
  let digits := text.take count
  if digits.length = count && digits.all (Number.isDigitOf base) then
    some (Number.ofDigits base digits, text.drop count)
  else
    none

/-- The bytes of a character by its number, if there is such a character. -/
def bytesOfCode? (code : Nat) : Option (List Nat) :=
  if code < 0x110000 ∧ ¬ (0xd800 ≤ code ∧ code < 0xe000) then
    some (Text.bytesOfChar (Char.ofNat code))
  else
    none

/-- What an escape stands for. -/
inductive Escaped where
  /-- A character. -/
  | char (code : Nat)
  /-- A byte. -/
  | byte (value : Nat)

/-- The bytes of an escape. -/
def Escaped.bytes : Escaped -> List Nat
  | .char code => Text.bytesOfChar (Char.ofNat code)
  | .byte value => [value]

/-- The number of an escape. -/
def Escaped.code : Escaped -> Nat
  | .char code => code
  | .byte value => value

/-- Read an escape after its backslash. -/
def escape?
    (quote : Char) : List Char -> Option (Escaped × List Char)
  | [] => none
  | c :: rest =>
      if c == 'a' then some (.char 7, rest)
      else if c == 'b' then some (.char 8, rest)
      else if c == 'f' then some (.char 12, rest)
      else if c == 'n' then some (.char 10, rest)
      else if c == 'r' then some (.char 13, rest)
      else if c == 't' then some (.char 9, rest)
      else if c == 'v' then some (.char 11, rest)
      else if c == '\\' || c == quote then some (.char c.toNat, rest)
      else if c == 'x' then
        (fixedDigits 16 2 rest).map fun (value, rest) => (.byte value, rest)
      else if c == 'u' then
        (fixedDigits 16 4 rest).bind fun (code, rest) =>
          (bytesOfCode? code).map fun _ => (.char code, rest)
      else if c == 'U' then
        (fixedDigits 16 8 rest).bind fun (code, rest) =>
          (bytesOfCode? code).map fun _ => (.char code, rest)
      else
        (fixedDigits 8 3 (c :: rest)).bind fun (value, rest) =>
          if value < 256 then some (.byte value, rest) else none

/-- The characters and bytes of a text between quotes, up to the closing one. -/
def unquote?
    (quote : Char) : Nat -> List Char -> Option (List Escaped)
  | 0, _ => none
  | _, [] => none
  | _ + 1, ['\\'] => none
  | bound + 1, '\\' :: rest =>
      (escape? quote rest).bind fun (escaped, rest) =>
        (unquote? quote bound rest).map (escaped :: ·)
  | bound + 1, c :: rest =>
      if c == quote then
        if rest.isEmpty then some [] else none
      else
        (unquote? quote bound rest).map (.char c.toNat :: ·)

/-- The quote of texts without escapes. -/
def rawQuote : Char := Char.ofNat 0x60

/-- The bytes that a written text stands for. -/
def stringBytes? (text : String) : Option (List Nat) :=
  match text.toList with
  | [] => none
  | quote :: rest =>
      if quote == rawQuote then
        some (((rest.dropLast).filter (· != '\r')).flatMap Text.bytesOfChar)
      else
        (unquote? '"' (rest.length + 1) rest).map fun parts => parts.flatMap Escaped.bytes

/-- The number of the character that a written character stands for. -/
def charCode? (text : String) : Option Nat :=
  match text.toList with
  | '\'' :: rest =>
      match unquote? '\'' (rest.length + 1) rest with
      | some [escaped] => some escaped.code
      | _ => none
  | _ => none

/-! ## Comments -/

/-- The text up to the end of a comment of several lines. -/
def upToCommentEnd : List Char -> Option (List Char)
  | [] => none
  | '*' :: '/' :: _ => some ['*', '/']
  | c :: rest => (upToCommentEnd rest).map (c :: ·)

/-! ## Items -/

/-- What stands at some point of a source text. -/
inductive Item where
  /-- A token. -/
  | token (token : Token)
  /-- A comment. -/
  | comment
  /-- A blank. -/
  | blank
  /-- The end of a line. -/
  | lineEnd

/-- A quoted token at the start of a text, after its opening quote. -/
def quotedItem?
    (quote : Char)
    (rest : List Char) : Option (Item × List Char) := do
  let text := quote :: (← upToQuote quote rest)
  let written := String.ofList text
  if quote == '"' then
    let _ ← stringBytes? written
    return (.token (.string written), text)
  else
    let _ ← charCode? written
    return (.token (.char written), text)

/-- A text without escapes, after its opening quote. -/
def rawItem? (rest : List Char) : Option (Item × List Char) :=
  if rest.contains rawQuote then
    let written := rawQuote :: rest.takeWhile (· != rawQuote) ++ [rawQuote]
    some (.token (.string (String.ofList written)), written)
  else
    none

/-- The symbol at the start of a text. -/
def symbolItem? (text : List Char) : Option (Item × List Char) :=
  (Token.symbols.find? fun symbol => symbol.toList.isPrefixOf text).map fun symbol =>
    (.token (.symbol symbol), symbol.toList)

/-- The number at the start of a text. -/
def numberItem? (text : List Char) : Option (Item × List Char) :=
  let parts := NumberParts.ofText text
  if parts.isProper then some (.token parts.token, parts.text) else none

/-- The item at the start of a text, and the text that it takes. -/
def item? (text : List Char) : Option (Item × List Char) :=
  match text with
  | [] => none
  | '\n' :: _ => some (.lineEnd, ['\n'])
  | ' ' :: _ => some (.blank, [' '])
  | '\t' :: _ => some (.blank, ['\t'])
  | '\r' :: _ => some (.blank, ['\r'])
  | '/' :: '/' :: rest => some (.comment, '/' :: '/' :: rest.takeWhile (· != '\n'))
  | '/' :: '*' :: rest => (upToCommentEnd rest).map fun body => (.comment, '/' :: '*' :: body)
  | '"' :: rest => quotedItem? '"' rest
  | '\'' :: rest => quotedItem? '\'' rest
  | c :: rest =>
      if c == rawQuote then
        rawItem? rest
      else if startsName c then
        let name := c :: rest.takeWhile continuesName
        some (.token (nameToken name), name)
      else if c.isDigit || (c == '.' && rest.head?.any Char.isDigit) then
        numberItem? (c :: rest)
      else
        symbolItem? (c :: rest)

end Source
end CtorScan
