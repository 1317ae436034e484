import CtorScan.Assembly.Name

/-!
# Tokens of assembly

A text is cut into the longest tokens from its start on; blanks and comments
stand between them.  A text with a character that starts no token is refused.
-/

namespace CtorScan
namespace Assembly

/-- A token. -/
inductive Token where
  /-- A word, such as a mnemonic or the name of a type. -/
  | word (text : String)
  /-- A global identifier, written with an at sign. -/
  | globalIdent (ident : Ident)
  /-- A local identifier, written with a percent sign. -/
  | localIdent (ident : Ident)
  /-- A label, written with a colon after it. -/
  | label (ident : Ident)
  /-- The number of an attribute group. -/
  | attributeGroup (number : Nat)
  /-- The name of a group of sections, written with a dollar sign. -/
  | comdatName (name : String)
  /-- The name of metadata, written with an exclamation mark. -/
  | metadataName (name : String)
  /-- The number of metadata. -/
  | metadataId (number : Nat)
  /-- A whole number. -/
  | integer (value : Int)
  /-- A number with a point or given by its bits, as it is written. -/
  | float (text : String)
  /-- A text in quotes, as it is written between them. -/
  | quoted (text : List Char)
  /-- Any other sign. -/
  | sign (c : Char)
deriving DecidableEq

namespace Token

/-- Read a text in quotes, after the first one. -/
def readQuoted (text : List Char) : Option (List Char × List Char) :=
  let inner := text.takeWhile (· != '"')
  match text.drop inner.length with
  | [] => none
  | _ :: rest => some (inner, rest)

/-- Read a name, with or without quotes, or a number. -/
def readIdent (text : List Char) : Option (Ident × List Char) :=
  match text with
  | [] => none
  | c :: rest =>
      if c == '"' then
        (readQuoted rest).map fun (inner, rest) => (.name (unescapedText inner), rest)
      else if c.isDigit then
        let digits := text.takeWhile Char.isDigit
        some (.number (Number.ofDigits 10 digits), text.drop digits.length)
      else if isNameLetter c then
        let name := text.takeWhile isNameChar
        some (.name (String.ofList name), text.drop name.length)
      else
        none

/-- Read the exponent of a number, if there is one. -/
def readExponent (text : List Char) : List Char × List Char :=
  match text with
  | e :: rest =>
      if e == 'e' || e == 'E' then
        let sign := rest.take 1 |>.filter fun c => c == '+' || c == '-'
        let digits := (rest.drop sign.length).takeWhile Char.isDigit
        if digits.isEmpty then ([], text)
        else (e :: sign ++ digits, rest.drop (sign.length + digits.length))
      else
        ([], text)
  | [] => ([], [])

/-- Read a decimal number, with or without sign. -/
def readDecimal (text : List Char) : Option (Token × List Char) :=
  let sign := text.take 1 |>.filter fun c => c == '+' || c == '-'
  let unsigned := text.drop sign.length
  let whole := unsigned.takeWhile Char.isDigit
  if whole.isEmpty then
    none
  else
    match unsigned.drop whole.length with
    | '.' :: rest =>
        let fraction := rest.takeWhile Char.isDigit
        let (exponent, rest) := readExponent (rest.drop fraction.length)
        some (.float (String.ofList (sign ++ whole ++ ['.'] ++ fraction ++ exponent)), rest)
    | rest =>
        let value : Int := Number.ofDigits 10 whole
        if sign = ['+'] then none
        else some (.integer (if sign = ['-'] then -value else value), rest)

/-- Read a number that is given by its bits. -/
def readBits (text : List Char) : Option (Token × List Char) :=
  match text with
  | '0' :: 'x' :: rest =>
      let kind := rest.take 1 |>.filter fun c => ['K', 'L', 'M', 'H', 'R'].contains c
      let digits := (rest.drop kind.length).takeWhile (Number.isDigitOf 16)
      if digits.isEmpty then none
      else some (.float (String.ofList ('0' :: 'x' :: kind ++ digits)),
        rest.drop (kind.length + digits.length))
  | letter :: '0' :: 'x' :: rest =>
      let digits := rest.takeWhile (Number.isDigitOf 16)
      if (letter == 'u' || letter == 's') && !digits.isEmpty then
        some (.integer (Number.ofDigits 16 digits), rest.drop digits.length)
      else
        none
  | _ => none

/-- Read a label, with or without quotes: it ends in a colon. -/
def readLabel (text : List Char) : Option (Token × List Char) :=
  match text with
  | '"' :: rest =>
      match readQuoted rest with
      | some (inner, ':' :: rest) => some (.label (.name (unescapedText inner)), rest)
      | _ => none
  | _ =>
      let name := text.takeWhile isNameChar
      match name, text.drop name.length with
      | _ :: _, ':' :: rest => some (.label (Ident.ofText name), rest)
      | _, _ => none

/-- A character of metadata names, in which backslashes may stand. -/
def isMetadataChar (c : Char) : Bool :=
  isNameChar c || c == '\\'

/-- Read a token that starts with an exclamation mark, after it. -/
def readMetadata (text : List Char) : Token × List Char :=
  match text with
  | c :: _ =>
      if c.isDigit then
        let digits := text.takeWhile Char.isDigit
        (.metadataId (Number.ofDigits 10 digits), text.drop digits.length)
      else if isMetadataChar c then
        let name := text.takeWhile isMetadataChar
        (.metadataName (unescapedText name), text.drop name.length)
      else
        (.sign '!', text)
  | [] => (.sign '!', [])

/-- Read a word. -/
def readWord (text : List Char) : Option (Token × List Char) :=
  match text with
  | c :: _ =>
      if isNameLetter c then
        let name := text.takeWhile isNameChar
        some (.word (String.ofList name), text.drop name.length)
      else
        none
  | [] => none

/-- A sign that is a token by itself. -/
def isSign (c : Char) : Bool :=
  [',', '=', '(', ')', '[', ']', '\x7b', '\x7d', '<', '>', '*', '|'].contains c

/-- Read the token at the start of a text that is not empty. -/
def read (text : List Char) : Option (Token × List Char) :=
  match text with
  | [] => none
  | c :: rest =>
      match readLabel text with
      | some result => some result
      | none =>
          if c == '@' then
            (readIdent rest).map fun (ident, rest) => (.globalIdent ident, rest)
          else if c == '%' then
            (readIdent rest).map fun (ident, rest) => (.localIdent ident, rest)
          else if c == '!' then
            some (readMetadata rest)
          else if c == '#' then
            match readIdent rest with
            | some (.number number, rest) => some (.attributeGroup number, rest)
            | _ => none
          else if c == '$' then
            match readIdent rest with
            | some (.name name, rest) => some (.comdatName name, rest)
            | _ => none
          else if c == '"' then
            (readQuoted rest).map fun (inner, rest) => (.quoted inner, rest)
          else if isSign c then
            some (.sign c, rest)
          else
            match readBits text with
            | some result => some result
            | none =>
                match readDecimal text with
                | some result => some result
                | none => readWord text

/-- A character between tokens. -/
def isFiller (c : Char) : Bool :=
  c == ' ' || c == '\t' || c == '\r' || c == '\n' || c.toNat == 0

/-- The text after a comment. -/
def skipComment (text : List Char) : List Char :=
  text.dropWhile fun c => c != '\r' && c != '\n'

/-- All tokens of a text. -/
def readAll
    (tokens : List Token) : Nat -> List Char -> Option (List Token)
  | 0, _ => none
  | bound + 1, text =>
      match text.dropWhile isFiller with
      | [] => some tokens.reverse
      | ';' :: rest => readAll tokens bound (skipComment rest)
      | start =>
          match read start with
          | none => none
          | some (token, rest) => readAll (token :: tokens) bound rest

/-- The tokens of a text, if it is made of tokens. -/
def ofText? (text : String) : Option (List Token) :=
  readAll [] (text.length + 1) text.toList

end Token
end Assembly
end CtorScan
