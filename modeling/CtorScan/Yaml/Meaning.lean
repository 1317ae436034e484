import CtorScan.Number.Whole
import CtorScan.Text.Instant
import CtorScan.Text.Utf8

/-!
# What a scalar means

An unquoted scalar is a null, a truth value, a number, a time or a text,
depending on how it is written.  A tag may ask for one of these meanings; then
the scalar has to be written that way.  Bytes are written with 64 characters:
four of them stand for three bytes, the last group may be filled up with one or
two equals signs, and line ends between them do not count.
-/

namespace CtorScan
namespace Yaml

namespace Base64

/-- The six bits that a character stands for. -/
def value? (c : Char) : Option Nat :=
  if c.isUpper then some (c.toNat - 65)
  else if c.isLower then some (c.toNat - 97 + 26)
  else if c.isDigit then some (c.toNat - 48 + 52)
  else if c == '+' then some 62
  else if c == '/' then some 63
  else none

/-- The bytes of groups of four characters. -/
def decodeGroups : List Char -> Option (List Nat)
  | [] => some []
  | [a, b, '=', '='] =>
      match value? a, value? b with
      | some a, some b => some [a * 4 + b / 16]
      | _, _ => none
  | [a, b, c, '='] =>
      match value? a, value? b, value? c with
      | some a, some b, some c => some [a * 4 + b / 16, b % 16 * 16 + c / 4]
      | _, _, _ => none
  | a :: b :: c :: d :: rest =>
      match value? a, value? b, value? c, value? d, decodeGroups rest with
      | some a, some b, some c, some d, some bytes =>
          some ((a * 4 + b / 16) :: (b % 16 * 16 + c / 4) :: (c % 4 * 64 + d) :: bytes)
      | _, _, _, _, _ => none
  | _ => none

/-- The text that the characters stand for. -/
def decode? (text : List Char) : Option (List Char) :=
  (decodeGroups (text.filter fun c => c != '\r' && c != '\n')).map Text.charsOfBytes

end Base64
/-- The meaning of a scalar. -/
inductive Meaning where
  /-- No value. -/
  | null
  /-- A truth value. -/
  | bool (value : Bool)
  /-- A whole number. -/
  | integer
  /-- A number with a fraction or an exponent, or no finite number. -/
  | float
  /-- A date or a time. -/
  | timestamp
  /-- The sign for merged keys. -/
  | merge
  /-- A text. -/
  | text
deriving DecidableEq

namespace Meaning

/-- The tag of a meaning. -/
def tag : Meaning -> String
  | .null => "!!null"
  | .bool _ => "!!bool"
  | .integer => "!!int"
  | .float => "!!float"
  | .timestamp => "!!timestamp"
  | .merge => "!!merge"
  | .text => "!!str"

/-- The words that have a meaning of their own. -/
def ofWord? (word : String) : Option Meaning :=
  if ["true", "True", "TRUE"].contains word then some (.bool true)
  else if ["false", "False", "FALSE"].contains word then some (.bool false)
  else if ["", "~", "null", "Null", "NULL"].contains word then some .null
  else if [".nan", ".NaN", ".NAN", ".inf", ".Inf", ".INF", "+.inf", "+.Inf", "+.INF",
      "-.inf", "-.Inf", "-.INF"].contains word then some .float
  else if word = "<<" then some .merge
  else none

/-- The text is a whole number in one of the accepted bases. -/
def isInteger (text : List Char) : Bool :=
  Number.isAnnouncedSigned text || Number.isAnnouncedUnsigned text ||
    (match text with
      | '0' :: 'b' :: digits => Number.isWholeOf 2 digits
      | '-' :: '0' :: 'b' :: digits => Number.isWholeOf 2 ('-' :: digits)
      | '0' :: 'o' :: digits => Number.isWholeOf 8 digits
      | '-' :: '0' :: 'o' :: digits => Number.isWholeOf 8 ('-' :: digits)
      | _ => false)

/-- The text is a decimal number in the range of binary numbers of 64 bits. -/
def isFloat (text : List Char) : Bool :=
  (Number.Decimal.ofChars? (Number.splitSign text).2).any Number.Decimal.fitsDouble

/-- The meaning of a text that starts like a number.  Only an untagged text, or
one that is asked for as a time, is read as a time. -/
def ofNumberLike
    (mayBeTime : Bool)
    (text : List Char) : Meaning :=
  let plain := text.filter (· != '_')
  if mayBeTime && Text.Instant.isInstant text then .timestamp
  else if isInteger plain then .integer
  else if isFloat plain then .float
  else .text

/-- The meaning of an unquoted text, which may be asked for as a tag. -/
def ofText
    (wanted text : String) : Meaning :=
  if wanted = "!!str" ∨ wanted = "!!binary" then
    .text
  else
    match ofWord? text with
    | some meaning => meaning
    | none =>
        match text.toList with
        | [] => .text
        | c :: rest =>
            if c.isDigit || c == '+' || c == '-' then
              ofNumberLike (wanted = "" || wanted = "!!timestamp") (c :: rest)
            else if c == '.' then
              if isFloat (c :: rest) then .float else .text
            else
              .text

/-- A text with the meaning may stand where a tag is asked for: any text is a
string or binary data, and a whole number is a number. -/
def fits
    (meaning : Meaning)
    (wanted : String) : Bool :=
  wanted = "" || wanted = meaning.tag || wanted = "!!str" || wanted = "!!binary" ||
    (wanted = "!!float" && meaning = .integer)

end Meaning
end Yaml
end CtorScan
