import CtorScan.Number.Decimal
import CtorScan.Text.Quoted
import CtorScan.Text.Utf8

/-!
# Names in assembly

Functions, values, blocks and types have names or numbers.  A name that is not
made of letters, digits and a few signs is written in quotes, in which a
backslash and two hexadecimal digits stand for a byte.
-/

namespace CtorScan
namespace Assembly

/-- A name or a number. -/
inductive Ident where
  /-- A name. -/
  | name (text : String)
  /-- A number in place of a name. -/
  | number (value : Nat)
deriving DecidableEq, Inhabited

/-- A letter or one of the signs that names may hold. -/
def isNameLetter (c : Char) : Bool :=
  c.isAlpha || c == '-' || c == '$' || c == '.' || c == '_'

/-- A character that names may hold without quotes. -/
def isNameChar (c : Char) : Bool :=
  isNameLetter c || c.isDigit

/-- The bytes of a text in which a backslash and two hexadecimal digits stand
for a byte, and two backslashes for one. -/
def unescape : List Char -> List Nat
  | '\\' :: '\\' :: rest => '\\'.toNat :: unescape rest
  | '\\' :: high :: low :: rest =>
      match Number.digitValue? high, Number.digitValue? low with
      | some high, some low => (16 * high + low) :: unescape rest
      | _, _ => '\\'.toNat :: unescape (high :: low :: rest)
  | c :: rest => Text.bytesOfChar c ++ unescape rest
  | [] => []

/-- The text behind an escaped one. -/
def unescapedText (text : List Char) : String :=
  String.ofList (Text.charsOfBytes (unescape text))

/-- One upper-case hexadecimal digit. -/
def upperHexDigit (value : Nat) : Char :=
  (Text.hexDigit value).toUpper

/-- A byte as it stands between quotes. -/
def escapedByte (byte : Nat) : List Char :=
  if 0x20 ≤ byte ∧ byte ≤ 0x7e ∧ byte ≠ '"'.toNat ∧ byte ≠ '\\'.toNat then
    [Char.ofNat byte]
  else
    ['\\', upperHexDigit (byte / 16), upperHexDigit byte]

/-- Bytes between quotes, with escapes. -/
def quotedBytes (bytes : List Nat) : String :=
  String.ofList ('"' :: bytes.flatMap escapedByte ++ ['"'])

/-- A name as it is written: in quotes when it needs them. -/
def writtenName (name : String) : String :=
  if name.toList.all isNameChar then
    name
  else
    quotedBytes (Text.bytesOfChars name.toList)

namespace Ident

/-- The name, which is empty for a number. -/
def nameText : Ident -> String
  | .name text => text
  | .number _ => ""

/-- The identifier as it is written after its sign; a name of digits only is
told from a number by quotes. -/
def written : Ident -> String
  | .name text =>
      if text ≠ "" ∧ text.toList.all Char.isDigit then "\"" ++ text ++ "\"" else writtenName text
  | .number value => toString value

/-- The identifier that a text without quotes stands for. -/
def ofText (text : List Char) : Ident :=
  if !text.isEmpty && text.all Char.isDigit then
    .number (Number.ofDigits 10 text)
  else
    .name (String.ofList text)

end Ident
end Assembly
end CtorScan
