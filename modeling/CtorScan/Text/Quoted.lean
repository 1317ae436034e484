import CtorScan.Text.Printable

/-!
# Quoted texts

Names that come from the user are shown in messages between double quotes.
Printable characters stand for themselves; quotes, backslashes and everything
that cannot be shown are escaped.
-/

namespace CtorScan
namespace Text

/-- One lower-case hexadecimal digit. -/
def hexDigit (value : Nat) : Char :=
  if value % 16 < 10 then
    Char.ofNat (48 + value % 16)
  else
    Char.ofNat (87 + value % 16)

/-- The last `width` hexadecimal digits of a number. -/
def hexDigits : Nat -> Nat -> List Char
  | 0, _ => []
  | width + 1, value => hexDigits width (value / 16) ++ [hexDigit value]

/-- The letter that follows a backslash in the short escapes of controls. -/
def shortEscape? (c : Char) : Option Char :=
  match c.toNat with
  | 7 => some 'a'
  | 8 => some 'b'
  | 9 => some 't'
  | 10 => some 'n'
  | 11 => some 'v'
  | 12 => some 'f'
  | 13 => some 'r'
  | _ => none

/-- One character as it stands between the quotes. -/
def quotedChar (c : Char) : List Char :=
  if c = '"' ∨ c = '\\' then
    ['\\', c]
  else if isPrintable c then
    [c]
  else
    match shortEscape? c with
    | some letter => ['\\', letter]
    | none =>
        if c.toNat < 128 then
          '\\' :: 'x' :: hexDigits 2 c.toNat
        else if c.toNat < 0x10000 then
          '\\' :: 'u' :: hexDigits 4 c.toNat
        else
          '\\' :: 'U' :: hexDigits 8 c.toNat

/-- The text between double quotes, with escapes. -/
def quoted (text : String) : String :=
  String.ofList ('"' :: text.toList.flatMap quotedChar ++ ['"'])

end Text
end CtorScan
