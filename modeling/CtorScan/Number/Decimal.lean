/-!
# Decimal numbers

A decimal number is a whole number of digits scaled by a power of ten.  It is
kept exactly; whether it fits a binary format is a comparison of whole numbers.
-/

namespace CtorScan
namespace Number

/-- The value of a digit in bases up to sixteen. -/
def digitValue? (c : Char) : Option Nat :=
  if '0' ≤ c ∧ c ≤ '9' then some (c.toNat - '0'.toNat)
  else if 'a' ≤ c ∧ c ≤ 'f' then some (c.toNat - 'a'.toNat + 10)
  else if 'A' ≤ c ∧ c ≤ 'F' then some (c.toNat - 'A'.toNat + 10)
  else none

/-- The character is a digit of the base. -/
def isDigitOf
    (base : Nat)
    (c : Char) : Bool :=
  (digitValue? c).any (· < base)

/-- The number that digits denote in a base, each digit counted from the left. -/
def ofDigits
    (base : Nat)
    (digits : List Char) : Nat :=
  digits.foldl (fun value digit => base * value + (digitValue? digit).getD 0) 0

/-- The number that a text of digits denotes in a base; there may be no digit. -/
def ofDigits?
    (base : Nat)
    (digits : List Char) : Option Nat :=
  if digits.all (isDigitOf base) then some (ofDigits base digits) else none

/-- An exact decimal number without sign. -/
structure Decimal where
  /-- The digits, read as a whole number. -/
  digits : Nat
  /-- The power of ten that scales them. -/
  exponent : Int
deriving DecidableEq, Inhabited

namespace Decimal

/-- The exponent that follows a number: `e` or `E`, a sign, and digits. -/
def exponent? : List Char -> Option Int
  | [] => some 0
  | c :: rest =>
      if c == 'e' || c == 'E' then
        let (negative, digits) :=
          match rest with
          | '-' :: digits => (true, digits)
          | '+' :: digits => (false, digits)
          | digits => (false, digits)
        if digits.isEmpty then
          none
        else
          (ofDigits? 10 digits).map fun value => if negative then -(value : Int) else value
      else
        none

/-- Read a number: digits with at most one point among or around them, and
perhaps an exponent. -/
def ofChars? (text : List Char) : Option Decimal :=
  let whole := text.takeWhile Char.isDigit
  let afterWhole := text.dropWhile Char.isDigit
  let (fraction, tail) :=
    match afterWhole with
    | '.' :: rest => (rest.takeWhile Char.isDigit, rest.dropWhile Char.isDigit)
    | rest => ([], rest)
  if whole.isEmpty && fraction.isEmpty then
    none
  else
    (exponent? tail).map fun exponent =>
      ⟨ofDigits 10 (whole ++ fraction), exponent - fraction.length⟩

/-- The number of decimal digits of a whole number. -/
def digitCount (value : Nat) : Nat :=
  (Nat.toDigits 10 value).length

/-- The number is at least as large as a whole number. -/
def isAtLeast
    (number : Decimal)
    (bound : Nat) : Bool :=
  if number.digits = 0 then
    bound = 0
  else
    let magnitude := (digitCount number.digits : Int) + number.exponent
    if (digitCount bound : Int) + 1 < magnitude then
      true
    else if magnitude < -1 then
      bound = 0
    else if 0 ≤ number.exponent then
      bound ≤ number.digits * Nat.pow 10 number.exponent.toNat
    else
      bound * Nat.pow 10 (-number.exponent).toNat ≤ number.digits

/-- The least whole number that no binary number of 64 bits is near to. -/
def doubleLimit : Nat :=
  Nat.pow 2 1024 - Nat.pow 2 970

/-- The number is in the range of binary numbers of 64 bits. -/
def fitsDouble (number : Decimal) : Bool :=
  !number.isAtLeast doubleLimit

end Decimal
end Number
end CtorScan
