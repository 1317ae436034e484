import CtorScan.Number.Decimal

/-!
# Binary numbers of 64 bits

A finite binary number is a whole number of at most 53 bits scaled by a power of
two.  Its exact value is a decimal number with finitely many digits, and a
decimal number has a nearest binary one.
-/

namespace CtorScan
namespace Number

/-- A finite number without sign: a whole number scaled by a power of two. -/
structure Scaled where
  /-- The whole number. -/
  mantissa : Nat
  /-- The power of two. -/
  exponent : Int
deriving DecidableEq, Inhabited

namespace Scaled

/-- The number of binary digits of a whole number. -/
def bitCount (value : Nat) : Nat :=
  if value = 0 then 0 else Nat.log2 value + 1

/-- The exact decimal value. -/
def toDecimal (number : Scaled) : Decimal :=
  if 0 ≤ number.exponent then
    ⟨number.mantissa * Nat.pow 2 number.exponent.toNat, 0⟩
  else
    ⟨number.mantissa * Nat.pow 5 (-number.exponent).toNat, number.exponent⟩

/-- The binary number nearest to a quotient of whole numbers, ties going to an
even mantissa, and whether it is exact.  The mantissa has at most 53 bits, and
the exponent is at least -1074. -/
def ofQuotient (numerator denominator : Nat) : Scaled × Bool :=
  if numerator = 0 then
    (⟨0, -1074⟩, true)
  else
    let estimate : Int := (bitCount numerator : Int) - bitCount denominator - 53
    let scale (exponent : Int) : Nat × Nat :=
      if 0 ≤ exponent then (numerator, denominator * Nat.pow 2 exponent.toNat)
      else (numerator * Nat.pow 2 (-exponent).toNat, denominator)
    let start := scale estimate
    let shifted := if Nat.pow 2 53 ≤ start.1 / start.2 then estimate + 1 else estimate
    let exponent := max shifted (-1074)
    let (top, bottom) := scale exponent
    let floor := top / bottom
    let rest := top % bottom
    let mantissa :=
      if bottom < 2 * rest ∨ (bottom = 2 * rest ∧ floor % 2 = 1) then floor + 1 else floor
    if mantissa = Nat.pow 2 53 then
      (⟨Nat.pow 2 52, exponent + 1⟩, rest = 0)
    else
      (⟨mantissa, exponent⟩, rest = 0)

/-- The binary number nearest to a decimal one, and whether it is exact. -/
def ofDecimal (number : Decimal) : Scaled × Bool :=
  if 0 ≤ number.exponent then
    ofQuotient (number.digits * Nat.pow 10 number.exponent.toNat) 1
  else
    ofQuotient number.digits (Nat.pow 10 (-number.exponent).toNat)

/-- The 63 bits of a number without its sign, when it is in range. -/
def toBits (number : Scaled) : Nat :=
  if number.mantissa < Nat.pow 2 52 then
    number.mantissa
  else
    (number.exponent + 1075).toNat * Nat.pow 2 52 + (number.mantissa - Nat.pow 2 52)

/-- The number with some 63 bits, unless it is infinite or no number. -/
def ofBits? (bits : Nat) : Option Scaled :=
  let field : Nat := bits / Nat.pow 2 52 % Nat.pow 2 11
  let fraction := bits % Nat.pow 2 52
  if field = 2047 then none
  else if field = 0 then some ⟨fraction, -1074⟩
  else some ⟨Nat.pow 2 52 + fraction, (field : Int) - 1075⟩

/-- The number is a multiple of a power of two with a mantissa of some bits. -/
def fitsBits
    (number : Scaled)
    (bits : Nat) : Bool :=
  let extra := bitCount number.mantissa - bits
  number.mantissa % Nat.pow 2 extra = 0

end Scaled

namespace Decimal

/-- The same number with no zero at the end of its digits, when there are at most
as many as the number says. -/
def trimUpTo : Nat -> Decimal -> Decimal
  | 0, number => number
  | bound + 1, number =>
      if number.digits ≠ 0 ∧ number.digits % 10 = 0 then
        trimUpTo bound ⟨number.digits / 10, number.exponent + 1⟩
      else
        number

/-- The same number with no zero at the end of its digits. -/
def trim (number : Decimal) : Decimal :=
  trimUpTo (digitCount number.digits) number

/-- Two distances from a number: one in units of a power of ten, the other half
a unit of a power of two. -/
def isWithinHalf
    (distance : Nat)
    (tens twos : Int)
    (inclusive : Bool) : Bool :=
  let left := distance * (if 0 ≤ tens then Nat.pow 10 tens.toNat else 1) *
    (if twos - 1 < 0 then Nat.pow 2 (1 - twos).toNat else 1)
  let right := (if 0 ≤ twos - 1 then Nat.pow 2 (twos - 1).toNat else 1) *
    (if tens < 0 then Nat.pow 10 (-tens).toNat else 1)
  if inclusive then left ≤ right else left < right

/-- The digits of a trimmed number are the fewest that lead back to a binary
number which has exactly this value. -/
def isShortest
    (number : Decimal)
    (binary : Scaled) : Bool :=
  if number.digits < 10 then
    true
  else
    let last := number.digits % 10
    let even := binary.mantissa % 2 = 0
    let below := isWithinHalf last number.exponent
      (if binary.mantissa = Nat.pow 2 52 then binary.exponent - 1 else binary.exponent) even
    let above := isWithinHalf (10 - last) number.exponent binary.exponent even
    !(below || above)

/-- Zeros in number. -/
def zeros (count : Nat) : List Char :=
  List.replicate count '0'

/-- The exponent of ten after a number, with a sign and at least two digits. -/
def exponentText (exponent : Int) : List Char :=
  let digits := Nat.toDigits 10 exponent.natAbs
  (if exponent < 0 then '-' else '+') :: (if digits.length < 2 then '0' :: digits else digits)

/-- The written form: positional from a ten-thousandth up to a million, and else
with an exponent; there is always a point. -/
def text (number : Decimal) : String :=
  if number.digits = 0 then
    "0.0"
  else
    let trimmed := number.trim
    let digits := Nat.toDigits 10 trimmed.digits
    let magnitude := (digits.length : Int) + trimmed.exponent - 1
    if magnitude < -4 ∨ 6 ≤ magnitude then
      let fraction := if digits.length = 1 then ['0'] else digits.drop 1
      String.ofList (digits.take 1 ++ ['.'] ++ fraction ++ ['e'] ++ exponentText magnitude)
    else if magnitude < 0 then
      String.ofList ('0' :: '.' :: zeros (-magnitude - 1).toNat ++ digits)
    else if digits.length ≤ magnitude.toNat + 1 then
      String.ofList (digits ++ zeros (magnitude.toNat + 1 - digits.length) ++ ['.', '0'])
    else
      String.ofList
        (digits.take (magnitude.toNat + 1) ++ ['.'] ++ digits.drop (magnitude.toNat + 1))

end Decimal
end Number
end CtorScan
