/-!
# Rounding fractions

A fraction is rounded to the nearest binary number with some digits, and written
with six decimal digits.
-/

namespace CtorScan
namespace Number

/-- The whole number nearest to a quotient; a tie goes to the even one. -/
def roundQuotient (numerator denominator : Nat) : Nat :=
  let floor := numerator / denominator
  let rest := numerator % denominator
  if denominator < 2 * rest ∨ (denominator = 2 * rest ∧ floor % 2 = 1) then floor + 1 else floor

/-- The quotient scaled by a power of a base. -/
def scaleQuotient
    (base : Nat)
    (exponent : Int)
    (quotient : Nat × Nat) : Nat × Nat :=
  if 0 ≤ exponent then (quotient.1, quotient.2 * Nat.pow base exponent.toNat)
  else (quotient.1 * Nat.pow base (-exponent).toNat, quotient.2)

/-- A power of a base as a fraction. -/
def power
    (base : Nat)
    (exponent : Int) : Rat :=
  if 0 ≤ exponent then ((Nat.pow base exponent.toNat : Nat) : Rat)
  else 1 / ((Nat.pow base (-exponent).toNat : Nat) : Rat)

/-- The number of binary digits of a whole number. -/
def binaryDigits (value : Nat) : Nat :=
  if value = 0 then 0 else Nat.log2 value + 1

/-- The nearest binary number with at most some digits, none of which stands below
the least exponent. -/
def roundBinary
    (digits : Nat)
    (least : Int)
    (value : Rat) : Rat :=
  let quotient := (value.num.natAbs, value.den)
  if quotient.1 = 0 then
    0
  else
    let estimate : Int := (binaryDigits quotient.1 : Int) - binaryDigits quotient.2 - digits
    let start := scaleQuotient 2 estimate quotient
    let fitted := if Nat.pow 2 digits ≤ start.1 / start.2 then estimate + 1 else estimate
    let exponent := max fitted least
    let (top, bottom) := scaleQuotient 2 exponent quotient
    let magnitude := ((roundQuotient top bottom : Nat) : Rat) * power 2 exponent
    if value.num < 0 then -magnitude else magnitude

/-- Digits without the zeros at their end. -/
def dropZeros (digits : List Char) : List Char :=
  (digits.reverse.dropWhile (· == '0')).reverse

/-- The first decimal digits of a positive quotient, one more than a count of
them, rounded, and the power of ten of the first of them. -/
def leadingDigits (more : Nat) (quotient : Nat × Nat) : List Char × Int :=
  let estimate : Int :=
    ((Nat.toDigits 10 quotient.1).length : Int) - (Nat.toDigits 10 quotient.2).length
  let start := scaleQuotient 10 (estimate - more) quotient
  let exponent := if start.1 / start.2 < Nat.pow 10 more then estimate - 1 else estimate
  let (top, bottom) := scaleQuotient 10 (exponent - more) quotient
  let value := roundQuotient top bottom
  if value = Nat.pow 10 (more + 1) then (['1'], exponent + 1) else (Nat.toDigits 10 value, exponent)

/-- The digits of an exponent, at least two. -/
def exponentDigits (exponent : Nat) : List Char :=
  let digits := Nat.toDigits 10 exponent
  if digits.length < 2 then '0' :: digits else digits

/-- Digits whose first one has a power of ten: positional from a ten-thousandth up
to a million, and else with an exponent. -/
def digitsText (allDigits : List Char) (exponent : Int) : List Char :=
  let digits := dropZeros allDigits
  if exponent < -4 ∨ 6 ≤ exponent then
    let fraction := if digits.length = 1 then [] else '.' :: digits.drop 1
    let sign := if exponent < 0 then '-' else '+'
    digits.take 1 ++ fraction ++ ['e', sign] ++ exponentDigits exponent.natAbs
  else if exponent < 0 then
    '0' :: '.' :: List.replicate (-exponent - 1).toNat '0' ++ digits
  else
    let whole := exponent.toNat + 1
    if digits.length ≤ whole then
      digits ++ List.replicate (whole - digits.length) '0'
    else
      digits.take whole ++ '.' :: digits.drop whole

/-- The number that digits stand for when the first one has a power of ten. -/
def digitsValue (digits : List Char) (exponent : Int) : Rat :=
  ((digits.foldl (fun value digit => 10 * value + (digit.toNat - '0'.toNat)) 0 : Nat) : Rat) *
    power 10 (exponent - (digits.length - 1 : Nat))

/-- The fewest digits, at least six, that stand for a double number. -/
def shortestFrom (value : Rat) : Nat -> Nat -> List Char × Int
  | 0, more => leadingDigits more (value.num.natAbs, value.den)
  | bound + 1, more =>
      let (digits, exponent) := leadingDigits more (value.num.natAbs, value.den)
      if roundBinary 53 (-1074) (digitsValue digits exponent) = value then
        (digits, exponent)
      else
        shortestFrom value bound (more + 1)

/-- A positive fraction with at most six digits, or with more if else it would look
like a whole number. -/
def positiveText (value : Rat) : List Char :=
  let (digits, exponent) := leadingDigits 5 (value.num.natAbs, value.den)
  let text := digitsText digits exponent
  if value.den = 1 ∨ text.contains '.' then
    text
  else
    let (allDigits, exponent) := shortestFrom value 11 5
    digitsText allDigits exponent

/-- A fraction as a double number is shown. -/
def fractionText (value : Rat) : String :=
  let rounded := roundBinary 53 (-1074) value
  if rounded.num = 0 then
    "0"
  else if rounded.num < 0 then
    String.ofList ('-' :: positiveText (-rounded))
  else
    String.ofList (positiveText rounded)

end Number
end CtorScan
