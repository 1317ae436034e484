import CtorScan.Assembly.Ty
import CtorScan.Number.Binary

/-!
# Numbers with a point

A number is shown by its decimal digits when these are its exact value, and else
by its bits.
-/

namespace CtorScan
namespace Assembly
namespace Literal

/-- Upper-case hexadecimal digits, at least as many as the number says. -/
def bitsText
    (width value : Nat) : String :=
  let digits := (Nat.toDigits 16 value).map Char.toUpper
  String.ofList (List.replicate (width - digits.length) '0' ++ digits)

/-- The number with some bits of a format of sixteen bits, unless it is infinite
or no number. -/
def ofHalfBits? (bits : Nat) : Option Number.Scaled :=
  let field : Nat := bits / Nat.pow 2 10 % Nat.pow 2 5
  let fraction := bits % Nat.pow 2 10
  if field = 31 then none
  else if field = 0 then some ⟨fraction, -24⟩
  else some ⟨Nat.pow 2 10 + fraction, (field : Int) - 25⟩

/-- The same number with a mantissa of 53 bits where that is possible. -/
def normalized (number : Number.Scaled) : Number.Scaled :=
  if 0 ≤ number.exponent then
    (Number.Scaled.ofQuotient (number.mantissa * Nat.pow 2 number.exponent.toNat) 1).1
  else
    (Number.Scaled.ofQuotient number.mantissa (Nat.pow 2 (-number.exponent).toNat)).1

/-- The shown form of a finite number: its digits if they are exact, and else
its bits; of the short format the bits beyond its mantissa are cleared. -/
def shown
    (format : FloatFormat)
    (negative : Bool)
    (number : Number.Scaled)
    (exact : Bool) : String :=
  let mantissaBits := if format = .half then 11 else if format = .single then 24 else 53
  let decimal := number.toDecimal.trim
  if exact && number.fitsBits mantissaBits && decimal.isShortest number then
    (if negative then "-" else "") ++ decimal.text
  else
    let bits := (if negative then Nat.pow 2 63 else 0) + number.toBits
    let kept := if format = .single then bits / Nat.pow 2 29 * Nat.pow 2 29 else bits
    "0x" ++ bitsText 1 kept

/-- The shown form of a number that is given by its bits. -/
def shownBits?
    (format : FloatFormat)
    (text : List Char) : Option String :=
  match text with
  | 'H' :: digits =>
      let bits := Number.ofDigits 16 digits
      match ofHalfBits? bits with
      | some number => some (shown .half (bits / Nat.pow 2 15 % 2 = 1) (normalized number) true)
      | none => some ("0xH" ++ bitsText 4 bits)
  | 'K' :: digits => some ("0xK" ++ bitsText 20 (Number.ofDigits 16 digits))
  | 'L' :: digits => some ("0xL" ++ bitsText 32 (Number.ofDigits 16 digits))
  | 'M' :: digits => some ("0xM" ++ bitsText 32 (Number.ofDigits 16 digits))
  | 'R' :: _ => none
  | digits =>
      let bits := Number.ofDigits 16 digits
      match Number.Scaled.ofBits? (bits % Nat.pow 2 63) with
      | some number => some (shown format (bits / Nat.pow 2 63 % 2 = 1) number true)
      | none => some ("0x" ++ bitsText 1 bits)

/-- The shown form of a number with a point that stands where a format is
wanted. -/
def text?
    (format : FloatFormat)
    (text : String) : Option String :=
  match text.toList with
  | '0' :: 'x' :: bits => shownBits? format bits
  | chars =>
      let negative := chars.head? = some '-'
      let unsigned := chars.dropWhile fun c => c == '-' || c == '+'
      (Number.Decimal.ofChars? unsigned).map fun decimal =>
        let (number, exact) := Number.Scaled.ofDecimal decimal
        shown format negative number exact

end Literal
end Assembly
end CtorScan
