import CtorScan.Source.Typed

/-!
# Constants and their types

Which constants the values of a type can hold, and how they are rounded.
-/

namespace CtorScan
namespace Source

variable {π : Type}

/-- The bounds of the whole numbers of a type. -/
def Basic.bounds? : Basic -> Option (Int × Int)
  | .int8 => some (-128, 127)
  | .int16 => some (-(Int.pow 2 15), Int.pow 2 15 - 1)
  | .int32 | .rune => some (-(Int.pow 2 31), Int.pow 2 31 - 1)
  | .int | .int64 => some (-(Int.pow 2 63), Int.pow 2 63 - 1)
  | .uint8 | .byte => some (0, 255)
  | .uint16 => some (0, Int.pow 2 16 - 1)
  | .uint32 => some (0, Int.pow 2 32 - 1)
  | .uint | .uint64 | .uintptr => some (0, Int.pow 2 64 - 1)
  | _ => none

namespace Constant

/-- The fraction as a number of double precision. -/
def toDouble? (value : Rat) : Option Rat :=
  let rounded := Number.roundBinary 53 (-1074) value
  if rounded < Rat.pow 2 1024 ∧ -(Rat.pow 2 1024) < rounded then some rounded else none

/-- The fraction as a number of single precision. -/
def toSingle? (value : Rat) : Option Rat :=
  let rounded := Number.roundBinary 24 (-149) value
  if rounded < Rat.pow 2 128 ∧ -(Rat.pow 2 128) < rounded then some rounded else none

/-- A complex number with both parts rounded. -/
def roundParts?
    (round : Rat -> Option Rat)
    (constant : Constant) : Option Constant := do
  let (re, im) <- constant.toComplex?
  return .complex (<- round re) (<- round im)

/-- The constant as a value of a basic type, if the type can hold it. -/
def as? (constant : Constant) (basic : Basic) : Option Constant :=
  match basic with
  | .bool | .untypedBool =>
      match constant with
      | .bool _ => some constant
      | _ => none
  | .string | .untypedString =>
      match constant with
      | .string _ => some constant
      | _ => none
  | .float32 => constant.toRat?.bind fun value => (toSingle? value).map .float
  | .float64 => constant.toRat?.bind fun value => (toDouble? value).map .float
  | .untypedFloat => constant.toRat?.map .float
  | .complex64 => constant.roundParts? toSingle?
  | .complex128 => constant.roundParts? toDouble?
  | .untypedComplex => constant.roundParts? some
  | .untypedInt | .untypedRune => constant.toInt?.map .int
  | other =>
      match other.bounds? with
      | some (least, most) =>
          constant.toInt?.bind fun value =>
            if least ≤ value ∧ value ≤ most then some (.int value) else none
      | none => none

/-- The whole number is small enough to be a constant without a type. -/
def isModest : Constant -> Bool
  | .int value => Number.bitLength value ≤ 512
  | _ => true

/-- The text of the character with a code. -/
def ofCode (code : Int) : Constant :=
  let c := if 0 ≤ code ∧ code ≤ 0x10ffff then code.toNat else 0xfffd
  let c := if 0xd800 ≤ c ∧ c ≤ 0xdfff then 0xfffd else c
  .string ((String.singleton (Char.ofNat c)).toUTF8.toList.map UInt8.toNat)

end Constant

namespace Typed

/-- The value of a constant expression. -/
def constant? : Typed π -> Option Constant
  | .constant value _ _ => some value
  | _ => none

end Typed
end Source
end CtorScan
