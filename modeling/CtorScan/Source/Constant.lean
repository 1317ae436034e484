import CtorScan.Number.Rounded
import CtorScan.Source.Token
import CtorScan.Text.Quoted

/-!
# Constants

Constants are computed exactly: whole numbers and fractions of any size, texts as
sequences of bytes.  A whole number stands for its binary digits in two's
complement, of which a negative number has infinitely many ones.
-/

namespace CtorScan
namespace Number

/-- The number with all binary digits inverted. -/
def complement (value : Int) : Int :=
  -value - 1

/-- The number that the digits of a number that is not negative, or else those of
its complement, make up. -/
def magnitude (value : Int) : Nat :=
  if value < 0 then (complement value).toNat else value.toNat

/-- The digits that both numbers have. -/
def bitAnd (left right : Int) : Int :=
  let a := magnitude left
  let b := magnitude right
  if left < 0 then
    if right < 0 then complement ((a ||| b : Nat) : Int)
    else ((b - (a &&& b) : Nat) : Int)
  else if right < 0 then
    ((a - (a &&& b) : Nat) : Int)
  else
    ((a &&& b : Nat) : Int)

/-- The digits that at least one of the numbers has. -/
def bitOr (left right : Int) : Int :=
  complement (bitAnd (complement left) (complement right))

/-- The digits that exactly one of the numbers has. -/
def bitXor (left right : Int) : Int :=
  bitAnd (bitOr left right) (complement (bitAnd left right))

/-- The digits that the first number has and the second has not. -/
def bitAndNot (left right : Int) : Int :=
  bitAnd left (complement right)

/-- How many binary digits a number has. -/
def bitLength (value : Int) : Nat :=
  if value = 0 then 0 else Nat.log2 value.natAbs + 1

end Number

namespace Source

/-- A constant value. -/
inductive Constant where
  /-- A truth value. -/
  | bool (value : Bool)
  /-- A text by its bytes. -/
  | string (bytes : List Nat)
  /-- A whole number. -/
  | int (value : Int)
  /-- A fraction. -/
  | float (value : Rat)
  /-- A complex number. -/
  | complex (re im : Rat)
deriving DecidableEq

instance : Inhabited Constant := ⟨.int 0⟩

namespace Constant

/-! ## Reading numbers -/

/-- The digits of a text without the marks between them. -/
def plainDigits (text : List Char) : List Char :=
  text.filter (· != '_')

/-- The base that the letter of a number stands for. -/
def baseOf (mark : Char) : Nat :=
  if mark == 'x' then 16
  else if mark == 'o' || mark == '0' then 8
  else if mark == 'b' then 2
  else 10

/-- The exponent of a number, without its letter. -/
def exponentValue (text : List Char) : Int :=
  match text with
  | '-' :: digits => -(Number.ofDigits 10 (plainDigits digits) : Int)
  | '+' :: digits => Number.ofDigits 10 (plainDigits digits)
  | digits => Number.ofDigits 10 (plainDigits digits)

/-- The value of a written number that is not imaginary. -/
def ofParts (parts : NumberParts) : Constant :=
  if parts.isWhole then
    .int (Number.ofDigits (baseOf parts.mark) (plainDigits parts.whole))
  else
    let base := if parts.mark == 'x' then 16 else 10
    let digits := plainDigits parts.whole
    let fraction := plainDigits (parts.fraction.drop 1)
    let mantissa : Rat := ((Number.ofDigits base (digits ++ fraction) : Nat) : Rat)
    let scaled := mantissa * Number.power base (-(fraction.length : Int))
    let exponent := exponentValue (parts.exponent.drop 1)
    .float (scaled * Number.power (if parts.mark == 'x' then 2 else 10) exponent)

/-- A fraction that is as large as the number. -/
def toRat? : Constant -> Option Rat
  | int value => some (value : Rat)
  | float value => some value
  | complex re im => if im = 0 then some re else none
  | _ => none

/-- The value of a written imaginary number.  A plain leading zero does not change
its base. -/
def ofImaginary (parts : NumberParts) : Constant :=
  let parts :=
    if parts.mark == '0' then { parts with mark := 'd' } else parts
  .complex 0 ((ofParts parts).toRat?.getD 0)

/-! ## Views -/

/-- The whole number that the constant is equal to. -/
def toInt? : Constant -> Option Int
  | int value => some value
  | float value => if value.den = 1 then some value.num else none
  | complex re im => if im = 0 ∧ re.den = 1 then some re.num else none
  | _ => none

/-- The real and the imaginary part of a number. -/
def toComplex? : Constant -> Option (Rat × Rat)
  | int value => some ((value : Rat), 0)
  | float value => some (value, 0)
  | complex re im => some (re, im)
  | _ => none

/-- The number is zero. -/
def isZero (constant : Constant) : Bool :=
  constant.toComplex? == some (0, 0)

/-! ## Operations -/

/-- An operation on two fractions. -/
def ratOperation (operator : String) (left right : Rat) : Option Rat :=
  match operator with
  | "+" => some (left + right)
  | "-" => some (left - right)
  | "*" => some (left * right)
  | "/" => if right = 0 then none else some (left / right)
  | _ => none

/-- An operation on two complex numbers. -/
def complexOperation
    (operator : String)
    (left right : Rat × Rat) : Option (Rat × Rat) :=
  match operator with
  | "+" => some (left.1 + right.1, left.2 + right.2)
  | "-" => some (left.1 - right.1, left.2 - right.2)
  | "*" => some (left.1 * right.1 - left.2 * right.2, left.1 * right.2 + left.2 * right.1)
  | "/" =>
      let size := right.1 * right.1 + right.2 * right.2
      if size = 0 then
        none
      else
        some ((left.1 * right.1 + left.2 * right.2) / size,
          (left.2 * right.1 - left.1 * right.2) / size)
  | _ => none

/-- An operation on two whole numbers, where division drops the fraction. -/
def intOperation (operator : String) (left right : Int) : Option Int :=
  match operator with
  | "+" => some (left + right)
  | "-" => some (left - right)
  | "*" => some (left * right)
  | "/" => if right = 0 then none else some (left.tdiv right)
  | "%" => if right = 0 then none else some (left.tmod right)
  | "&" => some (Number.bitAnd left right)
  | "|" => some (Number.bitOr left right)
  | "^" => some (Number.bitXor left right)
  | "&^" => some (Number.bitAndNot left right)
  | _ => none

/-- An operation on two numbers; the flag says that both are whole by type. -/
def numberOperation
    (operator : String)
    (whole : Bool)
    (left right : Constant) : Option Constant :=
  match left, right with
  | int a, int b =>
      if operator == "/" && !whole then
        (ratOperation operator a b).map float
      else
        (intOperation operator a b).map int
  | complex re im, b =>
      b.toComplex?.bind fun b =>
        (complexOperation operator (re, im) b).map fun value => complex value.1 value.2
  | a, complex re im =>
      a.toComplex?.bind fun a =>
        (complexOperation operator a (re, im)).map fun value => complex value.1 value.2
  | a, b =>
      match a.toRat?, b.toRat? with
      | some a, some b => (ratOperation operator a b).map float
      | _, _ => none

/-- An operation on two constants of one type. -/
def operation
    (operator : String)
    (whole : Bool)
    (left right : Constant) : Option Constant :=
  match left, right with
  | bool a, bool b =>
      match operator with
      | "&&" => some (bool (a && b))
      | "||" => some (bool (a || b))
      | _ => none
  | string a, string b => if operator == "+" then some (string (a ++ b)) else none
  | a, b => numberOperation operator whole a b

/-- What an operator says about an order. -/
def orderHolds (operator : String) (order : Ordering) : Option Bool :=
  match operator with
  | "==" => some (order == .eq)
  | "!=" => some (order != .eq)
  | "<" => some (order == .lt)
  | "<=" => some (order != .gt)
  | ">" => some (order == .gt)
  | ">=" => some (order != .lt)
  | _ => none

/-- The order of two texts by their bytes. -/
def compareBytes : List Nat -> List Nat -> Ordering
  | [], [] => .eq
  | [], _ => .lt
  | _, [] => .gt
  | a :: as, b :: bs => (compare a b).then (compareBytes as bs)

/-- The order of two fractions. -/
def compareRats (left right : Rat) : Ordering :=
  if left < right then .lt else if left = right then .eq else .gt

/-- Compare two constants of one type. -/
def comparison
    (operator : String)
    (left right : Constant) : Option Bool :=
  match left, right with
  | bool a, bool b =>
      match operator with
      | "==" => some (a == b)
      | "!=" => some (a != b)
      | _ => none
  | string a, string b => orderHolds operator (compareBytes a b)
  | a, b =>
      match a.toRat?, b.toRat? with
      | some a, some b => orderHolds operator (compareRats a b)
      | _, _ =>
          match operator with
          | "==" => some (a.toComplex? == b.toComplex?)
          | "!=" => some (a.toComplex? != b.toComplex?)
          | _ => none

/-- Shift a whole number. -/
def shifted (operator : String) (value : Int) (count : Nat) : Option Int :=
  match operator with
  | "<<" => some (value * Int.pow 2 count)
  | ">>" => some (value / Int.pow 2 count)
  | _ => none

/-- The number with its sign changed. -/
def negated : Constant -> Option Constant
  | int value => some (int (-value))
  | float value => some (float (-value))
  | complex re im => some (complex (-re) (-im))
  | _ => none

/-! ## Text -/

/-- The character for a byte of a text that is shown; a byte that belongs to no
character is written as an escape. -/
def quoteBytesAfter : Nat -> List Nat -> List Char
  | _, [] => []
  | skipped + 1, _ :: rest => quoteBytesAfter skipped rest
  | 0, byte :: rest =>
      match Text.firstChar? (byte :: rest) with
      | some (c, length) => Text.quotedChar c ++ quoteBytesAfter (length - 1) rest
      | none => '\\' :: 'x' :: Text.hexDigits 2 byte ++ quoteBytesAfter 0 rest

/-- Bytes between quotes. -/
def quoteBytes (bytes : List Nat) : String :=
  String.ofList ('"' :: quoteBytesAfter 0 bytes ++ ['"'])

/-- A long text is cut to twenty bytes, the last three of which are dots. -/
def shorten (bytes : List Nat) : List Nat :=
  if 20 < bytes.length then bytes.take 17 ++ [0x2e, 0x2e, 0x2e] else bytes

/-- The constant as it is shown. -/
def text : Constant -> String
  | bool value => if value then "true" else "false"
  | string bytes => quoteBytes (shorten bytes)
  | int value => toString value
  | float value => Number.fractionText value
  | complex re im => "(" ++ Number.fractionText re ++ " + " ++ Number.fractionText im ++ "i)"

end Constant
end Source
end CtorScan
