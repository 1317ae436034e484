import CtorScan.Number.Decimal

/-!
# Whole numbers as they are written

A whole number may say its base itself: `0x`, `0b` and `0o` stand for sixteen,
two and eight, and a plain leading zero for eight.
-/

namespace CtorScan
namespace Number

/-- The base that a number announces, and its digits. -/
def announcedBase : List Char -> Nat × List Char
  | '0' :: letter :: digit :: rest =>
      if letter == 'x' || letter == 'X' then (16, digit :: rest)
      else if letter == 'b' || letter == 'B' then (2, digit :: rest)
      else if letter == 'o' || letter == 'O' then (8, digit :: rest)
      else (8, letter :: digit :: rest)
  | '0' :: rest => (8, rest)
  | digits => (10, digits)

/-- Read a number without sign that announces its base. -/
def ofAnnounced? (text : List Char) : Option Nat :=
  if text.isEmpty then
    none
  else
    let (base, digits) := announcedBase text
    ofDigits? base digits

/-- The sign of a number, and what follows it. -/
def splitSign : List Char -> Bool × List Char
  | '-' :: rest => (true, rest)
  | '+' :: rest => (false, rest)
  | rest => (false, rest)

/-- The number is in the range of signed numbers of 64 bits. -/
def fitsSigned
    (negative : Bool)
    (value : Nat) : Bool :=
  if negative then value ≤ Nat.pow 2 63 else value < Nat.pow 2 63

/-- The text is a signed number of 64 bits that announces its base. -/
def isAnnouncedSigned (text : List Char) : Bool :=
  let (negative, digits) := splitSign text
  (ofAnnounced? digits).any (fitsSigned negative)

/-- The text is a number of 64 bits without sign that announces its base. -/
def isAnnouncedUnsigned (text : List Char) : Bool :=
  (ofAnnounced? text).any (· < Nat.pow 2 64)

/-- The text is a number of 64 bits in a base, with or without sign. -/
def isWholeOf
    (base : Nat)
    (text : List Char) : Bool :=
  let (negative, digits) := splitSign text
  (!digits.isEmpty && (ofDigits? base digits).any (fitsSigned negative)) ||
    (!text.isEmpty && (ofDigits? base text).any (· < Nat.pow 2 64))

/-- Why a text is no number of 64 bits. -/
inductive Misreading where
  /-- It is not written like a number. -/
  | malformed
  /-- The number is too large or too small. -/
  | outOfRange
deriving DecidableEq

/-- Read digits from the left, with marks between them passed over.  The number
gets out of range at the digit that makes it too large, whatever follows. -/
def accumulate
    (base limit value : Nat) : List Char -> Except Misreading Nat
  | [] => .ok value
  | '_' :: rest => accumulate base limit value rest
  | digit :: rest =>
      match digitValue? digit with
      | none => .error .malformed
      | some unit =>
          if base ≤ unit then .error .malformed
          else if limit ≤ base * value + unit then .error .outOfRange
          else accumulate base limit (base * value + unit) rest

/-- Every mark stands between digits; whether there is a digit before the text,
and whether a mark, is given. -/
def marksStandBetween
    (afterDigit afterMark : Bool) : List Char -> Bool
  | [] => !afterMark
  | '_' :: rest => afterDigit && marksStandBetween false true rest
  | _ :: rest => marksStandBetween true false rest

/-- The marks of a number that announces its base.  An announcement counts as a
digit. -/
def hasProperMarks (text : List Char) : Bool :=
  match announcedBase text with
  | (16, digits) => marksStandBetween true false digits
  | (2, digits) => marksStandBetween true false digits
  | _ =>
      match text with
      | '0' :: 'o' :: rest => marksStandBetween true false rest
      | '0' :: 'O' :: rest => marksStandBetween true false rest
      | _ => marksStandBetween false false text

/-- Read a number without sign that announces its base and may have marks
between its digits. -/
def readAnnounced (text : List Char) : Except Misreading Nat :=
  if text.isEmpty then
    .error .malformed
  else
    let (base, digits) := announcedBase text
    match accumulate base (Nat.pow 2 64) 0 digits with
    | .error misreading => .error misreading
    | .ok value => if hasProperMarks text then .ok value else .error .malformed

/-- Read a signed number that announces its base. -/
def readSigned (text : List Char) : Except Misreading Int :=
  let (negative, digits) := splitSign text
  match readAnnounced digits with
  | .error misreading => .error misreading
  | .ok value =>
      if fitsSigned negative value then
        .ok (if negative then -(value : Int) else value)
      else
        .error .outOfRange

end Number
end CtorScan
