import CtorScan.Text.Search

/-!
# Dates and times in texts

A date is a year of four digits, a month and a day; a time of day may follow.
Months, days, hours, minutes and seconds may be written with one digit.
-/

namespace CtorScan
namespace Text
namespace Instant

/-- Read a number of one or two digits. -/
def readShort : List Char -> Option (Nat × List Char)
  | first :: second :: rest =>
      if first.isDigit then
        if second.isDigit then
          some (10 * (first.toNat - 48) + (second.toNat - 48), rest)
        else
          some (first.toNat - 48, second :: rest)
      else
        none
  | [first] => if first.isDigit then some (first.toNat - 48, []) else none
  | [] => none

/-- Read a number of exactly two digits. -/
def readPair : List Char -> Option (Nat × List Char)
  | first :: second :: rest =>
      if first.isDigit && second.isDigit then
        some (10 * (first.toNat - 48) + (second.toNat - 48), rest)
      else
        none
  | _ => none

/-- Read one character. -/
def readSign
    (sign : Char) : List Char -> Option (List Char)
  | c :: rest => if c == sign then some rest else none
  | [] => none

/-- The year has a 29th of February. -/
def isLeap (year : Nat) : Bool :=
  year % 4 == 0 && (year % 100 != 0 || year % 400 == 0)

/-- The number of days in a month. -/
def daysIn (year month : Nat) : Nat :=
  if month == 2 then (if isLeap year then 29 else 28)
  else if month == 4 || month == 6 || month == 9 || month == 11 then 30
  else 31

/-- Read a date. -/
def readDate (text : List Char) : Option (List Char) := do
  let year := text.take 4
  guard (year.length = 4 && year.all Char.isDigit)
  let rest <- readSign '-' (text.drop 4)
  let (month, rest) <- readShort rest
  let rest <- readSign '-' rest
  let (day, rest) <- readShort rest
  let number := year.foldl (fun value digit => 10 * value + (digit.toNat - 48)) 0
  guard (1 ≤ month && month ≤ 12 && 1 ≤ day && day ≤ daysIn number month)
  return rest

/-- Skip a fraction of a second, if there is one. -/
def skipFraction : List Char -> List Char
  | point :: digit :: rest =>
      if (point == '.' || point == ',') && digit.isDigit then
        rest.dropWhile Char.isDigit
      else
        point :: digit :: rest
  | rest => rest

/-- Read a time of day. -/
def readTime (text : List Char) : Option (List Char) := do
  let (hour, rest) <- readShort text
  let rest <- readSign ':' rest
  let (minute, rest) <- readShort rest
  let rest <- readSign ':' rest
  let (second, rest) <- readShort rest
  guard (hour < 24 && minute < 60 && second < 60)
  return skipFraction rest

/-- The text is the name of a time zone: `Z`, or a signed number of hours and
minutes. -/
def isZone : List Char -> Bool
  | ['Z'] => true
  | sign :: rest =>
      let zone := do
        let (hours, rest) <- readPair rest
        let rest <- readSign ':' rest
        let (minutes, rest) <- readPair rest
        guard (hours ≤ 24 && minutes ≤ 60 && rest.isEmpty)
      (sign == '+' || sign == '-') && zone.isSome
  | [] => false

/-- The text is a date, a date with a time of day after spaces, or a date with a
time of day and a zone after the letter T. -/
def isInstant (text : List Char) : Bool :=
  match readDate text with
  | none => false
  | some [] => true
  | some (c :: rest) =>
      if c == 'T' || c == 't' then
        (readTime rest).any isZone
      else if c == ' ' then
        (readTime (rest.dropWhile (· == ' '))).any List.isEmpty
      else
        false

end Instant
end Text
end CtorScan
