import CtorScan.Number.Whole

/-!
# TOML statements

A TOML text is a list of statements: the header of a table, the header of a
table in a list of tables, or a key with its value.
-/

namespace CtorScan
namespace Toml

/-- A dotted key, as its parts. -/
abbrev Key := List String

namespace Key

/-- A character that a part may hold without quotes. -/
def isBare (c : Char) : Bool :=
  c.isAlphanum || c == '_' || c == '-'

/-- A character of a part as it stands between quotes. -/
def quotedChar (c : Char) : List Char :=
  if c == '"' || c == '\\' then ['\\', c]
  else if c == '\t' then ['\\', 't']
  else if c == '\n' then ['\\', 'n']
  else if c == '\r' then ['\\', 'r']
  else if c.toNat == 8 then ['\\', 'b']
  else if c.toNat == 12 then ['\\', 'f']
  else if c.toNat < 32 || c.toNat == 127 then
    ['\\', 'u', '0', '0'] ++
      (if c.toNat < 16 then ['0'] else []) ++ Nat.toDigits 16 c.toNat
  else [c]

/-- A part of a key as it is shown: with quotes when it needs them. -/
def shownPart (part : String) : String :=
  if part ≠ "" ∧ part.toList.all isBare then
    part
  else
    String.ofList ('"' :: part.toList.flatMap quotedChar ++ ['"'])

/-- A key as it is shown, with points between its parts. -/
def shown (key : Key) : String :=
  ".".intercalate (key.map shownPart)

end Key

/-- A value.  Of numbers with a fraction and of times nothing but their sort is
kept. -/
inductive Value where
  /-- A text. -/
  | text (value : String)
  /-- A whole number. -/
  | integer (value : Int)
  /-- A number with a fraction or an exponent, or no finite number. -/
  | float
  /-- A truth value. -/
  | bool (value : Bool)
  /-- A date or a time. -/
  | time
  /-- A list of values. -/
  | array (items : List Value)
  /-- A table between braces. -/
  | table (pairs : List (Key × Value))
deriving Inhabited

/-- A statement. -/
inductive Statement where
  /-- The header of a table. -/
  | table (key : Key)
  /-- The header of one more table in a list of tables. -/
  | element (key : Key)
  /-- A key with its value. -/
  | assign (key : Key) (value : Value)

end Toml
end CtorScan
