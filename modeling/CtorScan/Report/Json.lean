import CtorScan.Constructor.Scan

/-!
# Records as lines of JSON

Each record is one object on one line.  The texts in it are escaped so that the
line can also stand inside a web page: besides quotes, backslashes and controls,
angle brackets, ampersands and the two separators of lines and paragraphs are
written as numbers.
-/

namespace CtorScan
namespace Report
namespace Json

/-- One character as it stands inside a JSON string. -/
def escapedChar (c : Char) : List Char :=
  if c = '"' then ['\\', '"']
  else if c = '\\' then ['\\', '\\']
  else if c = '\x08' then ['\\', 'b']
  else if c = '\x0c' then ['\\', 'f']
  else if c = '\n' then ['\\', 'n']
  else if c = '\r' then ['\\', 'r']
  else if c = '\t' then ['\\', 't']
  else if c.toNat < 32 ∨ c = '<' ∨ c = '>' ∨ c = '&' ∨ c.toNat = 0x2028 ∨ c.toNat = 0x2029 then
    '\\' :: 'u' :: Text.hexDigits 4 c.toNat
  else [c]

/-- A text as a JSON string. -/
def string (text : String) : List Char :=
  '"' :: text.toList.flatMap escapedChar ++ ['"']

/-- The members of the object for a record; an empty caller is left out. -/
def members
    (record : Record)
    (kind : String) : List (String × String) :=
  (if record.caller = "" then [] else [("caller", record.caller)]) ++
    [("callee", record.callee), ("kind", kind)]

/-- One member of an object. -/
def member (entry : String × String) : List Char :=
  string entry.1 ++ ':' :: string entry.2

/-- The line for a record whose kind has the given name. -/
def line
    (record : Record)
    (kind : String) : String :=
  String.ofList
    ('\x7b' :: Text.joinWith [','] ((members record kind).map member) ++ ['\x7d', '\n'])

end Json
end Report
end CtorScan
