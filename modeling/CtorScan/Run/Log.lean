import CtorScan.Text.Quoted
import CtorScan.Text.Search

/-!
# Log lines

A log line is a level, a message and a list of keys with values, written as
`key=value`.  A value stands bare when it can be read back bare, and between
quotes otherwise.
-/

namespace CtorScan
namespace Log

/-- How much a line matters. -/
inductive Level where
  /-- Details for those who ask for them. -/
  | debug
  /-- Something that should not have happened. -/
  | warn
deriving DecidableEq

/-- The name of a level. -/
def Level.name : Level -> String
  | debug => "DEBUG"
  | warn => "WARN"

/-- A character that must not stand in a bare value. -/
def needsQuotes (c : Char) : Bool :=
  if c.toNat < 128 then
    c.toNat ≤ 32 || c == '=' || c == '"'
  else
    c.toNat == 0xfffd || Text.isBlank c || !Text.isPrintable c

/-- A value of a log line, quoted where needed. -/
def value (text : String) : String :=
  if text = "" ∨ text.toList.any needsQuotes then Text.quoted text else text

/-- A line of the log. -/
structure Line where
  /-- Its level. -/
  level : Level
  /-- Its message. -/
  message : String
  /-- Its keys with their values. -/
  fields : List (String × String)
deriving DecidableEq

/-- The line as it is written, without the time. -/
def Line.text (line : Line) : String :=
  "level=" ++ line.level.name ++ " msg=" ++ value line.message ++
    String.join (line.fields.map fun field => " " ++ field.1 ++ "=" ++ value field.2) ++ "\n"

/-- Debug lines are shown on demand; all others always. -/
def Line.isShown
    (verbose : Bool)
    (line : Line) : Bool :=
  verbose || line.level ≠ .debug

end Log
end CtorScan
