import CtorScan.Directive.Comment

/-!
# Which directives were of use

A ledger holds the directives of a file by line and remembers for which kinds
each of them suppressed a finding.  A finding is suppressed by a directive on its
line or, failing that, by one on the line before.
-/

namespace CtorScan
namespace Directive

/-- A directive and what it was of use for. -/
structure Entry where
  /-- The place of the comment. -/
  position : Nat
  /-- The kinds that the comment lists; none means all. -/
  kinds : List String
  /-- The kinds of the findings that it suppressed, each once. -/
  used : List String
deriving DecidableEq, Inhabited

namespace Entry

/-- The directive speaks about the kind. -/
def suppresses
    (entry : Entry)
    (kind : String) : Bool :=
  entry.kinds.isEmpty || entry.kinds.contains kind

/-- The entry after it suppressed a finding of the kind. -/
def use
    (entry : Entry)
    (kind : String) : Entry :=
  { entry with used := if entry.used.contains kind then entry.used else entry.used ++ [kind] }

/-- The listed kinds that are unknown or were of no use. -/
def idleKinds (entry : Entry) : List String :=
  entry.kinds.filter fun kind => !knownKinds.contains kind || !entry.used.contains kind

/-- The directive, or part of it, was of no use. -/
def isIdle (entry : Entry) : Bool :=
  if entry.kinds.isEmpty then entry.used.isEmpty else !entry.idleKinds.isEmpty

end Entry

/-- The directives of a file by line, at most one for each line. -/
structure Ledger where
  /-- The lines that have a directive, with that directive. -/
  entries : List (Int × Entry)
deriving DecidableEq, Inhabited

/-- A directive, or the part of it, that was of no use. -/
structure Idle where
  /-- The place of the comment. -/
  position : Nat
  /-- The kinds that were of no use; none for a directive without kinds. -/
  kinds : List String
deriving DecidableEq

namespace Ledger

/-- The ledger without directives. -/
def empty : Ledger := ⟨[]⟩

/-- The directive on a line. -/
def find?
    (ledger : Ledger)
    (line : Int) : Option Entry :=
  ledger.entries.lookup line

/-- Put a directive on a line, in place of the one that was there. -/
def insert
    (ledger : Ledger)
    (line : Int)
    (entry : Entry) : Ledger :=
  ⟨(line, entry) :: ledger.entries.filter fun other => other.1 ≠ line⟩

/-- Note that the directive on a line suppressed a finding of the kind. -/
def use
    (ledger : Ledger)
    (line : Int)
    (kind : String) : Ledger :=
  ⟨ledger.entries.map fun other =>
    if other.1 = line then (other.1, other.2.use kind) else other⟩

/-- The directive on a line speaks about the kind. -/
def suppressesAt
    (ledger : Ledger)
    (line : Int)
    (kind : String) : Bool :=
  (ledger.find? line).any fun entry => entry.suppresses kind

/-- Whether a finding is suppressed, and the ledger after that was asked. -/
def suppress
    (ledger : Ledger)
    (line : Int)
    (kind : String) : Bool × Ledger :=
  if ledger.suppressesAt line kind then
    (true, ledger.use line kind)
  else if ledger.suppressesAt (line - 1) kind then
    (true, ledger.use (line - 1) kind)
  else
    (false, ledger)

/-- The directives that were of no use, by their place. -/
def idle (ledger : Ledger) : List Idle :=
  ((ledger.entries.filter fun other => other.2.isIdle).map fun other =>
    Idle.mk other.2.position other.2.idleKinds).mergeSort
      fun left right => decide (left.position ≤ right.position)

/-- A comment of a file: its text, its place and the line it is said to be on. -/
structure Comment where
  /-- The whole comment with its delimiters. -/
  text : String
  /-- Its place. -/
  position : Nat
  /-- The line it counts for. -/
  line : Int
deriving DecidableEq

/-- Enter a comment if it is a directive. -/
def enter
    (ledger : Ledger)
    (comment : Comment) : Ledger :=
  match ofComment? comment.text with
  | none => ledger
  | some listed => ledger.insert comment.line ⟨comment.position, Directive.kinds listed, []⟩

/-- The ledger of the comments of a file, given in source order. -/
def ofComments (comments : List Comment) : Ledger :=
  comments.foldl enter empty

end Ledger
end Directive
end CtorScan
