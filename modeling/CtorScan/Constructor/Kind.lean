import CtorScan.Program.Basic
import CtorScan.Text.Quoted

/-!
# Kinds of constructors

A constructor is told apart by the parameters it declares.  Kinds travel as
numeric codes; three codes have names, and a code without a name can be held
and shown, but not written to a report.
-/

namespace CtorScan

/-- A kind of constructor, by its code. -/
structure Kind where
  /-- The numeric code. -/
  code : Int
deriving DecidableEq, Inhabited

namespace Kind

/-- A constructor without parameters. -/
def default : Kind := ⟨1⟩

/-- A constructor whose only parameter is a pointer. -/
def copy : Kind := ⟨2⟩

/-- A constructor with any other parameters. -/
def parameterized : Kind := ⟨3⟩

/-- The kinds that have names. -/
def named : List Kind := [default, copy, parameterized]

/-- The one-word name of a kind. -/
def shortName? (kind : Kind) : Option String :=
  if kind = default then some "default"
  else if kind = copy then some "copy"
  else if kind = parameterized then some "parameterized"
  else none

/-- The one-word name of a kind, empty for a code without one. -/
def shortName (kind : Kind) : String :=
  kind.shortName?.getD ""

/-- The kind as `Kind(3)`. -/
def coded (kind : Kind) : String :=
  s!"Kind({kind.code})"

/-- The name of a kind in reports. -/
def title (kind : Kind) : String :=
  if kind = default then "Default Constructor"
  else if kind = copy then "Copy Constructor"
  else if kind = parameterized then "Parameterized Constructor"
  else kind.coded

/-- Why a kind cannot be written. -/
def unwritableMessage (kind : Kind) : String :=
  "cannot marshal invalid " ++ kind.coded

/-- The kind with a one-word name. -/
def ofShortName? (name : String) : Option Kind :=
  named.find? fun kind => kind.shortName? == some name

/-- Why a text names no kind. -/
def unknownMessage (name : String) : String :=
  "unknown constructor kind " ++ Text.quoted name

/-- The kind of a constructor with the given declared parameters. -/
def ofParameters : List Parameter -> Kind
  | [] => default
  | [parameter] => if parameter.type.pointer then copy else parameterized
  | _ => parameterized

end Kind
end CtorScan
