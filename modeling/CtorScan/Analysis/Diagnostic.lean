import CtorScan.Analysis.Load
import CtorScan.Constructor.Scan
import CtorScan.Source.File

/-!
# What is reported about a package

Calls of constructors are reported unless they are in generated files or a directive
suppresses them.  Then the directives that were of no use are reported.
-/

namespace CtorScan
namespace Analysis

open Source
open Directive (Ledger Idle)

/-- Something that is reported, and where. -/
structure Diagnostic where
  /-- The position that it is about. -/
  position : Position
  /-- What is said. -/
  message : String
deriving DecidableEq

/-- The directives of files by the names of the files. -/
structure Ledgers where
  /-- The names of the files, with their directives. -/
  entries : List (String × Ledger)

namespace Ledgers

/-- No files. -/
def empty : Ledgers := ⟨[]⟩

/-- The directives of a file. -/
def find? (ledgers : Ledgers) (file : String) : Option Ledger :=
  ledgers.entries.lookup file

/-- Give a file its directives, in place of those that it had. -/
def insert (ledgers : Ledgers) (file : String) (ledger : Ledger) : Ledgers :=
  ⟨(file, ledger) :: ledgers.entries.filter fun other => other.1 ≠ file⟩

/-- Whether a finding of a kind on a line of a file is suppressed, and the directives
after that was asked. -/
def suppress
    (ledgers : Ledgers)
    (file : String)
    (line : Nat)
    (kind : Kind) : Bool × Ledgers :=
  match ledgers.find? file with
  | none => (false, ledgers)
  | some ledger =>
      let (suppressed, after) := ledger.suppress line kind.shortName
      (suppressed, ledgers.insert file after)

/-- The directives of the files whose names are not left out. -/
def ofFiles (leftOut : List String) (files : List File) : Ledgers :=
  files.foldl
    (fun ledgers file =>
      if leftOut.contains file.position.file then ledgers
      else ledgers.insert file.position.file file.directives)
    empty

end Ledgers

/-- The names of the generated files. -/
def generatedNames (files : List File) : List String :=
  (files.filter File.isGenerated).map fun file => file.position.file

/-- The position of a place in some files. -/
def positionAmong (files : List File) (place : Nat) : Position :=
  positionIn (files.map File.chart) place

/-- What is said about a call of a constructor. -/
def findingMessage (record : Record) : String :=
  "implicit constructor detected: " ++ record.callee ++ " (" ++ record.kind.title ++ ")"

/-- What is said about a directive that was of no use. -/
def idleMessage (idle : Idle) : String :=
  let always := "unused implicitctor:ignore directive"
  if idle.kinds.isEmpty then always
  else always ++ " for kind(s): " ++ ", ".intercalate idle.kinds

/-- Report the calls of constructors that are neither in the files that are left out nor
suppressed. -/
def findings
    (files : List File)
    (leftOut : List String) :
    List Record -> Ledgers -> List Diagnostic × Ledgers
  | [], ledgers => ([], ledgers)
  | record :: rest, ledgers =>
      let position := positionAmong files record.position.toNat
      if leftOut.contains position.file then
        findings files leftOut rest ledgers
      else
        match ledgers.suppress position.file position.line record.kind with
        | (true, after) => findings files leftOut rest after
        | (false, after) =>
            let (others, last) := findings files leftOut rest after
            (⟨position, findingMessage record⟩ :: others, last)

/-- Report the directives that were of no use, file by file. -/
def idleDirectives (files : List File) (ledgers : Ledgers) : List Diagnostic :=
  files.flatMap fun file =>
    match ledgers.find? file.position.file with
    | none => []
    | some ledger =>
        ledger.idle.map fun idle => ⟨positionAmong files idle.position, idleMessage idle⟩

/-- What is reported about files in which calls of constructors were found. -/
def diagnose (files : List File) (records : List Record) : List Diagnostic :=
  let leftOut := generatedNames files
  let (found, ledgers) := findings files leftOut records (.ofFiles leftOut files)
  found ++ idleDirectives files ledgers

/-- The calls of constructors in functions, in order. -/
def recordsOf (marker : String) (functions : List (Function Signature)) : List Record :=
  functions.flatMap fun function => Marker.scan marker (some function)

/-- What is reported about a package. -/
def LoadedPackage.diagnostics (package : LoadedPackage) (marker : String) : List Diagnostic :=
  diagnose package.files (recordsOf marker package.resolved)

/-- What is reported about a package: nothing at all, not even about directives, if its
functions were not made. -/
def diagnosticsOf (package : Option LoadedPackage) (marker : String) : List Diagnostic :=
  match package with
  | none => []
  | some package => package.diagnostics marker

end Analysis
end CtorScan
