import CtorScan.Report.Json

/-!
# Where records are written

A sink takes records one after the other, writes them in its format and keeps
whatever it has to remember.  Its writer may give out after some number of
writes; from then on no write succeeds.
-/

namespace CtorScan
namespace Report

/-- The formats of reports. -/
inductive Format where
  /-- Two lines for each record. -/
  | text
  /-- One JSON object for each record. -/
  | json
deriving DecidableEq

namespace Format

/-- The name of a format. -/
def name : Format -> String
  | text => "text"
  | json => "json"

/-- All formats. -/
def all : List Format := [text, json]

/-- The names of all formats. -/
def names : List String := all.map name

/-- The format with a name; the empty name selects the text format. -/
def ofName? (name : String) : Option Format :=
  if name = "" then some text else all.find? fun format => format.name == name

/-- Why a name selects no format. -/
def unknownMessage (name : String) : String :=
  "unknown report format: " ++ Text.quoted name

end Format

/-- Something to write to, which accepts a number of writes, or all of them. -/
structure Writer where
  /-- How many more writes succeed; absent when all do. -/
  remaining : Option Nat
  /-- What it says when a write fails. -/
  failure : String
deriving DecidableEq

namespace Writer

/-- A writer that never fails. -/
def reliable : Writer := ⟨none, ""⟩

/-- A writer that fails from the given write on, always saying the same. -/
def failingFrom
    (write : Nat)
    (failure : String) : Writer :=
  ⟨some write, failure⟩

/-- The writer after one more write, if that write succeeds. -/
def accept? (writer : Writer) : Option Writer :=
  match writer.remaining with
  | none => some writer
  | some 0 => none
  | some (count + 1) => some { writer with remaining := some count }

end Writer

/-- Why a record was not written. -/
inductive WriteError where
  /-- The writer does not take it, and says why. -/
  | refused (reason : String)
  /-- The kind of the record has no name. -/
  | unwritable (kind : Kind)
deriving DecidableEq

/-- The text of a failure. -/
def WriteError.message : WriteError -> String
  | refused reason => reason
  | unwritable kind =>
      "json: error calling MarshalText for type *ctor.Kind: " ++ kind.unwritableMessage

/-- A sink with what it remembers. -/
inductive Sink where
  /-- Writes two lines for each record. -/
  | text (writer : Writer)
  /-- Writes JSON lines, and gives up for good after a failed write. -/
  | json (writer : Writer) (broken : Bool)
  /-- Keeps the records. -/
  | collect (records : List Record)
deriving DecidableEq

namespace Sink

/-- The new sink for a format. -/
def ofFormat
    (writer : Writer) : Format -> Sink
  | .text => text writer
  | .json => json writer false

/-- The records that the sink keeps. -/
def collected : Sink -> List Record
  | collect records => records
  | _ => []

/-- The two lines for a record. -/
def textLines (record : Record) : String :=
  "Implicit constructor detected: " ++ record.callee ++ "\nType: " ++ record.kind.title ++ "\n"

/-- Write a record: the sink afterwards, and the text that was written. -/
def write
    (sink : Sink)
    (record : Record) : Sink × Except WriteError String :=
  match sink with
  | text writer =>
      match writer.accept? with
      | some writer => (text writer, .ok (textLines record))
      | none => (text writer, .error (.refused writer.failure))
  | json writer true => (json writer true, .error (.refused writer.failure))
  | json writer false =>
      match record.kind.shortName? with
      | none => (json writer false, .error (.unwritable record.kind))
      | some kind =>
          match writer.accept? with
          | some writer => (json writer false, .ok (Json.line record kind))
          | none => (json writer true, .error (.refused writer.failure))
  | collect records => (collect (records ++ [record]), .ok "")

end Sink
end Report
end CtorScan
