import CtorScan.Pass.Registry
import CtorScan.Report.Sink
import CtorScan.Run.Log

/-!
# Running a pass over a program

A run looks the pass up, applies it to every function that has a body, and then
writes what was found in the order of the program.  It stops at the first record
that cannot be written.  What a run does to the outside is a sequence of events:
pieces of the report and lines of the log.
-/

namespace CtorScan

/-- Something that a run lets the outside see. -/
inductive Event where
  /-- A piece of the report. -/
  | written (text : String)
  /-- A line of the log. -/
  | logged (line : Log.Line)
deriving DecidableEq

namespace Event

/-- The text of an event in the report alone. -/
def report : Event -> String
  | written text => text
  | logged _ => ""

/-- The text of an event in the log alone. -/
def log (verbose : Bool) : Event -> String
  | written _ => ""
  | logged line => if line.isShown verbose then line.text else ""

/-- The text of an event where report and log go to the same place. -/
def both
    (verbose : Bool)
    (event : Event) : String :=
  event.report ++ event.log verbose

end Event

namespace Run

/-- What is counted in a run. -/
structure Summary where
  /-- The name of the pass. -/
  pass : String
  /-- How many functions have a body. -/
  functions : Nat
  /-- How many records were written. -/
  records : Nat
  /-- Whether the pass says that it changed some function. -/
  changed : Bool
deriving DecidableEq

/-- The summary of a run that did not get anywhere. -/
def Summary.zero : Summary := ⟨"", 0, 0, false⟩

/-- Why a run did not succeed. -/
inductive Error where
  /-- There is no such pass. -/
  | registry (error : Pass.RegistryError)
  /-- The run was cancelled. -/
  | canceled (pass : String)
  /-- A record could not be written. -/
  | write (callee : String) (error : Report.WriteError)
deriving DecidableEq

/-- The text of a failure. -/
def Error.message : Error -> String
  | registry error => error.message
  | canceled pass => "run " ++ pass ++ ": context canceled"
  | write callee error => "write record for " ++ callee ++ ": " ++ error.message

/-- A run, finished or stopped. -/
structure Result where
  /-- What was counted until then. -/
  summary : Summary
  /-- What the outside saw. -/
  events : List Event
  /-- The sink afterwards. -/
  sink : Report.Sink
  /-- Why the run stopped, if it did. -/
  error : Option Error

/-- Write the records of one function and count them. -/
def writeRecords
    (result : Result) : List Record -> Result
  | [] => result
  | record :: rest =>
      match result.sink.write record with
      | (sink, .ok text) =>
          writeRecords
            { result with
              sink := sink
              events := result.events ++ [.written text]
              summary.records := result.summary.records + 1 }
            rest
      | (sink, .error error) =>
          { result with
            sink := sink
            error := some (.write record.callee error) }

/-- The log line about a function in which something was found. -/
def scannedLine
    (function : String)
    (records : Nat) : Log.Line :=
  ⟨.debug, "function scanned", [("function", function), ("records", toString records)]⟩

/-- Count one function, log what was found in it and write that. -/
def writeOutcome
    (result : Result)
    (function : String)
    (outcome : Outcome) : Result :=
  let counted :=
    { result with
      summary.functions := result.summary.functions + 1
      summary.changed := result.summary.changed || outcome.changed }
  let logged :=
    if outcome.records.isEmpty then
      counted
    else
      { counted with
        events := counted.events ++ [.logged (scannedLine function outcome.records.length)] }
  writeRecords logged outcome.records

/-- Write the outcomes of the functions in order, up to the first failure. -/
def writeOutcomes
    (result : Result) : List (String × Outcome) -> Result
  | [] => result
  | (function, outcome) :: rest =>
      let next := writeOutcome result function outcome
      match next.error with
      | some _ => next
      | none => writeOutcomes next rest

/-- The outcomes of a pass on the functions that have a body, in order. -/
def outcomes
    (pass : Pass)
    (program : Program) : List (String × Outcome) :=
  (program.functions.filter fun function => !function.isDeclaration).map
    fun function => (function.name, pass program function)

/-- The lines that end the log of a run that succeeded. -/
def finishedLines
    (mutates : Bool)
    (program : String)
    (summary : Summary) : List Log.Line :=
  (if summary.changed && !mutates then
    [⟨.warn, "non-mutating pass reported a change", [("pass", summary.pass)]⟩]
  else
    []) ++
    [⟨.debug, "pass finished",
      [("pass", summary.pass), ("program", program),
       ("functions", toString summary.functions), ("records", toString summary.records),
       ("changed", toString summary.changed)]⟩]

/-- Append the last lines of the log, unless the run has failed. -/
def finish
    (mutates : Bool)
    (program : String)
    (result : Result) : Result :=
  match result.error with
  | some _ => result
  | none =>
      { result with
        events := result.events ++
          (finishedLines mutates program result.summary).map Event.logged }

end Run

/-- Run the named pass over a program and write what it finds to the sink.  A
cancelled run fails unless there is nothing to apply the pass to. -/
def run
    (registry : Pass.Registry)
    (pass marker : String)
    (canceled : Bool)
    (sink : Report.Sink)
    (program : Program) : Run.Result :=
  match registry.lookup pass with
  | .error error => ⟨.zero, [], sink, some (.registry error)⟩
  | .ok entry =>
      if canceled && program.functions.any fun function => !function.isDeclaration then
        ⟨.zero, [], sink, some (.canceled pass)⟩
      else
        Run.finish entry.mutates program.name
          (Run.writeOutcomes ⟨{ Run.Summary.zero with pass := pass }, [], sink, none⟩
            (Run.outcomes (entry.build marker) program))

end CtorScan
