import CtorScan.Pass.Registry
import CtorScan.Report.Sink

/-!
# Settings

The settings of a command-line run, their defaults, and what makes them valid.
-/

namespace CtorScan

/-- The settings of a command-line run. -/
structure Settings where
  /-- The pass to run. -/
  pass : String
  /-- The marker of constructor names. -/
  marker : String
  /-- How many functions to look at at once; zero leaves that open. -/
  jobs : Int
  /-- The format of the report. -/
  format : String
  /-- Whether to log details. -/
  verbose : Bool
deriving DecidableEq, Inhabited

namespace Settings

/-- The settings when nothing is said. -/
def standard : Settings where
  pass := Pass.constructorCalls
  marker := Marker.standard
  jobs := 0
  format := Report.Format.text.name
  verbose := false

/-- Why settings are refused. -/
inductive Fault where
  /-- No pass is named. -/
  | emptyPass
  /-- The number of jobs is negative. -/
  | negativeJobs (jobs : Int)
  /-- There is no such format. -/
  | unknownFormat (format : String)
deriving DecidableEq

/-- The text of a refusal. -/
def Fault.message : Fault -> String
  | emptyPass => "invalid config: pass must not be empty"
  | negativeJobs jobs => s!"invalid config: jobs must not be negative, got {jobs}"
  | unknownFormat format => "invalid config: unknown format " ++ Text.quoted format

/-- The first fault of the settings, if there is one. -/
def fault? (settings : Settings) : Option Fault :=
  if settings.pass = "" then
    some .emptyPass
  else if settings.jobs < 0 then
    some (.negativeJobs settings.jobs)
  else if settings.format ∉ Report.Format.names then
    some (.unknownFormat settings.format)
  else
    none

end Settings
end CtorScan
