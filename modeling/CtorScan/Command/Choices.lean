import CtorScan.Number.Whole
import CtorScan.Settings.Basic

/-!
# What the command line asks for

Flags come first, each after one or two dashes, and may hold their value after
an equals sign or in the argument that follows.  The first argument that is no
flag ends them, and so does a bare pair of dashes, which is dropped.  A flag
that is given more than once keeps its last value.
-/

namespace CtorScan
namespace Command

/-- The flags. -/
inductive Flag where
  /-- The settings file. -/
  | config
  /-- The format of the report. -/
  | format
  /-- How many functions to look at at once. -/
  | jobs
  /-- List the passes. -/
  | list
  /-- The marker of constructor names. -/
  | marker
  /-- The pass to run. -/
  | pass
  /-- Log details. -/
  | verbose
deriving DecidableEq

namespace Flag

/-- All flags, in the order in which they are described. -/
def all : List Flag := [config, format, jobs, list, marker, pass, verbose]

/-- The name of a flag. -/
def name : Flag -> String
  | config => "config"
  | format => "format"
  | jobs => "jobs"
  | list => "list"
  | marker => "marker"
  | pass => "pass"
  | verbose => "v"

/-- The flag with a name. -/
def ofName? (name : String) : Option Flag :=
  all.find? fun flag => flag.name == name

/-- The flag is a switch: it needs no value. -/
def isSwitch : Flag -> Bool
  | list => true
  | verbose => true
  | _ => false

/-- The word for the values of a flag. -/
def valueWord : Flag -> String
  | config => " string"
  | format => " string"
  | jobs => " int"
  | list => ""
  | marker => " string"
  | pass => " string"
  | verbose => ""

/-- One line about a flag. -/
def summary : Flag -> String
  | config => "Path to a TOML config file"
  | format => "Output format: " ++ ", ".intercalate Report.Format.names
  | jobs => "Functions scanned at once (0 = GOMAXPROCS)"
  | list => "List registered passes and exit"
  | marker => "Substring identifying constructor names (default from config)"
  | pass => "Pass to run (default " ++ Text.quoted Pass.constructorCalls ++ ")"
  | verbose => "Verbose output"

/-- The description of a flag.  That of a switch with a short name fits on one
line. -/
def description (flag : Flag) : String :=
  let start := "  -" ++ flag.name ++ flag.valueWord
  start ++ (if start.length ≤ 4 then "\t" else "\n    \t") ++ flag.summary ++ "\n"

end Flag

/-- What the command line asks for.  A setting that no flag gives is absent. -/
structure Choices where
  /-- The settings file; empty when there is none. -/
  config : String
  /-- List the passes and do nothing else. -/
  list : Bool
  /-- The pass to run. -/
  pass : Option String
  /-- The marker of constructor names. -/
  marker : Option String
  /-- How many functions to look at at once. -/
  jobs : Option Int
  /-- The format of the report. -/
  format : Option String
  /-- Whether to log details. -/
  verbose : Option Bool
deriving DecidableEq

namespace Choices

/-- What is asked for when no flag is given. -/
def none : Choices where
  config := ""
  list := false
  pass := .none
  marker := .none
  jobs := .none
  format := .none
  verbose := .none

/-- The settings with what is asked for explicitly in place of what they say. -/
def override
    (choices : Choices)
    (settings : Settings) : Settings where
  pass := choices.pass.getD settings.pass
  marker := choices.marker.getD settings.marker
  jobs := choices.jobs.getD settings.jobs
  format := choices.format.getD settings.format
  verbose := choices.verbose.getD settings.verbose

end Choices

/-- Why a command line is refused. -/
inductive UsageError where
  /-- An argument starts like a flag but names none. -/
  | malformed (argument : String)
  /-- There is no such flag. -/
  | unknown (name : String)
  /-- The value of a flag is missing. -/
  | valueless (flag : Flag)
  /-- A switch has a value that is no truth value. -/
  | notTruth (flag : Flag) (value : String)
  /-- A flag has a value that is no number. -/
  | notNumber (flag : Flag) (value : String) (misreading : Number.Misreading)
deriving DecidableEq

/-- The wording of a refusal. -/
def UsageError.message : UsageError -> String
  | malformed argument => "bad flag syntax: " ++ argument
  | unknown name => "flag provided but not defined: -" ++ name
  | valueless flag => "flag needs an argument: -" ++ flag.name
  | notTruth flag value =>
      "invalid boolean value " ++ Text.quoted value ++ " for -" ++ flag.name ++ ": parse error"
  | notNumber flag value misreading =>
      "invalid value " ++ Text.quoted value ++ " for flag -" ++ flag.name ++ ": " ++
        (match misreading with
          | .malformed => "parse error"
          | .outOfRange => "value out of range")

/-- The truth value that a word stands for. -/
def truth? (word : String) : Option Bool :=
  if word ∈ ["1", "t", "T", "TRUE", "true", "True"] then some true
  else if word ∈ ["0", "f", "F", "FALSE", "false", "False"] then some false
  else none

/-- The truth value of a switch. -/
def readTruth
    (flag : Flag)
    (value : String) : Except UsageError Bool :=
  match truth? value with
  | some truth => .ok truth
  | none => .error (.notTruth flag value)

/-- Give a flag its value. -/
def Choices.set
    (choices : Choices)
    (flag : Flag)
    (value : String) : Except UsageError Choices :=
  match flag with
  | .config => .ok { choices with config := value }
  | .format => .ok { choices with format := some value }
  | .jobs =>
      match Number.readSigned value.toList with
      | .error misreading => .error (.notNumber flag value misreading)
      | .ok jobs => .ok { choices with jobs := some jobs }
  | .list => (readTruth flag value).map fun truth => { choices with list := truth }
  | .marker => .ok { choices with marker := some value }
  | .pass => .ok { choices with pass := some value }
  | .verbose => (readTruth flag value).map fun truth => { choices with verbose := some truth }

/-- An argument, seen from the flags. -/
inductive Argument where
  /-- It is no flag. -/
  | plain
  /-- It ends the flags. -/
  | terminator
  /-- It starts like a flag but names none. -/
  | malformed
  /-- A flag by its name, with the value after its equals sign. -/
  | flag (name : String) (value : Option String)
deriving DecidableEq

/-- A name and the value after the first equals sign, which is not the first
character of the name. -/
def splitValue (text : List Char) : String × Option String :=
  match text with
  | [] => ("", none)
  | first :: rest =>
      let name := first :: rest.takeWhile (· != '=')
      match rest.dropWhile (· != '=') with
      | [] => (String.ofList name, none)
      | _ :: value => (String.ofList name, some (String.ofList value))

/-- What follows the dashes of a flag. -/
def Argument.ofName (text : List Char) : Argument :=
  match text.head? with
  | none => .malformed
  | some first =>
      if first == '-' || first == '=' then
        .malformed
      else
        let (name, value) := splitValue text
        .flag name value

/-- The meaning of an argument among the flags. -/
def Argument.ofText (text : String) : Argument :=
  match text.toList with
  | ['-', '-'] => .terminator
  | '-' :: '-' :: name => .ofName name
  | '-' :: first :: rest => .ofName (first :: rest)
  | _ => .plain

/-- A command line that was understood. -/
inductive Request where
  /-- Explain the command. -/
  | help
  /-- Do what the flags ask for, on some inputs. -/
  | scan (choices : Choices) (inputs : List String)
deriving DecidableEq

/-- The flag with a name; the explanation has names of its own. -/
def flagNamed (name : String) : Except UsageError (Option Flag) :=
  match Flag.ofName? name with
  | some flag => .ok (some flag)
  | none => if name = "help" ∨ name = "h" then .ok none else .error (.unknown name)

/-- Read a command line, with the choices of the flags so far. -/
def readArguments
    (choices : Choices) : List String -> Except UsageError Request
  | [] => .ok (.scan choices [])
  | argument :: rest =>
      match Argument.ofText argument with
      | .plain => .ok (.scan choices (argument :: rest))
      | .terminator => .ok (.scan choices rest)
      | .malformed => .error (.malformed argument)
      | .flag name value =>
          match flagNamed name with
          | .error error => .error error
          | .ok none => .ok .help
          | .ok (some flag) =>
              if flag.isSwitch then
                match choices.set flag (value.getD "true") with
                | .error error => .error error
                | .ok choices => readArguments choices rest
              else
                match value, rest with
                | some value, rest =>
                    match choices.set flag value with
                    | .error error => .error error
                    | .ok choices => readArguments choices rest
                | none, value :: rest =>
                    match choices.set flag value with
                    | .error error => .error error
                    | .ok choices => readArguments choices rest
                | none, [] => .error (.valueless flag)

/-- Read a command line. -/
def Request.ofArguments (arguments : List String) : Except UsageError Request :=
  readArguments .none arguments

end Command
end CtorScan
