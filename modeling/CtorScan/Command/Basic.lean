import CtorScan.Assembly.Reading
import CtorScan.Command.Choices
import CtorScan.Program.Description.Yaml
import CtorScan.Run.Basic
import CtorScan.Settings.File

/-!
# The command

The command loads its settings, then reads its inputs one after the other and
runs the pass over each.  It stops at the first input that cannot be read or
over which the pass cannot run.  Whatever it finds, it succeeds if it gets to
the end.
-/

namespace CtorScan
namespace Command

/-- What a finished command leaves behind. -/
structure Result where
  /-- Its exit status. -/
  status : Nat
  /-- What it wrote to its output. -/
  output : String
  /-- What it wrote to its error output. -/
  errors : String
deriving DecidableEq

namespace Result

/-- The exit status of success. -/
def success : Nat := 0

/-- The exit status of failure. -/
def failure : Nat := 2

/-- A failure with something to say. -/
def fail (errors : String) : Result :=
  ⟨failure, "", errors⟩

end Result

/-- The explanation of the command. -/
def usage : String :=
  "usage: irscan [flags] file...\n" ++
    "Inputs: .ll (typed-pointer LLVM IR only, no opaque ptr), .yaml, .yml\n" ++
    String.join (Flag.all.map Flag.description)

/-- The passes, each with one line about it. -/
def passList (registry : Pass.Registry) : String :=
  String.join (registry.names.map fun name =>
    match registry.lookup name with
    | .ok entry => name ++ "\t" ++ entry.summary ++ "\n"
    | .error _ => name ++ "\t\n")

/-- The ways to write a program in a file. -/
inductive Encoding where
  /-- LLVM assembly. -/
  | assembly
  /-- A description in YAML. -/
  | description
deriving DecidableEq

/-- The last part of a path from its last point on; empty when there is none. -/
def extension (path : String) : String :=
  let last := (path.toList.reverse.takeWhile (· != '/'))
  if last.contains '.' then
    String.ofList ('.' :: (last.takeWhile (· != '.')).reverse)
  else
    ""

/-- The way in which the program in a file is written, by the extension in any
case. -/
def Encoding.ofPath? (path : String) : Option Encoding :=
  match (extension path).toLower with
  | ".ll" => some .assembly
  | ".yaml" => some .description
  | ".yml" => some .description
  | _ => none

/-- Why an input gives no program. -/
inductive InputError where
  /-- The extension is not known. -/
  | unknownEncoding (path : String)
  /-- The file cannot be read. -/
  | unreadable (fault : Files.Fault)
  /-- The assembly in the text is refused. -/
  | assembly (text : String) (error : Assembly.ReadError)
  /-- The description in the text is refused. -/
  | description (path text : String) (error : Description.ReadError)

/-- The words of the readers of formats for what is wrong with a text. -/
structure Wording where
  /-- For a fault of a TOML document. -/
  toml : Toml.Fault -> String
  /-- For a text that is no assembly. -/
  assembly : String -> String
  /-- For a text that is no YAML. -/
  yaml : String -> String

/-- Words that only tell the formats apart. -/
def Wording.plain : Wording :=
  ⟨fun _ => "<toml error>", fun _ => "<llvm error>", fun _ => "<yaml error>"⟩

/-- The wording of an error. -/
def InputError.message (wording : Wording) : InputError -> String
  | unknownEncoding path => "unknown input format: " ++ path
  | unreadable fault => fault.message
  | assembly text error => error.message (wording.assembly text)
  | description path text error => path ++ ": " ++ error.message (wording.yaml text)

/-- What a command finds around it. -/
structure Surroundings where
  /-- How to read files. -/
  access : Files.Access
  /-- The order in which tables are visited. -/
  order : Toml.Order
  /-- The words for what is wrong with a text. -/
  wording : Wording

/-- The program in the text of a file. -/
def programOfText
    (encoding : Encoding)
    (path text : String) : Except InputError Program :=
  match encoding with
  | .assembly => (Assembly.programOfText path text).mapError (.assembly text)
  | .description => (Description.programOfFile path text).mapError (.description path text)

/-- The program at a path. -/
def loadProgram
    (access : Files.Access)
    (path : String) : Except InputError Program :=
  match Encoding.ofPath? path with
  | none => .error (.unknownEncoding path)
  | some encoding =>
      match access path with
      | .error fault => .error (.unreadable fault)
      | .ok text => programOfText encoding path text

/-- The settings at a path; the defaults when the path is empty. -/
def loadSettings
    (around : Surroundings)
    (path : String) : Except Settings.LoadError Settings :=
  if path = "" then .ok .standard else Settings.load around.access around.order path

/-- The log line about an input that was read. -/
def loadedLine
    (path : String)
    (program : Program) : Log.Line :=
  ⟨.debug, "program loaded",
    [("path", path), ("functions", toString program.functions.length)]⟩

/-- What is the same for all inputs of a command. -/
structure Setup where
  /-- How to read files. -/
  access : Files.Access
  /-- The words for what is wrong with a text. -/
  wording : Wording
  /-- Whether the command has been cancelled. -/
  canceled : Bool
  /-- The registered passes. -/
  registry : Pass.Registry
  /-- The settings. -/
  settings : Settings

/-- What was done with one input. -/
structure Step where
  /-- What was written about it. -/
  errors : String
  /-- Where the records of the next input go. -/
  sink : Report.Sink
  /-- Whether everything went well. -/
  succeeded : Bool

/-- Read one input and run the pass over it. -/
def scanInput
    (setup : Setup)
    (sink : Report.Sink)
    (path : String) : Step :=
  match loadProgram setup.access path with
  | .error error =>
      ⟨"Failed to load " ++ path ++ ": " ++ error.message setup.wording ++ "\n", sink, false⟩
  | .ok program =>
      let result :=
        run setup.registry setup.settings.pass setup.settings.marker setup.canceled sink program
      let events := Event.logged (loadedLine path program) :: result.events
      let shown := String.join (events.map (Event.both setup.settings.verbose))
      match result.error with
      | some error => ⟨shown ++ error.message ++ "\n", result.sink, false⟩
      | none => ⟨shown, result.sink, true⟩

/-- Read the inputs in order, up to the first failure. -/
def scanInputs
    (setup : Setup)
    (sink : Report.Sink)
    (shown : String) : List String -> Result
  | [] => ⟨Result.success, "", shown⟩
  | path :: rest =>
      let step := scanInput setup sink path
      if step.succeeded then
        scanInputs setup step.sink (shown ++ step.errors) rest
      else
        .fail (shown ++ step.errors)

/-- Run the pass over some inputs with given settings. -/
def scanWith
    (setup : Setup)
    (inputs : List String) : Result :=
  match setup.settings.fault? with
  | some fault => .fail (fault.message ++ "\n")
  | none =>
      if inputs.isEmpty then
        .fail usage
      else
        match Report.Format.ofName? setup.settings.format with
        | none => .fail (Report.Format.unknownMessage setup.settings.format ++ "\n")
        | some format => scanInputs setup (.ofFormat .reliable format) "" inputs

/-- Do what the flags ask for, on some inputs. -/
def scan
    (around : Surroundings)
    (canceled : Bool)
    (choices : Choices)
    (inputs : List String) : Result :=
  if choices.list then
    ⟨Result.success, passList .standard, ""⟩
  else
    match loadSettings around choices.config with
    | .error error => .fail (error.message around.wording.toml ++ "\n")
    | .ok settings =>
        scanWith
          ⟨around.access, around.wording, canceled, .standard, choices.override settings⟩ inputs

/-- The command on a command line. -/
def execute
    (around : Surroundings)
    (canceled : Bool)
    (arguments : List String) : Result :=
  match Request.ofArguments arguments with
  | .error error => .fail (error.message ++ "\n" ++ usage)
  | .ok .help => ⟨Result.success, "", usage⟩
  | .ok (.scan choices inputs) => scan around canceled choices inputs

end Command
end CtorScan
