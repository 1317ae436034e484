import CtorScan.Program.Description
import CtorScan.Yaml.Decode

/-!
# Descriptions in YAML

The keys of a described program, the types that messages name, and the reading
of a program from a text or from a file.
-/

namespace CtorScan
namespace Description

section Keys

open Yaml.Decode

/-- Read a parameter. -/
def decodeParam : Yaml.Decoder Param :=
  record "yamlir.param" [
    .of "name" Param.name (fun param name => { param with name := name }) text,
    .of "type" Param.type (fun param type => { param with type := type }) text,
    .of "pointer" Param.pointer (fun param pointer => { param with pointer := pointer }) truth?]

/-- Read an instruction. -/
def decodeInstr : Yaml.Decoder Instr :=
  record "yamlir.instruction" [
    .of "op" Instr.operation (fun instr value => { instr with operation := value }) text,
    .of "call" Instr.call (fun instr value => { instr with call := value }) text,
    .of "indirect" Instr.indirect (fun instr value => { instr with indirect := value }) text,
    .of "args" Instr.arguments (fun instr value => { instr with arguments := value })
      (list "[]string" "" text)]

/-- Read a block. -/
def decodeBody : Yaml.Decoder Body :=
  record "yamlir.block" [
    .of "name" Body.name (fun body name => { body with name := name }) text,
    .of "instrs" Body.instructions (fun body value => { body with instructions := value })
      (list "[]yamlir.instruction" ⟨"", "", "", []⟩ decodeInstr)]

/-- Read a function. -/
def decodeFunc : Yaml.Decoder Func :=
  record "yamlir.function" [
    .of "name" Func.name (fun function name => { function with name := name }) text,
    .of "params" Func.parameters (fun function value => { function with parameters := value })
      (list "[]yamlir.param" ⟨"", "", none⟩ decodeParam),
    .of "variadic" Func.variadic (fun function value => { function with variadic := value }) truth,
    .of "blocks" Func.blocks (fun function value => { function with blocks := value })
      (list "[]yamlir.block" ⟨"", []⟩ decodeBody)]

/-- Read a description. -/
def decode : Yaml.Decoder Description :=
  record "yamlir.document" [
    .of "name" Description.name (fun value name => { value with name := name }) text,
    .of "functions" Description.functions (fun value list => { value with functions := list })
      (list "[]yamlir.function" ⟨"", [], false, []⟩ decodeFunc)]

end Keys

/-- Why a text gives no program. -/
inductive ReadError where
  /-- It is not well-formed YAML. -/
  | malformed (fault : Yaml.Fault)
  /-- Its values do not have the wanted types. -/
  | misfits (misfits : List Yaml.Misfit)
  /-- It describes no program. -/
  | invalid (fault : Fault)
deriving DecidableEq

/-- The wording of an error, where the words for what is wrong with a malformed
text are given. -/
def ReadError.message (words : String) : ReadError -> String
  | .malformed _ => "decode program: " ++ words
  | .misfits found =>
      "decode program: yaml: unmarshal errors:\n  " ++
        "\n  ".intercalate (found.map Yaml.Misfit.message)
  | .invalid fault => fault.message

/-- Read a program from a text. -/
def programOfText (text : String) : Except ReadError Program :=
  match Yaml.Decode.run decode ⟨"", []⟩ text with
  | .error fault => .error (.malformed fault)
  | .ok (description, []) => description.toProgram.mapError ReadError.invalid
  | .ok (_, found) => .error (.misfits found)

/-- A program without a name of its own is named after its file. -/
def nameAfter
    (path : String)
    (program : Program) : Program :=
  if program.name = "" then { program with name := path } else program

/-- Read a program from the text of a file. -/
def programOfFile
    (path text : String) : Except ReadError Program :=
  (programOfText text).map (nameAfter path)

end Description
end CtorScan
