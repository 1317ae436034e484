import CtorScan.Program.Basic
import CtorScan.Text.Quoted
import CtorScan.Text.Search

/-!
# Descriptions of programs

A program can be described by hand: functions with parameters and blocks, and
instructions that name an operation, a called function, or a value that is
called.  Calls refer to functions by name and may refer forward.
-/

namespace CtorScan
namespace Description

/-- A described parameter. -/
structure Param where
  /-- Its name. -/
  name : String
  /-- Its type as it is written. -/
  type : String
  /-- Whether it is a pointer, if that is said. -/
  pointer : Option Bool
deriving DecidableEq, Inhabited

/-- A described instruction; exactly one of the first three texts is to be
given. -/
structure Instr where
  /-- The operation of an instruction that is no call. -/
  operation : String
  /-- The name of the called function. -/
  call : String
  /-- The value that is called. -/
  indirect : String
  /-- The arguments of a call. -/
  arguments : List String
deriving DecidableEq, Inhabited

/-- A described block. -/
structure Body where
  /-- Its name. -/
  name : String
  /-- Its instructions. -/
  instructions : List Instr
deriving DecidableEq, Inhabited

/-- A described function. -/
structure Func where
  /-- Its name. -/
  name : String
  /-- Its parameters. -/
  parameters : List Param
  /-- Whether it takes further arguments. -/
  variadic : Bool
  /-- Its blocks. -/
  blocks : List Body
deriving DecidableEq, Inhabited

/-- Why a description is no program. -/
inductive Fault where
  /-- Two functions have the same name. -/
  | repeatedFunction (name : String)
  /-- An instruction names none or several of operation, function and value. -/
  | unclearInstruction (function block : String) (index : Nat)
  /-- An instruction that is no call has arguments. -/
  | strayArguments (function block : String) (index : Nat)
deriving DecidableEq

namespace Fault

/-- Where an instruction stands, as messages say it. -/
def place
    (function block : String)
    (index : Nat) : String :=
  "function " ++ Text.quoted function ++ " block " ++ Text.quoted block ++ " instruction " ++
    toString index ++ ": "

/-- The wording of a fault. -/
def message : Fault -> String
  | .repeatedFunction name =>
      "invalid program: function " ++ Text.quoted name ++ " declared twice"
  | .unclearInstruction function block index =>
      place function block index ++
        "invalid program: exactly one of op, call, indirect must be set"
  | .strayArguments function block index =>
      place function block index ++ "invalid program: args are only allowed on calls"

end Fault

/-- The written type is a pointer type: `ptr`, with or without an address space,
or anything with an asterisk at its end. -/
def isPointerText (type : String) : Bool :=
  let text := Text.trim type.toList
  text == "ptr".toList || "ptr addrspace(".toList.isPrefixOf text || text.getLast? == some '*'

/-- The parameter that is described; what is said about pointers wins over how
the type is written. -/
def Param.toParameter (param : Param) : Parameter :=
  ⟨param.name, ⟨param.type, param.pointer.getD (isPointerText param.type)⟩⟩

/-- The first name that two functions share. -/
def repeatedName? : List String -> List Func -> Option String
  | _, [] => none
  | seen, function :: rest =>
      if function.name = "" then
        repeatedName? seen rest
      else if seen.contains function.name then
        some function.name
      else
        repeatedName? (function.name :: seen) rest

/-- An argument that is known by its text only. -/
def argument (text : String) : Argument :=
  ⟨text, ⟨"", false⟩⟩

/-- The described instruction, in a function and a block and at an index.  A call
refers to the position that its name has. -/
def Instr.toInstruction
    (position? : String -> Option Nat)
    (function block : String)
    (index : Nat)
    (instr : Instr) : Except Fault (Instruction Nat) :=
  match [instr.operation, instr.call, instr.indirect].map fun text => decide (text ≠ "") with
  | [true, false, false] =>
      if instr.arguments.isEmpty then
        .ok (.other instr.operation)
      else
        .error (.strayArguments function block index)
  | [false, true, false] =>
      .ok (.call ⟨position? instr.call, instr.arguments.map argument, 0⟩)
  | [false, false, true] =>
      .ok (.call ⟨none, instr.arguments.map argument, 0⟩)
  | _ => .error (.unclearInstruction function block index)

/-- The described block of a function. -/
def Body.toBlock
    (position? : String -> Option Nat)
    (function : String)
    (body : Body) : Except Fault (Block Nat) := do
  let instructions <- body.instructions.zipIdx.mapM fun (instr, index) =>
    instr.toInstruction position? function body.name index
  return ⟨body.name, instructions.map some⟩

/-- The described function. -/
def Func.toFunction
    (position? : String -> Option Nat)
    (function : Func) : Except Fault (Function Nat) := do
  let blocks <- function.blocks.mapM (Body.toBlock position? function.name)
  return {
    name := function.name
    parameters := function.parameters.map Param.toParameter
    variadic := function.variadic
    blocks := blocks.map some }

end Description

/-- A program as it is described by hand. -/
structure Description where
  /-- Its name. -/
  name : String
  /-- Its functions. -/
  functions : List Description.Func
deriving DecidableEq, Inhabited

namespace Description

/-- The position of the described function with a name. -/
def position?
    (description : Description)
    (name : String) : Option Nat :=
  description.functions.findIdx? fun function => function.name == name

/-- The described program. -/
def toProgram (description : Description) : Except Fault Program := do
  match repeatedName? [] description.functions with
  | some name => throw (.repeatedFunction name)
  | none =>
      let functions <- description.functions.mapM (Func.toFunction description.position?)
      return ⟨description.name, functions⟩

end Description
end CtorScan
