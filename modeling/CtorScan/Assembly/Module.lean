import CtorScan.Assembly.Ty

/-!
# Assembly modules

A module is a listing in which all names are resolved: functions with typed
parameters, blocks of instructions, and calls that refer to functions of the
module or to something else.  A module becomes a program by forgetting
everything but calls and the names of the other operations.
-/

namespace CtorScan
namespace Assembly

/-- What a call refers to. -/
inductive Callee where
  /-- A function of the module, by its position. -/
  | function (index : Nat)
  /-- Anything else: a local, a second name, an expression or machine code. -/
  | other
deriving DecidableEq

/-- An instruction of a module. -/
inductive ModuleStep where
  /-- A call with its arguments, as their shown forms and types. -/
  | call (callee : Callee) (arguments : List (String × Ty))
  /-- Any other instruction. -/
  | other (operation : String)

/-- A block of a module. -/
structure ModuleBlock where
  /-- Its name or number. -/
  name : Ident
  /-- Its instructions except the last. -/
  steps : List ModuleStep
  /-- The operation of its last instruction. -/
  last : String

/-- A function of a module. -/
structure ModuleFunction where
  /-- Its name or number. -/
  name : Ident
  /-- Its parameters, as their names and types. -/
  parameters : List (Ident × Ty)
  /-- Whether it takes further arguments. -/
  variadic : Bool
  /-- Its blocks, none for a declaration. -/
  blocks : List ModuleBlock

/-- A module. -/
structure Module where
  /-- The name of its source file, empty when it is not said. -/
  sourceName : String
  /-- Its type definitions. -/
  definitions : Definitions
  /-- Its functions in order. -/
  functions : List ModuleFunction

namespace Module

/-- The position of the called function. -/
def calleeIndex? : Callee -> Option Nat
  | .function index => some index
  | .other => none

/-- An instruction of the program. -/
def instruction
    (definitions : Definitions) : ModuleStep -> Instruction Nat
  | .call callee arguments =>
      .call ⟨calleeIndex? callee,
        arguments.map fun (text, type) => ⟨text, type.toTypeText definitions⟩, 0⟩
  | .other operation => .other operation

/-- A block of the program: the instructions, and the last one after them. -/
def block
    (definitions : Definitions)
    (block : ModuleBlock) : Block Nat where
  name := block.name.nameText
  instructions :=
    block.steps.map (fun step => some (instruction definitions step)) ++ [some (.other block.last)]

/-- A function of the program. -/
def function
    (definitions : Definitions)
    (function : ModuleFunction) : Function Nat where
  name := function.name.nameText
  parameters := function.parameters.map fun (name, type) =>
    ⟨name.nameText, type.toTypeText definitions⟩
  variadic := function.variadic
  blocks := function.blocks.map fun part => some (block definitions part)

/-- The program of a module. -/
def toProgram (module : Module) : Program where
  name := module.sourceName
  functions := module.functions.map (function module.definitions)

end Module
end Assembly
end CtorScan
