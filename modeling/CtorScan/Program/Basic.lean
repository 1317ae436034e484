/-!
# Programs

A program is a list of functions; a function is a signature with blocks of
instructions; an instruction is a call or something that is no call.  What a
call refers to is a parameter of these types: the position of a function in its
program, or directly the signature that is called.

Blocks and instructions may be absent.  An absent block holds no instruction,
and an absent instruction is neither a call nor anything else, but a function
that has only absent blocks still has a body.
-/

namespace CtorScan

/-- A type as it is written, with the one fact about it that matters here. -/
structure TypeText where
  /-- The written form. -/
  text : String
  /-- Whether values of the type are pointers. -/
  pointer : Bool
deriving DecidableEq, Inhabited

/-- A declared parameter. -/
structure Parameter where
  /-- Its name, possibly empty. -/
  name : String
  /-- Its type. -/
  type : TypeText
deriving DecidableEq, Inhabited

/-- An actual argument of a call. -/
structure Argument where
  /-- The written form of the operand. -/
  text : String
  /-- The type of the operand. -/
  type : TypeText
deriving DecidableEq, Inhabited

/-- What is declared about a function. -/
structure Signature where
  /-- Its name, empty for functions that have none. -/
  name : String
  /-- Its parameters in order; the receiver of a method comes first. -/
  parameters : List Parameter
  /-- Whether more arguments may follow the declared ones. -/
  variadic : Bool
deriving DecidableEq, Inhabited

/-- A call whose target, when it is known, is a value of `κ`. -/
structure Call (κ : Type) where
  /-- The called function, absent when it cannot be resolved. -/
  callee : Option κ
  /-- The actual arguments. -/
  arguments : List Argument
  /-- The place of the call, zero when there is none. -/
  position : Int
deriving DecidableEq

/-- An instruction of a block. -/
inductive Instruction (κ : Type) where
  /-- A call. -/
  | call (call : Call κ)
  /-- Any other instruction, known by the name of its operation. -/
  | other (operation : String)
deriving DecidableEq

/-- A named block of instructions. -/
structure Block (κ : Type) where
  /-- Its name, possibly empty. -/
  name : String
  /-- Its instructions in order. -/
  instructions : List (Option (Instruction κ))
deriving DecidableEq

/-- A function with its body. -/
structure Function (κ : Type) extends Signature where
  /-- The blocks of the body, none for a declaration. -/
  blocks : List (Option (Block κ))
deriving DecidableEq

/-- A program, in which calls refer to functions by their position. -/
structure Program where
  /-- Its name, possibly empty. -/
  name : String
  /-- Its functions in order. -/
  functions : List (Function Nat)
deriving DecidableEq

/-- The same call with its target read as something else. -/
def Call.mapCallee
    (reading : κ -> Option μ)
    (call : Call κ) : Call μ where
  callee := call.callee.bind reading
  arguments := call.arguments
  position := call.position

/-- The same instruction with its target read as something else. -/
def Instruction.mapCallee
    (reading : κ -> Option μ) : Instruction κ -> Instruction μ
  | .call target => .call (target.mapCallee reading)
  | .other operation => .other operation

/-- The same block with call targets read as something else. -/
def Block.mapCallee
    (reading : κ -> Option μ)
    (block : Block κ) : Block μ where
  name := block.name
  instructions :=
    block.instructions.map (Option.map (Instruction.mapCallee reading))

namespace Function

/-- The same function with call targets read as something else. -/
def mapCallee
    (reading : κ -> Option μ)
    (function : Function κ) : Function μ where
  toSignature := function.toSignature
  blocks := function.blocks.map (Option.map (Block.mapCallee reading))

/-- A function without blocks is only declared. -/
def isDeclaration (function : Function κ) : Bool :=
  function.blocks.isEmpty

/-- All instructions, in block order and then in their order in the block. -/
def instructions (function : Function κ) : List (Option (Instruction κ)) :=
  function.blocks.flatMap fun block =>
    match block with
    | none => []
    | some block => block.instructions

end Function

namespace Program

/-- The position of the first function with the name. -/
def lookup?
    (program : Program)
    (name : String) : Option Nat :=
  program.functions.findIdx? fun function => function.name == name

/-- The signature of the function at a position. -/
def signature?
    (program : Program)
    (index : Nat) : Option Signature :=
  (program.functions[index]?).map Function.toSignature

/-- The functions, with each call target replaced by its signature. -/
def resolved (program : Program) : List (Function Signature) :=
  program.functions.map (Function.mapCallee program.signature?)

end Program
end CtorScan
