import CtorScan.Source.Typed

/-!
# Functions as graphs

The body of a function as blocks of simple instructions.  An instruction may have a
value, which others use by the number of its register.  Operations that are all
treated alike are known by their names only.
-/

namespace CtorScan
namespace Flow

open Source

variable {π : Type}

/-- What tells functions apart. -/
inductive RoutineKey where
  /-- A declared function with type arguments. -/
  | declared (function : Nat) (args : List Ty)
  /-- A function inside of another one. -/
  | closure (outer : RoutineKey) (number : Nat)
  /-- A function made for one use of a method as a value. -/
  | wrapper (number : Nat)
  /-- The function that gives the variables of a package their first values. -/
  | start (package : String)
deriving DecidableEq

/-- A function that can be called. -/
structure Routine where
  /-- What tells it from others. -/
  key : RoutineKey
  /-- Its full name. -/
  name : String
  /-- Its short name. -/
  label : String
  /-- The name and type of its receiver. -/
  receiver : Option (String × Ty)
  /-- Its parameters and results. -/
  signature : Source.Signature
  /-- The declared function whose body it runs. -/
  subject : Option Nat
deriving DecidableEq

instance : Inhabited Routine := ⟨⟨.wrapper 0, "", "", none, default, none⟩⟩

/-- What an instruction uses. -/
inductive Value where
  /-- A constant; without a value it is the zero of its type. -/
  | constant (value : Option Constant) (type : Ty)
  /-- A parameter. -/
  | param (name : String) (type : Ty)
  /-- A variable of a function around, by its address. -/
  | captured (name : String) (type : Ty)
  /-- A variable of a package, by its address. -/
  | global (name : String) (type : Ty)
  /-- A function. -/
  | routine (routine : Routine)
  /-- A function of the language. -/
  | builtin (name : String) (type : Ty)
  /-- The value of an instruction. -/
  | register (number : Nat) (type : Ty)

namespace Value

instance : Inhabited Value := ⟨.constant none default⟩

/-- The type of a value. -/
def type : Value -> Ty
  | constant _ type => type
  | param _ type => type
  | captured _ type => type
  | global _ type => type
  | routine target => target.signature.type
  | builtin _ type => type
  | register _ type => type

/-- The register that a value is in. -/
def register? : Value -> Option Nat
  | register number _ => some number
  | _ => none

/-- The value is in a register. -/
def isRegister (value : Value) (number : Nat) : Bool :=
  value.register? == some number

/-- The value is a constant. -/
def isConstant : Value -> Bool
  | constant _ _ => true
  | _ => false

/-- The value is the zero of its type. -/
def isZero : Value -> Bool
  | constant none _ => true
  | _ => false

end Value

/-- What an instruction does. -/
inductive Operation where
  /-- Make a variable; its value is the address. -/
  | alloc
  /-- Read what is at an address. -/
  | load
  /-- Write something at an address. -/
  | store
  /-- Join values from different ways. -/
  | phi
  /-- Go on with another block. -/
  | jump
  /-- Go on with one of two blocks. -/
  | branch
  /-- A call; one that is invoked is of a method of the first operand. -/
  | call (invoked : Bool)
  /-- A call on the side. -/
  | spawn (invoked : Bool)
  /-- A call at the end of the function. -/
  | postpone (invoked : Bool)
  /-- Run the calls that were left for the end. -/
  | runPostponed
  /-- Make a function with the variables that it uses. -/
  | closure (routine : Routine)
  /-- Anything else, by its name. -/
  | other (name : String)

namespace Operation

/-- The name of an operation. -/
def name : Operation -> String
  | alloc => "alloc"
  | load => "unop"
  | store => "store"
  | phi => "phi"
  | jump => "jump"
  | branch => "if"
  | call _ => "call"
  | spawn _ => "go"
  | postpone _ => "defer"
  | runPostponed => "rundefers"
  | closure _ => "makeclosure"
  | other name => name

/-- Values are joined. -/
def isPhi : Operation -> Bool
  | phi => true
  | _ => false

/-- The only effect is to go on with another block. -/
def isJump : Operation -> Bool
  | jump => true
  | _ => false

/-- A call is left for the end. -/
def isPostpone : Operation -> Bool
  | postpone _ => true
  | _ => false

/-- The calls that were left for the end are run. -/
def isRunPostponed : Operation -> Bool
  | runPostponed => true
  | _ => false

end Operation

/-- An instruction. -/
structure Instruction (π : Type) where
  /-- What it does. -/
  operation : Operation
  /-- What it uses. -/
  operands : List Value
  /-- The register of its value, if it has one. -/
  register : Option Nat
  /-- Its place, if it has one. -/
  place : Option π

instance : Inhabited (Instruction π) := ⟨⟨.jump, [], none, none⟩⟩

/-- A block of instructions, of which the last one says how to go on. -/
structure Block (π : Type) where
  /-- What it is for. -/
  comment : String
  /-- Its instructions. -/
  instructions : Array (Instruction π)
  /-- The numbers of the blocks that can follow. -/
  successors : List Nat
deriving Inhabited

namespace Block

/-- The block begins by joining values. -/
def startsWithPhi (block : Block π) : Bool :=
  (block.instructions[0]?).any fun instruction => instruction.operation.isPhi

/-- The block only goes on with another one. -/
def isBareJump (block : Block π) : Bool :=
  block.instructions.size == 1 &&
    (block.instructions[0]?).any fun instruction => instruction.operation.isJump

end Block

/-- The body of a function; it starts with the first block. -/
structure Graph (π : Type) where
  /-- The blocks under their numbers; those that are gone are absent. -/
  blocks : Array (Option (Block π))
  /-- The block with which to go on after a failure, if there is one. -/
  recovery : Option Nat
deriving Inhabited

namespace Graph

/-- The block with a number. -/
def block? (graph : Graph π) (number : Nat) : Option (Block π) :=
  (graph.blocks[number]?).join

/-- The blocks that can follow one. -/
def successors (graph : Graph π) (number : Nat) : List Nat :=
  ((graph.block? number).map Block.successors).getD []

/-- The numbers of the blocks that are there. -/
def numbers (graph : Graph π) : List Nat :=
  (List.range graph.blocks.size).filter fun number => (graph.block? number).isSome

/-- The blocks that one can follow, as often as it can follow them. -/
def predecessors (graph : Graph π) (number : Nat) : List Nat :=
  graph.numbers.flatMap fun source =>
    (graph.successors source).filter (· == number) |>.map fun _ => source

/-- Add what can be reached, one step at a time and as often as the bound allows. -/
def reachUpTo (next : Nat -> List Nat) : Nat -> List Nat -> List Nat -> List Nat
  | 0, found, _ => found
  | _, found, [] => found
  | bound + 1, found, number :: rest =>
      if found.contains number then
        reachUpTo next bound found rest
      else
        reachUpTo next bound (number :: found) (next number ++ rest)

/-- A bound on the steps to reach everything. -/
def reachLimit (graph : Graph π) : Nat :=
  graph.numbers.foldl (fun sum number => sum + (graph.successors number).length + 1) 2

/-- The blocks where the function can begin or go on. -/
def roots (graph : Graph π) : List Nat :=
  0 :: graph.recovery.toList

/-- The blocks that can be reached. -/
def reachable (graph : Graph π) : List Nat :=
  reachUpTo graph.successors (graph.reachLimit + 1) [] graph.roots

/-- Replace a block. -/
def setBlock (graph : Graph π) (number : Nat) (block : Option (Block π)) : Graph π :=
  { graph with blocks := graph.blocks.setIfInBounds number block }

/-- Change a block. -/
def modifyBlock (graph : Graph π) (number : Nat) (change : Block π -> Block π) : Graph π :=
  { graph with blocks := graph.blocks.modify number (Option.map change) }

end Graph
end Flow
end CtorScan
