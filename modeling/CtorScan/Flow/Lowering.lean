import CtorScan.Flow.Frame
import CtorScan.Program.Basic

/-!
# Functions as parts of programs

Functions whose graphs are made become functions of a program.  What is declared about
a called function is looked up once and then shared by all calls of it.
-/

namespace CtorScan
namespace Flow

open Source (Ty Env)

variable {π : Type}

/-! ## Texts -/

/-- A type in writing, and whether its values are pointers. -/
def typeText (env : Env) (type : Ty) : TypeText :=
  ⟨env.text type, env.isPointer type || env.basic? type == some .unsafePointer⟩

/-- The zero of a type in writing. -/
def zeroText (env : Env) (type : Ty) : String :=
  if env.isParam type then
    "*new(" ++ env.text type ++ ")"
  else
    match env.underlying type with
    | .node (.array _) _ => env.text type ++ "\x7b\x7d"
    | .node (.struct _) _ => env.text type ++ "\x7b\x7d"
    | _ => "nil"

/-- A value in writing, where registers have new numbers. -/
def valueText (env : Env) (numbers : List (Nat × Nat)) : Value -> String
  | .constant (some value) type => value.text ++ ":" ++ env.text type
  | .constant none type => zeroText env type ++ ":" ++ env.text type
  | .param name _ => name
  | .captured name _ => name
  | .global name _ => name
  | .routine routine => routine.label
  | .builtin name _ => name
  | .register number _ => "t" ++ toString ((numbers.lookup number).getD 0)

/-! ## Declarations -/

/-- What is declared about a function. -/
def Routine.declaration (env : Env) (routine : Routine) : Signature where
  name := routine.name
  parameters := (routine.receiver.toList ++ routine.signature.params).map fun (name, type) =>
    ⟨name, typeText env type⟩
  variadic := routine.signature.variadic

/-- The declarations of called functions, in the order in which they were first
called. -/
structure Declarations where
  /-- The functions, and what is declared about them. -/
  entries : List (Routine × Signature)
deriving Inhabited

namespace Declarations

/-- No declarations. -/
def none : Declarations := ⟨[]⟩

/-- The number of the declaration of a function, if there is one. -/
def number? (declarations : Declarations) (routine : Routine) : Option Nat :=
  declarations.entries.findIdx? fun entry => entry.1 = routine

/-- The number of the declaration of a function, which is added if it is new. -/
def find (declarations : Declarations) (env : Env) (routine : Routine) : Nat × Declarations :=
  match declarations.number? routine with
  | some number => (number, declarations)
  | .none =>
      (declarations.entries.length,
        ⟨declarations.entries ++ [(routine, routine.declaration env)]⟩)

/-- The declaration with a number. -/
def get? (declarations : Declarations) (number : Nat) : Option Signature :=
  (declarations.entries[number]?).map Prod.snd

end Declarations

/-! ## Instructions -/

/-- The instructions of a graph in order. -/
def Graph.instructions (graph : Graph π) : List (Instruction π) :=
  graph.numbers.flatMap fun number =>
    ((graph.block? number).map fun block => block.instructions.toList).getD []

/-- The new numbers of registers, in the order of the instructions. -/
def Graph.registerNumbers (graph : Graph π) : List (Nat × Nat) :=
  (graph.instructions.filterMap Instruction.register).zipIdx

/-- The functions that registers stand for. -/
def Graph.closures (graph : Graph π) : List (Nat × Routine) :=
  graph.instructions.filterMap fun instruction =>
    match instruction.operation, instruction.register with
    | .closure routine, some number => some (number, routine)
    | _, _ => none

/-- What is needed to write the instructions of a function. -/
structure Surface (π : Type) where
  /-- What is declared. -/
  env : Env
  /-- The number of a place. -/
  numberOf : π -> Nat
  /-- The place of the function, if it has one. -/
  place : Option π
  /-- The new numbers of its registers. -/
  numbers : List (Nat × Nat)
  /-- The functions that registers stand for. -/
  closures : List (Nat × Routine)

/-- The function that a call is of, if that is known. -/
def Surface.called? (surface : Surface π) (invoked : Bool) : Option Value -> Option Routine
  | some (.routine routine) => if invoked then none else some routine
  | some (.register number _) => if invoked then none else surface.closures.lookup number
  | _ => none

/-- An argument of a call. -/
def Surface.argument (surface : Surface π) (value : Value) : Argument :=
  ⟨valueText surface.env surface.numbers value, typeText surface.env value.type⟩

/-- A call; without a place of its own it has that of the function it is in, and zero stands
for no place at all. -/
def Surface.call
    (surface : Surface π)
    (invoked : Bool)
    (instruction : Instruction π)
    (declarations : Declarations) : Call Nat × Declarations :=
  let arguments := (instruction.operands.drop 1).map surface.argument
  let place := ((instruction.place.or surface.place).map surface.numberOf).getD 0
  match surface.called? invoked instruction.operands.head? with
  | some routine =>
      let (number, declarations) := declarations.find surface.env routine
      (⟨some number, arguments, place⟩, declarations)
  | none => (⟨none, arguments, place⟩, declarations)

/-- An instruction. -/
def Surface.instruction
    (surface : Surface π)
    (instruction : Instruction π)
    (declarations : Declarations) : CtorScan.Instruction Nat × Declarations :=
  let asCall (invoked : Bool) : CtorScan.Instruction Nat × Declarations :=
    let (call, declarations) := surface.call invoked instruction declarations
    (.call call, declarations)
  match instruction.operation with
  | .call invoked => asCall invoked
  | .spawn invoked => asCall invoked
  | .postpone invoked => asCall invoked
  | operation => (.other operation.name, declarations)

/-- Instructions one after the other. -/
def Surface.instructions
    (surface : Surface π) :
    List (Instruction π) -> Declarations -> List (CtorScan.Instruction Nat) × Declarations
  | [], declarations => ([], declarations)
  | instruction :: rest, declarations =>
      let (first, declarations) := surface.instruction instruction declarations
      let (others, declarations) := surface.instructions rest declarations
      (first :: others, declarations)

/-- Blocks one after the other, numbered from some number on. -/
def Surface.blocks
    (surface : Surface π) :
    Nat -> List (Block π) -> Declarations -> List (CtorScan.Block Nat) × Declarations
  | _, [], declarations => ([], declarations)
  | number, block :: rest, declarations =>
      let (instructions, declarations) :=
        surface.instructions block.instructions.toList declarations
      let first : CtorScan.Block Nat :=
        ⟨toString number ++ "." ++ block.comment, instructions.map some⟩
      let (others, declarations) := surface.blocks (number + 1) rest declarations
      (first :: others, declarations)

/-! ## Functions -/

/-- A function of a program, in which calls refer to declarations by number. -/
def Made.lower
    (env : Env)
    (numberOf : π -> Nat)
    (made : Made π)
    (declarations : Declarations) : Function Nat × Declarations :=
  match made.graph with
  | none => (⟨made.routine.declaration env, []⟩, declarations)
  | some graph =>
      let surface : Surface π := ⟨env, numberOf, made.place, graph.registerNumbers, graph.closures⟩
      let (blocks, declarations) :=
        surface.blocks 0 (graph.blocks.toList.filterMap id) declarations
      (⟨made.routine.declaration env, blocks.map some⟩, declarations)

/-- Functions of a program one after the other. -/
def lowerAll
    (env : Env)
    (numberOf : π -> Nat) :
    List (Made π) -> Declarations -> List (Function Nat) × Declarations
  | [], declarations => ([], declarations)
  | made :: rest, declarations =>
      let (first, declarations) := made.lower env numberOf declarations
      let (others, declarations) := lowerAll env numberOf rest declarations
      (first :: others, declarations)

end Flow
end CtorScan
