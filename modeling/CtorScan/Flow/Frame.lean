import CtorScan.Flow.Lift
import CtorScan.Flow.Simplify
import CtorScan.Source.Type.Relation
import CtorScan.Source.Type.Text

/-!
# Functions in the making

The state in which graphs are made: the function at hand and the functions around it,
each with its blocks, its variables, and the places that jumps go to.
-/

namespace CtorScan
namespace Flow

open Source

variable {π : Type}

/-- What is kept at an address of a function. -/
inductive Slot where
  /-- A variable of the source. -/
  | var (id : Nat)
  /-- The state of a loop over a function. -/
  | signal (number : Nat)
  /-- The calls that are left for the end. -/
  | postponed
deriving DecidableEq

/-- Where jumps without a label go. -/
structure Target where
  /-- The block after a loop or choice. -/
  leave : Option Nat
  /-- The block of the next turn of a loop. -/
  next : Option Nat
  /-- The block of the next clause. -/
  pass : Option Nat
deriving Inhabited

/-- Where jumps with a label go. -/
structure Label where
  /-- The label. -/
  name : String
  /-- The block that it stands before. -/
  start : Nat
  /-- Whether the labeled statement has been met. -/
  isMet : Bool
  /-- The block after the labeled statement. -/
  leave : Option Nat
  /-- The block of its next turn. -/
  next : Option Nat
deriving Inhabited

/-- The block that a word without a label leads to. -/
def Target.block? (target : Target) (word : String) : Option Nat :=
  match word with
  | "break" => target.leave
  | "continue" => target.next
  | _ => target.pass

/-- The block that a word with a label leads to. -/
def Label.block? (label : Label) (word : String) : Option Nat :=
  match word with
  | "break" => label.leave
  | "continue" => label.next
  | _ => some label.start

/-- Where a jump out of the body of a loop over a function goes.  Functions are
counted from the outermost one. -/
inductive Goal where
  /-- To the end of the function around all such loops. -/
  | finish (level : Nat)
  /-- To a block of a function around. -/
  | block (level number : Nat)
  /-- To a label that may come later. -/
  | label (name : String)

/-- A jump out of the body of a loop over a function. -/
structure Exit where
  /-- The number that stands for it. -/
  number : Nat
  /-- Where it goes. -/
  goal : Goal

/-- A function whose graph is made.  A function without a body has no graph. -/
structure Made (π : Type) where
  /-- The function. -/
  routine : Routine
  /-- Its place, if it has one. -/
  place : Option π
  /-- Its graph. -/
  graph : Option (Graph π)

/-- A function with a place whose graph is made, with the functions inside of it. -/
structure Nested (π : Type) where
  /-- The function. -/
  routine : Routine
  /-- Its place. -/
  place : π
  /-- Its graph. -/
  graph : Option (Graph π)
  /-- The functions directly inside of it, in order. -/
  inner : List (Nested π)

namespace Nested

/-- The function without those inside of it. -/
def made (nested : Nested π) : Made π :=
  ⟨nested.routine, some nested.place, nested.graph⟩

mutual

/-- The function, followed by each function inside of it and those inside of that one. -/
def all : Nested π -> List (Made π)
  | ⟨routine, place, graph, inner⟩ => made ⟨routine, place, graph, inner⟩ :: allOf inner

/-- Functions one after the other, each followed by those inside of it. -/
def allOf : List (Nested π) -> List (Made π)
  | [] => []
  | nested :: rest => nested.all ++ allOf rest

end

end Nested

/-- A function in the making. -/
structure Frame (π : Type) where
  /-- The function. -/
  routine : Routine
  /-- Its blocks. -/
  blocks : Array (Block π)
  /-- The block at hand. -/
  current : Nat
  /-- The next register. -/
  nextRegister : Nat
  /-- The types of variables by the registers of their addresses. -/
  cells : List (Nat × Ty)
  /-- The variables whose address is known elsewhere. -/
  escaped : List Nat
  /-- The addresses of variables. -/
  slots : List (Slot × Value)
  /-- Joined addresses of one variable in different turns of a loop. -/
  turns : List (Nat × List Nat)
  /-- The addresses that come from the function around, in order. -/
  captures : List Value
  /-- The parameters. -/
  parameters : List Value
  /-- The addresses of the results. -/
  results : List Value
  /-- The variables of the results of the function around all loops over functions. -/
  resultVars : List Var
  /-- The block with which to go on after a failure. -/
  recovery : Option Nat
  /-- The functions directly inside. -/
  inner : List (Nested π)
  /-- The number of functions directly inside, those in the making included. -/
  innerCount : Nat
  /-- Where jumps without a label go, the innermost first. -/
  targets : List Target
  /-- Where jumps with a label go. -/
  labels : List Label
  /-- The state of the loop over a function whose body this is. -/
  signal : Option Slot
  /-- The jumps out of this body. -/
  exits : List Exit
  /-- The registers of the calls left for the end and of the address at which they are
  kept. -/
  postponed : Option (Nat × Nat)
deriving Inhabited

/-- The state of making functions. -/
structure BuildState (π : Type) where
  /-- What is declared. -/
  env : Env
  /-- The declared functions that never return. -/
  endless : List Nat
  /-- The functions in the making, the innermost first. -/
  frames : List (Frame π)
  /-- A number that was not yet used. -/
  nextNumber : Nat
  /-- The declared functions that were used so far, with their type arguments. -/
  known : List Routine

/-- A computation that makes functions. -/
abbrev Build (π : Type) := StateT (BuildState π) Option

namespace Frame

/-- Note that the address of a variable is known elsewhere. -/
def escape (frame : Frame π) (address : Value) : Frame π :=
  match address with
  | .register number _ =>
      let numbers := (frame.turns.lookup number).getD [number]
      { frame with escaped := numbers ++ frame.escaped }
  | _ => frame

/-- Find the address at which something is kept.  In a function around it is
captured by all functions in between. -/
def find?
    (slot : Slot)
    (name : String) :
    Bool -> List (Frame π) -> Option (Value × List (Frame π))
  | _, [] => none
  | escaping, frame :: rest =>
      match frame.slots.lookup slot with
      | some address =>
          some (address, (if escaping then frame.escape address else frame) :: rest)
      | none =>
          (find? slot name true rest).map fun (outer, rest) =>
            let address := Value.captured name outer.type
            (address,
              { frame with
                slots := (slot, address) :: frame.slots
                captures := frame.captures ++ [outer] } :: rest)

/-- A function whose making begins. -/
def start (routine : Routine) : Frame π :=
  { routine := routine, blocks := #[⟨"entry", #[], []⟩], current := 0, nextRegister := 0,
    cells := [], escaped := [], slots := [], turns := [], captures := [], parameters := [],
    results := [], resultVars := [], recovery := none, inner := [], innerCount := 0,
    targets := [], labels := [], signal := none, exits := [], postponed := none }

end Frame

namespace Build

/-- What is declared. -/
def env : Build π Env := do
  return (<- get).env

/-- The function at hand. -/
def frame : Build π (Frame π) := do
  match (<- get).frames with
  | frame :: _ => return frame
  | [] => failure

/-- Change the function at hand. -/
def modifyFrame (change : Frame π -> Frame π) : Build π Unit :=
  modify fun state =>
    match state.frames with
    | frame :: rest => { state with frames := change frame :: rest }
    | [] => state

/-- A number that was not yet used. -/
def freshNumber : Build π Nat := do
  let state <- get
  set { state with nextNumber := state.nextNumber + 1 }
  return state.nextNumber

/-- A declared function as it was first used.  Type arguments that are the same may be
written in different ways, but they make one function. -/
def firstUse (routine : Routine) : Build π Routine := do
  let state <- get
  match state.known.find? fun known => known.key = routine.key with
  | some known => return known
  | none =>
      set { state with known := routine :: state.known }
      return routine

/-- The number of functions around the one at hand. -/
def level : Build π Nat := do
  return (<- get).frames.length - 1

/-! ## Blocks -/

/-- A new block. -/
def newBlock (comment : String) : Build π Nat := do
  let number := (<- frame).blocks.size
  modifyFrame fun frame => { frame with blocks := frame.blocks.push ⟨comment, #[], []⟩ }
  return number

/-- Go on in a block. -/
def continueIn (number : Nat) : Build π Unit :=
  modifyFrame fun frame => { frame with current := number }

/-- Add an instruction to the block at hand. -/
def append (instruction : Instruction π) : Build π Unit :=
  modifyFrame fun frame =>
    { frame with
      blocks := frame.blocks.modify frame.current fun block =>
        { block with instructions := block.instructions.push instruction } }

/-- Say which blocks can follow the one at hand. -/
def follow (successors : List Nat) : Build π Unit :=
  modifyFrame fun frame =>
    { frame with
      blocks := frame.blocks.modify frame.current fun block =>
        { block with successors := block.successors ++ successors } }

/-- An instruction without a value. -/
def act (operation : Operation) (operands : List Value) (place : Option π) : Build π Unit :=
  append ⟨operation, operands, none, place⟩

/-- An instruction with a value of a type. -/
def compute
    (operation : Operation)
    (operands : List Value)
    (type : Ty)
    (place : Option π) : Build π Value := do
  let number := (<- frame).nextRegister
  modifyFrame fun frame => { frame with nextRegister := number + 1 }
  append ⟨operation, operands, some number, place⟩
  return .register number type

/-- An instruction with a value that is known by its name only. -/
def simple (name : String) (operands : List Value) (type : Ty) : Build π Value :=
  compute (.other name) operands type none

/-- Go on with another block. -/
def jump (target : Nat) : Build π Unit := do
  act .jump [] none
  follow [target]

/-- Go on with one of two blocks. -/
def branch (condition : Value) (onTrue onFalse : Nat) : Build π Unit := do
  act .branch [condition] none
  follow [onTrue, onFalse]

/-! ## Variables -/

/-- Make a variable without a name. -/
def alloc (type : Ty) (escaping : Bool) : Build π Value := do
  let address <- compute .alloc [] (.pointer type) none
  match address with
  | .register number _ =>
      modifyFrame fun frame =>
        { frame with
          cells := (number, type) :: frame.cells
          escaped := if escaping then number :: frame.escaped else frame.escaped }
  | _ => pure ()
  return address

/-- Set where something is kept. -/
def keepAt (slot : Slot) (address : Value) : Build π Unit :=
  modifyFrame fun frame => { frame with slots := (slot, address) :: frame.slots }

/-- Make a variable of the source. -/
def newVariable (var : Var) : Build π Value := do
  let address <- alloc var.type false
  keepAt (.var var.id) address
  return address

/-- The address at which something is kept. -/
def addressOf (slot : Slot) (name : String) (escaping : Bool) : Build π Value := do
  let state <- get
  match Frame.find? slot name escaping state.frames with
  | some (address, frames) =>
      set { state with frames := frames }
      return address
  | none => failure

/-- The address of a variable of the source. -/
def variableAddress (var : Var) (escaping : Bool) : Build π Value :=
  addressOf (.var var.id) var.name escaping

/-! ## Jumps -/

/-- Do something with targets for jumps. -/
def withTarget (target : Target) (action : Build π α) : Build π α := do
  modifyFrame fun frame => { frame with targets := target :: frame.targets }
  let result <- action
  modifyFrame fun frame => { frame with targets := frame.targets.tail }
  return result

/-- The label with a name; one that is new gets a block. -/
def label (name : String) : Build π Label := do
  match (<- frame).labels.find? fun label => label.name == name with
  | some label => return label
  | none =>
      let start <- newBlock name
      let label : Label := ⟨name, start, false, none, none⟩
      modifyFrame fun frame => { frame with labels := label :: frame.labels }
      return label

/-- Change a label, if there is one. -/
def modifyLabel (name : Option String) (change : Label -> Label) : Build π Unit :=
  modifyFrame fun frame =>
    { frame with
      labels := frame.labels.map fun label =>
        if some label.name == name then change label else label }

/-! ## Whole functions -/

/-- The zero of a type; for numbers, texts and truth values it has a value. -/
def zero (env : Env) (type : Ty) : Value :=
  if env.allBasic Basic.isBoolean type then
    .constant (some (.bool false)) type
  else if env.allBasic Basic.isNumeric type then
    .constant (some (.int 0)) type
  else if env.allBasic Basic.isString type then
    .constant (some (.string [])) type
  else
    .constant none type

/-- The graph of a function all of whose blocks are made. -/
def finishedGraph (env : Env) (frame : Frame π) : Graph π :=
  let graph : Graph π := ⟨frame.blocks.map some, frame.recovery⟩
  let types (register : Nat) : Ty := (frame.cells.lookup register).getD default
  let fixed :=
    if frame.recovery.isSome then frame.results.filterMap Value.register? else []
  let dropped :=
    match frame.postponed with
    | some (call, address) => if frame.escaped.contains address then [] else [call]
    | none => []
  Lift.lift graph.simplified types (zero env) frame.nextRegister fixed dropped

/-- Begin with a function inside of the one at hand. -/
def enter (frame : Frame π) : Build π Unit :=
  modify fun state => { state with frames := frame :: state.frames }

/-- Be done with the function at hand, which has a place: add it to the one around it, and
tell what it captures from that one. -/
def leave (place : π) : Build π (List Value) := do
  let state <- get
  match state.frames with
  | frame :: outer :: rest =>
      let made : Nested π :=
        ⟨frame.routine, place, some (finishedGraph state.env frame), frame.inner⟩
      set { state with frames := { outer with inner := outer.inner ++ [made] } :: rest }
      return frame.captures
  | _ => failure

end Build
end Flow
end CtorScan
