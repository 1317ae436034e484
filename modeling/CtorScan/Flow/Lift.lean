import CtorScan.Flow.Dominance

/-!
# Variables as values

A variable whose address is only used to read and write it is replaced by the values
that it has: reading it gives what was written before, and where ways with different
values meet, they are joined.
-/

namespace CtorScan
namespace Flow

open Source

variable {π : Type}

/-- A variable that is replaced by its values. -/
structure Lifted where
  /-- The register of its address. -/
  register : Nat
  /-- The type of its values. -/
  type : Ty
  /-- The blocks in which it gets a value. -/
  sources : List Nat
deriving Inhabited

/-- A new join of the values of a variable. -/
structure Join where
  /-- The block it is in. -/
  block : Nat
  /-- The register of the address of the variable. -/
  variable_ : Nat
  /-- The register of the joined value. -/
  register : Nat
  /-- The type of the values. -/
  type : Ty
deriving Inhabited

namespace Lift

/-- All instructions with the numbers of their blocks. -/
def located (graph : Graph π) : List (Nat × Instruction π) :=
  graph.numbers.flatMap fun number =>
    match graph.block? number with
    | some block => block.instructions.toList.map fun instruction => (number, instruction)
    | none => []

/-- The instruction uses an address, if at all, only to read or write what is
there. -/
def usesOnlyAsAddress (register : Nat) (instruction : Instruction π) : Bool :=
  if instruction.operands.any fun operand => operand.isRegister register then
    match instruction.operation, instruction.operands with
    | .load, [_] => true
    | .store, [_, stored] => !stored.isRegister register
    | _, _ => false
  else
    true

/-- The instruction writes at an address. -/
def writesAt (register : Nat) (instruction : Instruction π) : Bool :=
  match instruction.operation, instruction.operands with
  | .store, address :: _ => address.isRegister register
  | _, _ => false

/-- The type of what a pointer points to. -/
def pointedType : Ty -> Ty
  | .node .pointer [element] => element
  | other => other

/-- The variables that can be replaced, in order.  Those that have to stay are
given. -/
def candidates
    (all : List (Nat × Instruction π))
    (types : Nat -> Ty)
    (fixed : List Nat) : List Lifted :=
  all.filterMap fun (number, instruction) =>
    match instruction.operation, instruction.register with
    | .alloc, some register =>
        if fixed.contains register then
          none
        else if all.all fun entry => usesOnlyAsAddress register entry.2 then
          let writers := all.filter fun entry => writesAt register entry.2
          some ⟨register, types register, (number :: writers.map Prod.fst).eraseDups⟩
        else
          none
    | _, _ => none

/-- The joins for variables, with registers from some number on. -/
def joinsFor
    (frontiers : Array (List Nat))
    (first : Nat)
    (liftable : List Lifted) : List Join :=
  let found := liftable.flatMap fun lifted =>
    (Dominance.joins frontiers lifted.sources).map fun block =>
      (block, lifted.register, lifted.type)
  found.zipIdx.map fun ((block, register, type), count) =>
    ⟨block, register, first + count, type⟩

/-- What is known while variables are replaced. -/
structure State (π : Type) where
  /-- What reading gave, by the register of the reading. -/
  readings : List (Nat × Value)
  /-- The values of variables at the end of each block. -/
  endings : Array (List (Nat × Value))
  /-- The values that come to each join, by its register. -/
  edges : List (Nat × Value)
  /-- The instructions that stay in each block. -/
  kept : Array (List (Instruction π))
deriving Inhabited

/-- A value after the replacement. -/
def replaced (readings : List (Nat × Value)) (value : Value) : Value :=
  match value with
  | .register number _ => (readings.lookup number).getD value
  | other => other

/-- Replace variables in the instructions of a block. -/
def throughBlock
    (lifted : Nat -> Option Lifted)
    (zero : Ty -> Value)
    (start : List (Nat × Value) × List (Nat × Value)) :
    List (Instruction π) -> List (Nat × Value) × List (Nat × Value) × List (Instruction π)
  | [] => (start.1, start.2, [])
  | instruction :: rest =>
      let (readings, current) := start
      let address? := (instruction.operands.head?.bind Value.register?).bind lifted
      match instruction.operation, instruction.register, address? with
      | .alloc, some register, _ =>
          match lifted register with
          | some variable_ =>
              throughBlock lifted zero
                (readings, (register, zero variable_.type) :: current) rest
          | none =>
              let (readings, current, kept) :=
                throughBlock lifted zero (readings, current) rest
              (readings, current, instruction :: kept)
      | .store, _, some variable_ =>
          let stored := replaced readings ((instruction.operands.drop 1).headD default)
          throughBlock lifted zero
            (readings, (variable_.register, stored) :: current) rest
      | .load, some register, some variable_ =>
          let found := (current.lookup variable_.register).getD (zero variable_.type)
          throughBlock lifted zero ((register, found) :: readings, current) rest
      | _, _, _ =>
          let (readings, current, kept) := throughBlock lifted zero (readings, current) rest
          (readings, current, instruction :: kept)

/-- Replace variables in one block, which comes after all that dominate it. -/
def visit
    (graph : Graph π)
    (dominance : Dominance)
    (joins : List Join)
    (lifted : Nat -> Option Lifted)
    (zero : Ty -> Value)
    (state : State π)
    (number : Nat) : State π :=
  let before :=
    match dominance.parent? number with
    | some parent => state.endings.getD parent []
    | none => []
  let own := joins.filter fun join => join.block == number
  let start := own.map (fun join => (join.variable_, Value.register join.register join.type))
    ++ before
  let instructions := ((graph.block? number).map fun block => block.instructions.toList).getD []
  let (readings, current, kept) :=
    throughBlock lifted zero (state.readings, start) instructions
  let edges := (graph.successors number).flatMap fun next =>
    (joins.filter fun join => join.block == next).map fun join =>
      (join.register, (current.lookup join.variable_).getD (zero join.type))
  { readings := readings
    endings := state.endings.setIfInBounds number current
    edges := state.edges ++ edges
    kept := state.kept.setIfInBounds number kept }

/-- The joins whose values are used: at once by another instruction, or by a join
that is used. -/
def usedJoins (joins : List Join) (edges : List (Nat × Value)) (direct : List Nat) : List Nat :=
  let next (register : Nat) : List Nat :=
    edges.filterMap fun (target, value) =>
      if target == register then value.register? else none
  Graph.reachUpTo next (edges.length * 2 + direct.length + joins.length + 2) [] direct

/-- The graph with variables replaced by their values.  Some variables have to stay,
and some instructions go away by their registers. -/
def lift
    (graph : Graph π)
    (types : Nat -> Ty)
    (zero : Ty -> Value)
    (nextRegister : Nat)
    (fixed dropped : List Nat) : Graph π :=
  let all := located graph
  let liftable := candidates all types fixed
  let lifted (register : Nat) : Option Lifted :=
    liftable.find? fun lifted => lifted.register == register
  let dominance := Dominance.ofGraph graph
  let frontiers :=
    (Array.range graph.blocks.size).map (Dominance.frontier graph dominance)
  let joins := joinsFor frontiers nextRegister liftable
  let order := (List.range (graph.blocks.size + 1)).flatMap fun depth =>
    graph.numbers.filter fun number => dominance.depth number == depth
  let start : State π :=
    ⟨[], Array.replicate graph.blocks.size [], [], Array.replicate graph.blocks.size []⟩
  let final := order.foldl (visit graph dominance joins lifted zero) start
  let replace := replaced final.readings
  let keepsPostponed := all.any fun entry => entry.2.operation.isPostpone
  let kept := final.kept.map fun instructions =>
    (instructions.filter fun instruction =>
      !instruction.register.any dropped.contains &&
        (keepsPostponed || !instruction.operation.isRunPostponed)).map fun instruction =>
          { instruction with operands := instruction.operands.map replace }
  let edges := final.edges.map fun (register, value) => (register, replace value)
  let direct := kept.toList.flatMap fun instructions =>
    instructions.flatMap fun instruction => instruction.operands.filterMap Value.register?
  let used := usedJoins joins edges direct
  let joined (number : Nat) : List (Instruction π) :=
    (joins.filter fun join => join.block == number && used.contains join.register).map
      fun join =>
        ⟨.phi, edges.filterMap fun (register, value) =>
          if register == join.register then some value else none, some join.register, none⟩
  { graph with
    blocks := graph.blocks.mapIdx fun number block =>
      block.map fun block =>
        { block with
          instructions := (joined number ++ kept.getD number []).toArray } }

end Lift
end Flow
end CtorScan
