import CtorScan.Flow.Graph

/-!
# Simpler graphs

Blocks that cannot be reached go away, a block is joined with the only one that can
follow it, and a block that only leads to another one is left out.
-/

namespace CtorScan
namespace Flow
namespace Graph

variable {π : Type}

/-- The graph without the blocks that cannot be reached. -/
def withoutUnreachable (graph : Graph π) : Graph π :=
  let kept := graph.reachable
  { graph with
    blocks := graph.blocks.mapIdx fun number block =>
      if kept.contains number then block else none }

/-- Join a block with the one that follows it, if neither has another neighbour on
that side. -/
def fused? (graph : Graph π) (number : Nat) : Option (Graph π) := do
  let block <- graph.block? number
  match block.successors with
  | [next] =>
      let following <- graph.block? next
      if (graph.predecessors next).length == 1 && !following.startsWithPhi then
        let joined : Block π :=
          { comment := block.comment
            instructions := block.instructions.pop ++ following.instructions
            successors := following.successors }
        some ((graph.setBlock number (some joined)).setBlock next none)
      else
        none
  | _ => none

/-- Replace one of the blocks that can follow a block; a branch that has no choice
left is a jump. -/
def redirected (old new : Nat) (block : Block π) : Block π :=
  let successors := block.successors.map fun next => if next == old then new else next
  if successors == [new, new] then
    { block with
      instructions := block.instructions.pop.push ⟨.jump, [], none, none⟩
      successors := [new] }
  else
    { block with successors := successors }

/-- Leave out a block that only leads to another one. -/
def threaded? (graph : Graph π) (number : Nat) : Option (Graph π) := do
  let block <- graph.block? number
  if graph.roots.contains number || !block.isBareJump then
    none
  else
    match block.successors with
    | [next] =>
        let following <- graph.block? next
        if next == number || following.startsWithPhi then
          none
        else
          let sources := graph.predecessors number
          let redirectedGraph := sources.foldl (fun graph source =>
            graph.modifyBlock source (redirected number next)) graph
          some (redirectedGraph.setBlock number none)
    | _ => none

/-- Try both changes at every block in turn. -/
def simplifyOnce (graph : Graph π) : Graph π × Bool :=
  (List.range graph.blocks.size).foldl (fun (graph, changed) number =>
    let (graph, changed) :=
      match graph.fused? number with
      | some graph => (graph, true)
      | none => (graph, changed)
    match graph.threaded? number with
    | some graph => (graph, true)
    | none => (graph, changed)) (graph, false)

/-- Try both changes as long as something changes, as often as the bound allows. -/
def simplifyUpTo : Nat -> Graph π -> Graph π
  | 0, graph => graph
  | bound + 1, graph =>
      let (graph, changed) := graph.simplifyOnce
      if changed then simplifyUpTo bound graph else graph

/-- The blocks that are left, numbered from zero on. -/
def compact (graph : Graph π) : Graph π :=
  let kept := graph.numbers
  let renumber (number : Nat) : Nat := (kept.idxOf? number).getD 0
  { blocks := (kept.filterMap fun number =>
      (graph.block? number).map fun block =>
        some { block with successors := block.successors.map renumber }).toArray
    recovery := graph.recovery.map renumber }

/-- The graph after all simplifications. -/
def simplified (graph : Graph π) : Graph π :=
  (simplifyUpTo (graph.blocks.size + 1) graph.withoutUnreachable).compact

end Graph
end Flow
end CtorScan
