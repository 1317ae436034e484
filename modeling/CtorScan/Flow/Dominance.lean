import CtorScan.Flow.Graph

/-!
# Dominance

A block dominates another one if every way from the start to that one leads through
it.
-/

namespace CtorScan
namespace Flow

variable {π : Type}

/-- Which blocks dominate which. -/
structure Dominance where
  /-- The blocks that each block dominates, itself among them. -/
  dominated : Array (List Nat)
  /-- The blocks that dominate each block, itself among them. -/
  dominators : Array (List Nat)
deriving Inhabited

namespace Dominance

/-- The blocks that a block dominates: those that cannot be reached without it. -/
def dominatedBy (graph : Graph π) (reachable : List Nat) (number : Nat) : List Nat :=
  let others := graph.roots.filter (· != number)
  let next (source : Nat) : List Nat := (graph.successors source).filter (· != number)
  let left := Graph.reachUpTo next (graph.reachLimit + 1) [] others
  reachable.filter fun target => !left.contains target

/-- The dominance of a graph. -/
def ofGraph (graph : Graph π) : Dominance :=
  let reachable := graph.reachable
  let dominated := (Array.range graph.blocks.size).map (dominatedBy graph reachable)
  { dominated := dominated
    dominators := (Array.range graph.blocks.size).map fun target =>
      (List.range graph.blocks.size).filter fun source =>
        (dominated.getD source []).contains target }

/-- One block dominates another one or is the same. -/
def dominates (dominance : Dominance) (source target : Nat) : Bool :=
  (dominance.dominated.getD source []).contains target

/-- The number of blocks that dominate a block. -/
def depth (dominance : Dominance) (number : Nat) : Nat :=
  (dominance.dominators.getD number []).length

/-- The closest block that dominates another one without being it. -/
def parent? (dominance : Dominance) (number : Nat) : Option Nat :=
  (dominance.dominators.getD number []).find? fun source =>
    source != number && dominance.depth source + 1 == dominance.depth number

/-- The frontier of a block: what can follow something that it dominates without
being dominated by it in turn. -/
def frontier (graph : Graph π) (dominance : Dominance) (number : Nat) : List Nat :=
  let targets := (dominance.dominated.getD number []).flatMap graph.successors
  (targets.filter fun target =>
    target == number || !dominance.dominates number target).eraseDups

/-- The blocks at which values that come from some blocks have to be joined. -/
def joins (frontiers : Array (List Nat)) (sources : List Nat) : List Nat :=
  let next (number : Nat) : List Nat := frontiers.getD number []
  let start := sources.flatMap next
  let bound := frontiers.foldl (fun sum frontier => sum + frontier.length + 1) 2
  Graph.reachUpTo next (bound + start.length) [] start

end Dominance
end Flow
end CtorScan
