import CtorScan.Source.Checking.Branch
import CtorScan.Source.Checking.Builtin

/-!
# Checking expressions

Function bodies, calls of any kind, and the choice by the form of an expression.
-/

namespace CtorScan
namespace Source

variable {π : Type}

/-- A function whose body is checked. -/
structure CheckedBody (π : Type) where
  /-- The receiver of a method. -/
  receiver : Option Var
  /-- The parameters. -/
  params : List Var
  /-- The results. -/
  results : List Var
  /-- The body. -/
  body : List (TypedStmt π)

namespace Checkers

open Check

/-! ## Function bodies -/

/-- The statements of a body without those at the end that do nothing. -/
def trimmed (body : List (Stmt π)) : List (Stmt π) :=
  (body.reverse.dropWhile fun
    | .empty => true
    | _ => false).reverse

/-- The statement, or the statements that a sequence of declarations stands for. -/
def spliced : Stmt π -> TypedStmt π -> List (TypedStmt π)
  | .declare _, .block body => body
  | _, stmt => [stmt]

/-- Statements one after the other; only the last one can pass on to the next
clause. -/
def statementsIn
    (checkers : Checkers π)
    (around : Surroundings) : List (Stmt π) -> Check π (List (TypedStmt π))
  | [] => return []
  | [last] => return spliced last (<- checkers.statement around last)
  | stmt :: rest => do
      let checked <- checkers.statement { around with passable := false } stmt
      return spliced stmt checked ++ (<- checkers.statementsIn around rest)

/-- The statements of a body. -/
def statements
    (checkers : Checkers π)
    (around : Surroundings)
    (body : List (Stmt π)) : Check π (List (TypedStmt π)) :=
  checkers.statementsIn around (trimmed body)

/-- Make a parameter visible, if it has a name. -/
def parameter (entry : String × Ty) : Check π Var := do
  let var <- newVar entry.1 entry.2 false
  unless entry.1.isEmpty do
    declare entry.1 (.variable_ var)
  return var

/-- The body of a function in the innermost block. -/
def functionBody
    (checkers : Checkers π)
    (receiver : Option (String × Ty))
    (signature : Signature)
    (body : List (Stmt π)) : Check π (CheckedBody π) := do
  let receiver <-
    match receiver with
    | some entry => some <$> parameter entry
    | none => pure none
  let params <- signature.params.mapM parameter
  let results <- signature.results.mapM parameter
  let body <- inFunction results (checkers.statements .none body)
  let depth := (<- get).depth
  ensure (results.isEmpty || TypedStmt.bodyEnds depth body)
  ensure (TypedStmt.jumpsAreRight depth body)
  return ⟨receiver, params, results, body⟩

/-- A function with its body. -/
def functionValue
    (checkers : Checkers π)
    (place : π)
    (type : FunctionType π)
    (body : List (Stmt π)) : Check π (Operand π) := do
  let signature <- inBlock (checkers.signature type)
  let checked <- inBlock (checkers.functionBody none signature body)
  return .ofValue
    (.closure place signature.type checked.params checked.results checked.body)

/-! ## Calls -/

/-- A call or conversion. -/
def call
    (checkers : Checkers π)
    (function : Expr π)
    (place : π)
    (exprs : List (Expr π))
    (spread : Bool) : Check π (Operand π) := do
  let callee <- checkers.operand none function
  match callee.mode with
  | .type => checkers.conversion callee.type exprs spread
  | .builtin name =>
      let result <- checkers.builtin ⟨name, place, exprs, spread⟩
      unless result.isConstant do
        noteCall
      return result
  | .generic index given =>
      let result <- checkers.genericCall index given place exprs spread
      noteCall
      return result
  | _ =>
      let result <- checkers.valueCall (<- single callee) place exprs spread
      noteCall
      return result

/-! ## All expressions -/

/-- Any expression. -/
def operandAt (checkers : Checkers π) (hint : Option Ty) (expr : Expr π) : Check π (Operand π) := do
  match expr with
  | .name name =>
      ensure (!name.isBlank)
      objectOperand (<- checkers.object name.text)
  | .literal kind text => literal kind text
  | .dots _ => failure
  | .function place type body => checkers.functionValue place type body
  | .composite type elements => checkers.composite hint type elements
  | .paren inner => checkers.operand none inner
  | .selector operand field => checkers.selection operand field
  | .index operand indices => checkers.indexOrInstance operand indices
  | .slice operand low high max full => checkers.slice operand low high max full
  | .assertion operand type => checkers.assertion operand type
  | .call function place arguments spread => checkers.call function place arguments spread
  | .star operand => checkers.star operand
  | .unary operator operand => checkers.unary operator operand
  | .binary operator left right => checkers.binary operator left right
  | .keyed _ _ => failure
  | type => return .ofType (<- checkers.type type)

end Checkers
end Source
end CtorScan
