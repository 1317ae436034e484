import CtorScan.Source.Reading.Expression

/-!
# Reading declarations and statements
-/

namespace CtorScan
namespace Source
namespace Readers

open Parse

variable {π : Type}

/-! ## Declarations -/

/-- One item of a declaration, or several of them in round brackets. -/
def group (item : Parse π α) : Parse π (List α) := do
  if <- acceptSymbol "(" then
    let items <- many do
      if <- atSymbol ")" then
        return none
      else
        let value <- item
        semicolon
        return some value
    symbol ")"
    semicolon
    return items
  else
    let value <- item
    semicolon
    return [value]

/-- The values of a declaration, if there are any. -/
def initialValues (readers : Readers π) : Parse π (List (Expr π)) := do
  if <- acceptSymbol "=" then separated1 (readers.expression false) else return []

/-- Constants with a type and values, either of which may be left out. -/
def constantSpec (readers : Readers π) : Parse π (ValueSpec π) := do
  let names <- separated1 name
  let type <- readers.type?
  return .mk names type (<- readers.initialValues)

/-- Variables with a type or values. -/
def variableSpec (readers : Readers π) : Parse π (ValueSpec π) := do
  let names <- separated1 name
  let type <- if <- atSymbol "=" then pure none else some <$> readers.type
  return .mk names type (<- readers.initialValues)

/-- Something that can only be a type. -/
def isTypeElement : Expr π -> Bool
  | .arrayType _ _ => true
  | .structType _ => true
  | .functionType _ => true
  | .interfaceType _ => true
  | .mapType _ _ => true
  | .channelType _ _ => true
  | .binary _ left right => isTypeElement left || isTypeElement right
  | .unary operator _ => operator == "~"
  | .paren inner => isTypeElement inner
  | _ => false

/-- Read an expression as the name of a type parameter, perhaps with its
constraint. -/
def splitTypeParam
    (forced : Bool) : Expr π -> Option (Name π × Option (Expr π))
  | .name name => some (name, none)
  | .binary "*" (.name name) right =>
      if forced || isTypeElement right then some (name, some (.star right)) else none
  | .binary "|" left right =>
      match splitTypeParam (forced || isTypeElement right) left with
      | some (name, some constraint) => some (name, some (.binary "|" constraint right))
      | _ => none
  | .call (.name name) _ [argument] false =>
      if forced || isTypeElement argument then some (name, some (.paren argument)) else none
  | _ => none

/-- The type parameters of a type, of which the first name and perhaps its
constraint are read already. -/
def typeParamsFrom
    (readers : Readers π)
    (first : Name π)
    (constraint : Option (Expr π)) : Parse π (List (Param π)) := do
  let head <-
    match constraint with
    | some constraint => pure (RawParam.mk (some first) (some constraint))
    | none => readers.rawParamFrom true first
  let rest <-
    if <- acceptSymbol "," then commaList "]" (readers.rawParam true) else pure []
  match settleParams true (head :: rest) with
  | some params => return params
  | none => failure

/-- The rest of a type with type parameters. -/
def genericTypeRest
    (readers : Readers π)
    (declared first : Name π)
    (constraint : Option (Expr π)) : Parse π (TypeSpec π) := do
  let params <- readers.typeParamsFrom first constraint
  symbol "]"
  let isAlias <- acceptSymbol "="
  return .mk declared params isAlias (<- readers.type)

/-- A declared type whose name is followed by a square bracket. -/
def bracketedTypeSpec
    (readers : Readers π)
    (declared : Name π) : Parse π (TypeSpec π) := do
  symbol "["
  if <- atName then
    let first <- name
    let length <-
      if <- atSymbol "[" then
        pure (Expr.name first)
      else
        let operand <- readers.operandFrom false (.name first)
        readers.operationFrom false operand operatorLevels.reverse
    let atComma <- atSymbol ","
    let atClose <- atSymbol "]"
    match splitTypeParam atComma length with
    | some (param, constraint) =>
        if constraint.isSome || !atClose then
          readers.genericTypeRest declared param constraint
        else
          symbol "]"
          return .mk declared [] false (.arrayType (some length) (<- readers.type))
    | none =>
        symbol "]"
        return .mk declared [] false (.arrayType (some length) (<- readers.type))
  else
    return .mk declared [] false (<- readers.arrayTypeRest)

/-- A declared type. -/
def typeSpec (readers : Readers π) : Parse π (TypeSpec π) := do
  let declared <- name
  if <- atSymbol "[" then
    readers.bracketedTypeSpec declared
  else
    let isAlias <- acceptSymbol "="
    return .mk declared [] isAlias (<- readers.type)

/-- A declaration of constants, variables or types, if one comes next. -/
def declaration? (readers : Readers π) : Parse π (Option (Declaration π)) := do
  if <- acceptKeyword "const" then
    return some (.constants (<- group readers.constantSpec))
  else if <- acceptKeyword "var" then
    return some (.values (<- group readers.variableSpec))
  else if <- acceptKeyword "type" then
    return some (.types (<- group readers.typeSpec))
  else
    return none

/-! ## Simple statements -/

/-- A simple statement, or the head of a loop over something. -/
inductive Simple (π : Type) where
  /-- A statement. -/
  | statement (statement : Stmt π)
  /-- The targets of a loop, whether it declares them, and what it goes over. -/
  | range (targets : List (Expr π)) (defines : Bool) (operand : Expr π)

/-- Where a simple statement stands. -/
inductive SimplePlace where
  /-- By itself, where it may be a label. -/
  | plain
  /-- In the head of another statement. -/
  | header
  /-- In the head of a loop. -/
  | loopHeader
deriving DecidableEq

/-- The operators of assignments. -/
def assignOperators : List String :=
  [":=", "=", "+=", "-=", "*=", "/=", "%=", "&=", "|=", "^=", "<<=", ">>=", "&^="]

/-- An assignment after its targets and its operator. -/
def assignmentRest
    (readers : Readers π)
    (header loopHead : Bool)
    (targets : List (Expr π))
    (operator : String) : Parse π (Simple π) := do
  if loopHead && (operator == ":=" || operator == "=") && (<- acceptKeyword "range") then
    return .range targets (operator == ":=") (<- readers.expression header)
  else
    return .statement (.assign targets operator (<- separated1 (readers.expression header)))

/-- A simple statement that starts with one expression. -/
def simpleFrom
    (readers : Readers π)
    (place : SimplePlace)
    (first : Expr π) : Parse π (Simple π) := do
  let header := place != .plain
  match <- peek with
  | some (.symbol ":") =>
      match first, place with
      | .name label, .plain =>
          symbol ":"
          return .statement (.labeled label (<- readers.statement))
      | _, _ => failure
  | some (.symbol "<-") =>
      symbol "<-"
      return .statement (.send first (<- readers.expression header))
  | some (.symbol "++") =>
      symbol "++"
      return .statement (.step first true)
  | some (.symbol "--") =>
      symbol "--"
      return .statement (.step first false)
  | _ => return .statement (.expression first)

/-- A simple statement. -/
def simple
    (readers : Readers π)
    (place : SimplePlace) : Parse π (Simple π) := do
  let header := place != .plain
  let list <- separated1 (readers.expression header)
  match <- peek with
  | some (.symbol operator) =>
      if assignOperators.contains operator then
        symbol operator
        readers.assignmentRest header (place == .loopHeader) list operator
      else
        match list with
        | [first] => readers.simpleFrom place first
        | _ => failure
  | _ =>
      match list with
      | [first] => readers.simpleFrom place first
      | _ => failure

/-- A simple statement in the head of another statement. -/
def headerStatement (readers : Readers π) : Parse π (Stmt π) := do
  match <- readers.simple .header with
  | .statement statement => return statement
  | .range _ _ _ => failure

/-- The expression that a statement consists of. -/
def asExpression : Stmt π -> Parse π (Expr π)
  | .expression value => return value
  | _ => failure

/-! ## Conditions and choices -/

/-- The head of a condition. -/
def conditionHead (readers : Readers π) : Parse π (Option (Stmt π) × Expr π) := do
  if <- atSymbol "\x7b" then failure
  let init <- if <- atSymbol ";" then pure none else some <$> readers.headerStatement
  if <- atSymbol "\x7b" then
    match init with
    | some statement => return (none, <- asExpression statement)
    | none => failure
  else
    symbol ";"
    return (init, <- asExpression (<- readers.headerStatement))

/-- A condition after its first word. -/
def conditionRest
    (readers : Readers π) : Nat -> Parse π (Stmt π)
  | 0 => failure
  | bound + 1 => do
      let (init, condition) <- readers.conditionHead
      let body <- readers.block
      if <- acceptKeyword "else" then
        if <- acceptKeyword "if" then
          return .conditional init condition body (some (<- readers.conditionRest bound))
        else
          let other <- readers.block
          semicolon
          return .conditional init condition body (some (.block other))
      else
        semicolon
        return .conditional init condition body none

/-- A clause of a choice, if one comes next. -/
def clause? (readers : Readers π) : Parse π (Option (Clause π)) := do
  if <- acceptKeyword "case" then
    let cases <- separated1 (readers.expression false)
    symbol ":"
    return some (.mk false cases (<- readers.statements))
  else if <- acceptKeyword "default" then
    symbol ":"
    return some (.mk true [] (<- readers.statements))
  else
    return none

/-- The clauses of a choice in braces. -/
def clauses (readers : Readers π) : Parse π (List (Clause π)) := do
  symbol "\x7b"
  let list <- many readers.clause?
  symbol "\x7d"
  semicolon
  return list

/-- The statements in the head of a choice. -/
def choiceHead (readers : Readers π) : Parse π (Option (Stmt π) × Option (Stmt π)) := do
  if <- atSymbol "\x7b" then
    return (none, none)
  else
    let first <- if <- atSymbol ";" then pure none else some <$> readers.headerStatement
    if <- acceptSymbol ";" then
      let second <- if <- atSymbol "\x7b" then pure none else some <$> readers.headerStatement
      return (first, second)
    else
      return (none, first)

/-- A choice from its head and its clauses. -/
def choiceOf
    (init head : Option (Stmt π))
    (clauses : List (Clause π)) : Parse π (Stmt π) :=
  match head with
  | none => return .choice init none clauses
  | some (.expression (.assertion operand none)) => return .typeChoice init none operand clauses
  | some (.assign [.name binder] ":=" [.assertion operand none]) =>
      return .typeChoice init (some binder) operand clauses
  | some (.expression tag) => return .choice init (some tag) clauses
  | some _ => failure

/-- A choice after its first word. -/
def choiceRest (readers : Readers π) : Parse π (Stmt π) := do
  let (init, head) <- readers.choiceHead
  choiceOf init head (<- readers.clauses)

/-- A communication. -/
def communication (readers : Readers π) : Parse π (Stmt π) := do
  let list <- separated1 (readers.expression false)
  match <- peek, list with
  | some (.symbol "<-"), [channel] =>
      symbol "<-"
      return .send channel (<- readers.expression false)
  | some (.symbol operator), _ =>
      if operator == "=" || operator == ":=" then
        symbol operator
        if 2 < list.length then failure
        return .assign list operator [<- readers.expression false]
      else
        match list with
        | [value] => return .expression value
        | _ => failure
  | _, [value] => return .expression value
  | _, _ => failure

/-- A clause of a choice among communications, if one comes next. -/
def commClause? (readers : Readers π) : Parse π (Option (CommClause π)) := do
  if <- acceptKeyword "case" then
    let communication <- readers.communication
    symbol ":"
    return some (.mk (some communication) (<- readers.statements))
  else if <- acceptKeyword "default" then
    symbol ":"
    return some (.mk none (<- readers.statements))
  else
    return none

/-- A choice among communications after its first word. -/
def selectRest (readers : Readers π) : Parse π (Stmt π) := do
  symbol "\x7b"
  let clauses <- many readers.commClause?
  symbol "\x7d"
  semicolon
  return .select clauses

/-! ## Loops -/

/-- A loop over something, after its head. -/
def rangeRest
    (readers : Readers π)
    (place : π)
    (targets : List (Expr π))
    (defines : Bool)
    (operand : Expr π) : Parse π (Stmt π) := do
  let body <- readers.block
  semicolon
  match targets with
  | [] => return .range place none none defines operand body
  | [key] => return .range place (some key) none defines operand body
  | [key, value] => return .range place (some key) (some value) defines operand body
  | _ => failure

/-- A loop with three parts in its head, after the first of them. -/
def threePartLoop
    (readers : Readers π)
    (init : Option (Stmt π)) : Parse π (Stmt π) := do
  symbol ";"
  let condition <-
    if <- atSymbol ";" then
      pure none
    else
      some <$> (asExpression (<- readers.headerStatement))
  symbol ";"
  let post <- if <- atSymbol "\x7b" then pure none else some <$> readers.headerStatement
  let body <- readers.block
  semicolon
  return .loop init condition post body

/-- A loop after its first word. -/
def loopRest
    (readers : Readers π)
    (place : π) : Parse π (Stmt π) := do
  if <- atSymbol "\x7b" then
    let body <- readers.block
    semicolon
    return .loop none none none body
  else if <- atSymbol ";" then
    readers.threePartLoop none
  else if <- acceptKeyword "range" then
    readers.rangeRest place [] false (<- readers.expression true)
  else
    match <- readers.simple .loopHeader with
    | .range targets defines operand => readers.rangeRest place targets defines operand
    | .statement statement =>
        if <- atSymbol ";" then
          readers.threePartLoop (some statement)
        else
          let condition <- asExpression statement
          let body <- readers.block
          semicolon
          return .loop none (some condition) none body

/-! ## All statements -/

/-- A call after the word that says when it is done. -/
def callRest (readers : Readers π) : Parse π (Expr π) := do
  let value <- readers.expression false
  semicolon
  match value with
  | .call _ _ _ _ => return value
  | _ => failure

/-- A jump after its word. -/
def jumpRest (word : String) : Parse π (Stmt π) := do
  let label <- if word != "fallthrough" && (<- atName) then some <$> name else pure none
  semicolon
  return .jump word label

/-- The end of a function after its word. -/
def finishRest (readers : Readers π) : Parse π (Stmt π) := do
  let results <-
    if <- atSymbols [";", "\x7d"] then pure [] else separated1 (readers.expression false)
  semicolon
  return .finish results

/-- A simple statement by itself. -/
def plainStatement (readers : Readers π) : Parse π (Stmt π) := do
  match <- readers.simple .plain with
  | .statement (.labeled label body) => return .labeled label body
  | .statement statement =>
      semicolon
      return statement
  | .range _ _ _ => failure

/-- A statement that starts with a reserved word at a place. -/
def keywordStatement
    (readers : Readers π)
    (start : π)
    (word : String) : Parse π (Stmt π) := do
  match word with
  | "go" =>
      keyword word
      return .spawn start (<- readers.callRest)
  | "defer" =>
      keyword word
      return .postpone start (<- readers.callRest)
  | "return" =>
      keyword word
      readers.finishRest
  | "if" =>
      keyword word
      readers.conditionRest ((<- remaining) + 1)
  | "switch" =>
      keyword word
      readers.choiceRest
  | "select" =>
      keyword word
      readers.selectRest
  | "for" =>
      keyword word
      readers.loopRest start
  | _ =>
      if ["break", "continue", "goto", "fallthrough"].contains word then
        keyword word
        jumpRest word
      else if ["func", "struct", "map", "chan", "interface"].contains word then
        readers.plainStatement
      else
        match <- readers.declaration? with
        | some declaration => return .declare declaration
        | none => failure

/-- A statement. -/
def anyStatement (readers : Readers π) : Parse π (Stmt π) := do
  match <- peek with
  | some (.keyword word) => readers.keywordStatement (<- place) word
  | some (.symbol "\x7b") =>
      let body <- readers.block
      semicolon
      return .block body
  | some (.symbol ";") =>
      symbol ";"
      return .empty
  | some (.symbol "\x7d") => return .empty
  | some (.symbol "~") => failure
  | _ => readers.plainStatement

end Readers

/-- The readers for trees up to a depth. -/
def Readers.upTo : Nat -> Readers π
  | 0 => .failing
  | depth + 1 =>
      let inner := Readers.upTo depth
      { expression := inner.anyExpression
        operand := inner.anyOperand
        type? := inner.anyType?
        statement := inner.anyStatement }

end Source
end CtorScan
