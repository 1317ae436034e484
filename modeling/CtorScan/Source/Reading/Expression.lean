import CtorScan.Source.Reading.Type

/-!
# Reading expressions
-/

namespace CtorScan
namespace Source
namespace Readers

open Parse

variable {π : Type}

/-- The elements of a composite value in braces. -/
def elementsWith
    (readers : Readers π)
    (nested : Parse π (List (Expr π))) : Parse π (List (Expr π)) := do
  symbol "\x7b"
  let element : Parse π (Expr π) := do
    if <- atSymbol "\x7b" then
      return .composite none (<- nested)
    else
      readers.expression false
  let elements <- commaList "\x7d" do
    let first <- element
    if <- acceptSymbol ":" then return .keyed first (<- element) else return first
  symbol "\x7d"
  return elements

/-- The elements of a composite value, nested up to a depth. -/
def elementsUpTo
    (readers : Readers π) : Nat -> Parse π (List (Expr π))
  | 0 => failure
  | depth + 1 => readers.elementsWith (readers.elementsUpTo depth)

/-- The elements of a composite value in braces. -/
def elements (readers : Readers π) : Parse π (List (Expr π)) := do
  readers.elementsUpTo ((<- remaining) + 1)

/-- A function after its first word: a value if it has a body, else a type. -/
def functionRest
    (readers : Readers π)
    (place : π) : Parse π (Expr π) := do
  let type <- readers.functionTypeRest
  if <- atSymbol "\x7b" then
    return .function place type (<- readers.block)
  else
    return .functionType type

/-- The simplest expressions. -/
def atom (readers : Readers π) : Parse π (Expr π) := do
  match <- peek with
  | some (.name _) => return .name (<- name)
  | some (.integer text) => let _ <- token; return .literal .integer text
  | some (.decimal text) => let _ <- token; return .literal .decimal text
  | some (.imaginary text) => let _ <- token; return .literal .imaginary text
  | some (.char text) => let _ <- token; return .literal .char text
  | some (.string text) => let _ <- token; return .literal .string text
  | some (.symbol "(") =>
      symbol "("
      let inner <- readers.expression false
      symbol ")"
      return .paren inner
  | some (.keyword "func") =>
      let start <- place
      keyword "func"
      readers.functionRest start
  | _ => readers.type

/-- What may follow an opening square bracket after an operand. -/
def indexRest
    (readers : Readers π)
    (operand : Expr π) : Parse π (Expr π) := do
  let bound : Parse π (Option (Expr π)) := do
    if <- atSymbols [":", "]"] then return none else some <$> readers.expression false
  let first <- bound
  match <- peek with
  | some (.symbol ":") =>
      symbol ":"
      let second <- bound
      if <- acceptSymbol ":" then
        let third <- bound
        symbol "]"
        if second.isSome && third.isSome then
          return .slice operand first second third true
        else
          failure
      else
        symbol "]"
        return .slice operand first second none false
  | _ =>
      match first with
      | none => failure
      | some first =>
          let more <- many do
            if <- acceptSymbol "," then
              if <- atSymbol "]" then return none else return some (<- readers.type)
            else
              return none
          symbol "]"
          return .index operand (first :: more)

/-- The arguments of a call after its opening bracket, and whether the last one is
spread. -/
def argumentsUpTo
    (readers : Readers π)
    (read : List (Expr π)) : Nat -> Parse π (List (Expr π) × Bool)
  | 0 => failure
  | bound + 1 => do
      if <- acceptSymbol ")" then
        return (read.reverse, false)
      else
        let argument <- readers.expression false
        let spread <- acceptSymbol "..."
        if <- acceptSymbol "," then
          if spread then
            symbol ")"
            return ((argument :: read).reverse, true)
          else
            readers.argumentsUpTo (argument :: read) bound
        else
          symbol ")"
          return ((argument :: read).reverse, spread)

/-- What follows a point after an operand. -/
def selectorRest
    (readers : Readers π)
    (operand : Expr π) : Parse π (Expr π) := do
  if <- acceptSymbol "(" then
    if <- acceptKeyword "type" then
      symbol ")"
      return .assertion operand none
    else
      let type <- readers.type
      symbol ")"
      return .assertion operand (some type)
  else
    return .selector operand (<- name)

/-- An opening brace after the operand starts a composite value. -/
def takesElements
    (header : Bool) : Expr π -> Bool
  | .name _ => !header
  | .selector _ _ => !header
  | .index _ _ => !header
  | .arrayType _ _ => true
  | .structType _ => true
  | .mapType _ _ => true
  | _ => false

/-- What follows an operand: selections, indices, calls and elements. -/
def operandRest
    (readers : Readers π)
    (header : Bool)
    (operand : Expr π) : Nat -> Parse π (Expr π)
  | 0 => failure
  | bound + 1 => do
      match <- peek with
      | some (.symbol ".") =>
          symbol "."
          readers.operandRest header (<- readers.selectorRest operand) bound
      | some (.symbol "[") =>
          symbol "["
          readers.operandRest header (<- readers.indexRest operand) bound
      | some (.symbol "(") =>
          let start <- place
          symbol "("
          let (arguments, spread) <- readers.argumentsUpTo [] ((<- remaining) + 1)
          readers.operandRest header (.call operand start arguments spread) bound
      | some (.symbol "\x7b") =>
          if takesElements header operand then
            let elements <- readers.elements
            readers.operandRest header (.composite (some operand) elements) bound
          else if takesElements header operand.unparen then
            failure
          else
            return operand
      | _ => return operand

/-- What follows an operand. -/
def operandFrom
    (readers : Readers π)
    (header : Bool)
    (operand : Expr π) : Parse π (Expr π) := do
  readers.operandRest header operand ((<- remaining) + 1)

/-- A channel type that starts with an arrow, from the type after the arrow. -/
def withArrow? : Expr π -> Option (Expr π)
  | .channelType .both element => some (.channelType .receive element)
  | .channelType .send element => (withArrow? element).map (.channelType .receive)
  | _ => none

/-- An expression that is no operation with two operands. -/
def anyOperand
    (readers : Readers π)
    (header : Bool) : Parse π (Expr π) := do
  match <- peek with
  | some (.symbol "<-") =>
      symbol "<-"
      let operand <- readers.operand header
      match operand with
      | .channelType _ _ =>
          match withArrow? operand with
          | some type => return type
          | none => failure
      | _ => return .unary "<-" operand
  | some (.symbol "*") =>
      symbol "*"
      return .star (<- readers.operand header)
  | some (.symbol operator) =>
      if ["+", "-", "!", "^", "&", "~"].contains operator then
        symbol operator
        return .unary operator (<- readers.operand header)
      else
        readers.operandFrom header (<- readers.atom)
  | _ => readers.operandFrom header (<- readers.atom)

/-- The operators with two operands, those that bind closest first. -/
def operatorLevels : List (List String) :=
  [["*", "/", "%", "<<", ">>", "&", "&^"],
   ["+", "-", "|", "^"],
   ["==", "!=", "<", "<=", ">", ">="],
   ["&&"],
   ["||"]]

/-- Extend an operand by the operators of some levels, the last of which binds
least. -/
def operationFrom
    (readers : Readers π)
    (header : Bool)
    (first : Expr π) : List (List String) -> Parse π (Expr π)
  | [] => return first
  | level :: closer => do
      let left <- readers.operationFrom header first closer
      let rest <- many do
        match <- peek with
        | some (.symbol operator) =>
            if level.contains operator then
              symbol operator
              let right <- readers.operationFrom header (<- readers.operand header) closer
              return some (operator, right)
            else
              return none
        | _ => return none
      return rest.foldl (fun left (operator, right) => .binary operator left right) left

/-- An expression. -/
def anyExpression
    (readers : Readers π)
    (header : Bool) : Parse π (Expr π) := do
  readers.operationFrom header (<- readers.operand header) operatorLevels.reverse

end Readers
end Source
end CtorScan
