import CtorScan.Source.Tree

/-!
# Reading trees from tokens

A reader takes tokens from the front of a list, or fails.  Trees are nested, so
readers need each other; those that every other reader may need are handed
around in a record, which is made for any given depth.
-/

namespace CtorScan
namespace Source

variable {π : Type}

/-- A reader of something at the front of a list of tokens. -/
abbrev Parse (π : Type) := StateT (List (Lexeme π)) Option

namespace Parse

/-- The next token, which stays where it is. -/
def peek : Parse π (Option Token) := fun tokens =>
  some (tokens.head?.map Lexeme.token, tokens)

/-- The place of the next token, which has to be there. -/
def place : Parse π π := fun tokens =>
  tokens.head?.map fun first => (first.place, tokens)

/-- How many tokens are left. -/
def remaining : Parse π Nat := fun tokens =>
  some (tokens.length, tokens)

/-- Take one token. -/
def token : Parse π Token := fun tokens =>
  match tokens with
  | [] => none
  | first :: rest => some (first.token, rest)

/-- The next token is a symbol. -/
def atSymbol (text : String) : Parse π Bool := do
  return (<- peek) == some (.symbol text)

/-- The next token is one of some symbols. -/
def atSymbols (texts : List String) : Parse π Bool := do
  match <- peek with
  | some (.symbol text) => return texts.contains text
  | _ => return false

/-- Take a token if a test is true of it. -/
def takeIf (wanted : Token) : Parse π Bool := do
  if (<- peek) == some wanted then
    let _ <- token
    return true
  else
    return false

/-- Take a symbol if it comes next. -/
def acceptSymbol (text : String) : Parse π Bool :=
  takeIf (.symbol text)

/-- Take a reserved word if it comes next. -/
def acceptKeyword (text : String) : Parse π Bool :=
  takeIf (.keyword text)

/-- Take a symbol. -/
def symbol (text : String) : Parse π Unit := do
  if <- acceptSymbol text then return () else failure

/-- Take a reserved word. -/
def keyword (text : String) : Parse π Unit := do
  if <- acceptKeyword text then return () else failure

/-- Take a name. -/
def name : Parse π (Name π) := do
  let place <- place
  match <- token with
  | .name text => return ⟨text, place⟩
  | _ => failure

/-- The next token is a name. -/
def atName : Parse π Bool := do
  match <- peek with
  | some (.name _) => return true
  | _ => return false

/-- Take the end of a statement, which may be left out before a closing
bracket. -/
def semicolon : Parse π Unit := do
  if <- atSymbols [")", "\x7d"] then return () else symbol ";"

/-- Read as long as the reader gives something. -/
def manyUpTo
    (reader : Parse π (Option α))
    (read : List α) : Nat -> Parse π (List α)
  | 0 => failure
  | bound + 1 => do
      match <- reader with
      | some value => manyUpTo reader (value :: read) bound
      | none => return read.reverse

/-- Read as long as the reader gives something. -/
def many (reader : Parse π (Option α)) : Parse π (List α) := do
  manyUpTo reader [] ((<- remaining) + 1)

/-- Read things up to a closing bracket, which stays.  Commas stand between them,
and one may follow the last. -/
def commaListUpTo
    (close : String)
    (reader : Parse π α)
    (read : List α) : Nat -> Parse π (List α)
  | 0 => failure
  | bound + 1 => do
      if <- atSymbol close then
        return read.reverse
      else
        let value <- reader
        if <- acceptSymbol "," then
          commaListUpTo close reader (value :: read) bound
        else if <- atSymbol close then
          return (value :: read).reverse
        else
          failure

/-- Read things up to a closing bracket, which stays. -/
def commaList
    (close : String)
    (reader : Parse π α) : Parse π (List α) := do
  commaListUpTo close reader [] ((<- remaining) + 1)

/-- Read at least one thing; commas stand between them. -/
def separated1 (reader : Parse π α) : Parse π (List α) := do
  let first <- reader
  let rest <- many do
    if <- acceptSymbol "," then return some (<- reader) else return none
  return first :: rest

end Parse

/-- The readers that every other reader may need.  The flag of a reader for
expressions says that an opening brace belongs to what follows the
expression. -/
structure Readers (π : Type) where
  /-- An expression. -/
  expression : Bool -> Parse π (Expr π)
  /-- An expression that is no operation with two operands. -/
  operand : Bool -> Parse π (Expr π)
  /-- A type, if one comes next. -/
  type? : Parse π (Option (Expr π))
  /-- A statement. -/
  statement : Parse π (Stmt π)

/-- The readers for no depth at all. -/
def Readers.failing : Readers π where
  expression := fun _ => failure
  operand := fun _ => failure
  type? := failure
  statement := failure

namespace Readers

/-- A type. -/
def type (readers : Readers π) : Parse π (Expr π) := do
  match <- readers.type? with
  | some type => return type
  | none => failure

/-- Statements up to a closing brace or the next clause. -/
def statements (readers : Readers π) : Parse π (List (Stmt π)) :=
  Parse.many do
    match <- Parse.peek with
    | none => return none
    | some (.keyword "case") => return none
    | some (.keyword "default") => return none
    | some (.symbol "\x7d") => return none
    | _ => return some (<- readers.statement)

/-- A block of statements. -/
def block (readers : Readers π) : Parse π (List (Stmt π)) := do
  Parse.symbol "\x7b"
  let body <- readers.statements
  Parse.symbol "\x7d"
  return body

end Readers
end Source
end CtorScan
