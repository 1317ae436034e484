import CtorScan.Assembly.Token

/-!
# Reading tokens

A reader takes tokens from the front of a list and may fail; a failed reader
has taken nothing, so another one can be tried.
-/

namespace CtorScan
namespace Assembly

/-- A reader of something at the front of a list of tokens. -/
abbrev Parse := StateT (List Token) Option

namespace Parse

/-- Take one token. -/
def token : Parse Token := fun tokens =>
  match tokens with
  | [] => none
  | first :: rest => some (first, rest)

/-- Take one token that a function accepts. -/
def accept (choose : Token -> Option α) : Parse α := fun tokens =>
  match tokens with
  | [] => none
  | first :: rest => (choose first).map fun value => (value, rest)

/-- Take a sign. -/
def sign (c : Char) : Parse Unit :=
  accept fun token => if token = .sign c then some () else none

/-- Take a word. -/
def word (text : String) : Parse Unit :=
  accept fun token => if token = .word text then some () else none

/-- Take one of some words. -/
def wordOf (texts : List String) : Parse String :=
  accept fun token =>
    match token with
    | .word text => if texts.contains text then some text else none
    | _ => none

/-- Take a local identifier. -/
def localIdent : Parse Ident :=
  accept fun token => match token with | .localIdent ident => some ident | _ => none

/-- Take a global identifier. -/
def globalIdent : Parse Ident :=
  accept fun token => match token with | .globalIdent ident => some ident | _ => none

/-- Take a whole number. -/
def integer : Parse Int :=
  accept fun token => match token with | .integer value => some value | _ => none

/-- Take a whole number that is not negative. -/
def natural : Parse Nat :=
  accept fun token =>
    match token with
    | .integer value => if 0 ≤ value then some value.toNat else none
    | _ => none

/-- Take a text in quotes. -/
def quoted : Parse (List Char) :=
  accept fun token => match token with | .quoted text => some text | _ => none

/-- Read something or nothing. -/
def optional (reader : Parse α) : Parse (Option α) := fun tokens =>
  match reader tokens with
  | some (value, rest) => some (some value, rest)
  | none => some (none, tokens)

/-- Whether a reader succeeds; what it reads is taken. -/
def succeeds (reader : Parse α) : Parse Bool := do
  return (<- optional reader).isSome

/-- Read something as often as possible. -/
def manyUpTo
    (reader : Parse α)
    (read : List α) : Nat -> Parse (List α)
  | 0 => return read.reverse
  | bound + 1 => do
      match <- optional reader with
      | some value => manyUpTo reader (value :: read) bound
      | none => return read.reverse

/-- Read something as often as possible. -/
def many (reader : Parse α) : Parse (List α) := fun tokens =>
  manyUpTo reader [] (tokens.length + 1) tokens

/-- Read something at least once. -/
def some1 (reader : Parse α) : Parse (List α) := do
  let first <- reader
  return first :: (<- many reader)

/-- Read things with commas between them, at least one. -/
def commaSeparated1 (reader : Parse α) : Parse (List α) := do
  let first <- reader
  let rest <- many (do sign ','; reader)
  return first :: rest

/-- Read things with commas between them. -/
def commaSeparated (reader : Parse α) : Parse (List α) := do
  return (<- optional (commaSeparated1 reader)).getD []

/-- Read something in round brackets. -/
def parenthesized (reader : Parse α) : Parse α := do
  sign '('
  let value <- reader
  sign ')'
  return value

/-- All tokens are taken. -/
def finished : Parse Unit := fun tokens =>
  match tokens with
  | [] => some ((), [])
  | _ => none

end Parse
end Assembly
end CtorScan
