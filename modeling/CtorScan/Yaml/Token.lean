import CtorScan.Yaml.Cursor

/-!
# Tokens of YAML

The words and signs that a YAML text is made of, together with the tokens that
stand for indentation: a collection starts where the indentation grows and ends
where it shrinks.
-/

namespace CtorScan
namespace Yaml

/-- How a scalar is written. -/
inductive Style where
  /-- Without quotes. -/
  | plain
  /-- Between quotes. -/
  | quoted
  /-- As an indented block. -/
  | block
deriving DecidableEq

/-- A word or a sign. -/
inductive Token where
  /-- The start of the text. -/
  | streamStart
  /-- The end of the text. -/
  | streamEnd
  /-- A version directive. -/
  | version (major minor : Nat)
  /-- A directive that gives a tag handle its meaning. -/
  | tagHandle (handle meaning : List Char)
  /-- The line `---`. -/
  | documentStart
  /-- The line `...`. -/
  | documentEnd
  /-- The start of a block sequence. -/
  | blockSequence
  /-- The start of a block mapping. -/
  | blockMapping
  /-- The end of a block collection. -/
  | blockEnd
  /-- An opening square bracket. -/
  | openSequence
  /-- A closing square bracket. -/
  | closeSequence
  /-- An opening brace. -/
  | openMapping
  /-- A closing brace. -/
  | closeMapping
  /-- The dash before a sequence entry. -/
  | entry
  /-- A comma between entries. -/
  | separator
  /-- The mark of a key, written or not. -/
  | key
  /-- The colon before a value. -/
  | value
  /-- A reference to an anchor. -/
  | reference (name : List Char)
  /-- A name for the node that follows. -/
  | anchor (name : List Char)
  /-- The tag of the node that follows. -/
  | tag (handle suffix : List Char)
  /-- A scalar. -/
  | scalar (text : List Char) (style : Style)
deriving DecidableEq

/-- A token and the place where it starts. -/
structure Lexeme where
  /-- The token. -/
  token : Token
  /-- Where it starts. -/
  mark : Mark
  /-- Where it ends. -/
  finish : Mark
deriving DecidableEq

end Yaml
end CtorScan
