import CtorScan.Assembly.Operand

/-!
# Metadata

Facts beside the program: tuples, texts, values, references by number, and nodes
with named fields.
-/

namespace CtorScan
namespace Assembly

/-- A piece of metadata. -/
inductive Metadata where
  /-- A reference by number. -/
  | number (value : Nat)
  /-- A text. -/
  | text (bytes : List Nat)
  /-- A tuple, of which elements may be missing. -/
  | tuple (items : List (Option Metadata))
  /-- A value with its type. -/
  | value (operand : Ty × Operand)
  /-- A node with a name, as the pieces of what stands between its brackets. -/
  | node (name : String) (pieces : List String) (references : List Nat)
deriving Inhabited

namespace Metadata

/-- One token of what stands between the brackets of a node. -/
def piece : Parse (String × Option Nat) :=
  Parse.accept fun token =>
    match token with
    | .word content => some (content, none)
    | .integer content => some (toString content, none)
    | .metadataId content => some ("!" ++ toString content, some content)
    | .quoted content => some (quotedBytes (unescape content), none)
    | .label ident => some (ident.nameText ++ ":", none)
    | .sign ',' => some (",", none)
    | .sign '|' => some ("|", none)
    | .sign '!' => some ("!", none)
    | .metadataName name => some ("!" ++ name, none)
    | _ => none

/-- What stands between the brackets of a node, where brackets and braces may be
nested at most as deep as the number says. -/
def pieces : Nat -> Parse (List (String × Option Nat))
  | 0 => failure
  | depth + 1 => do
      let parts <- Parse.many
        ((do return [<- piece]) <|>
        (do
          let inner <- Parse.parenthesized (pieces depth)
          return [("(", none)] ++ inner ++ [(")", none)]) <|>
        (do
          Parse.sign '\x7b'
          let inner <- pieces depth
          Parse.sign '\x7d'
          return [("\x7b", none)] ++ inner ++ [("\x7d", none)]))
      return parts.flatten

/-- A node with a name. -/
def parseNode : Parse Metadata := do
  let name <- Parse.accept fun token =>
    match token with
    | .metadataName name => some name
    | _ => none
  let inner <- Parse.parenthesized (do pieces ((<- get).length + 1))
  return .node name (inner.map Prod.fst) (inner.filterMap Prod.snd)

/-- A reference by number. -/
def parseNumber : Parse Metadata :=
  Parse.accept fun token =>
    match token with
    | .metadataId content => some (.number content)
    | _ => none

/-- A tuple, by a reader of its elements. -/
def parseTuple (element : Parse Metadata) : Parse Metadata := do
  Parse.sign '!'
  Parse.sign '\x7b'
  let items <- Parse.commaSeparated
    ((do Parse.word "null"; return none) <|> (do return some (<- element)))
  Parse.sign '\x7d'
  return .tuple items

/-- Metadata that is nested at most as deep as the number says. -/
def reader : Nat -> Parse Metadata
  | 0 => failure
  | depth + 1 =>
      parseTuple (reader depth) <|>
      (do
        Parse.sign '!'
        return .text (unescape (<- Parse.quoted))) <|>
      parseNumber <|> parseNode <|>
      (do return .value (<- Operand.parseTyped))

/-- Metadata. -/
def parse : Parse Metadata := do
  reader ((<- get).length + 1)

/-- A tuple or a node, as it stands in definitions. -/
def parseDefinition : Parse Metadata := do
  discard (Parse.optional (Parse.word "distinct"))
  let depth := (<- get).length + 1
  parseTuple (reader depth) <|> parseNode

/-- A named piece of metadata that is attached to something. -/
def parseAttachment : Parse Metadata := do
  Parse.accept fun token =>
    match token with
    | .metadataName _ => some ()
    | _ => none
  let depth := (<- get).length + 1
  parseNumber <|> parseTuple (reader depth) <|> parseNode

/-- Attached metadata after commas. -/
def parseAttachments : Parse (List Metadata) :=
  Parse.many (do Parse.sign ','; parseAttachment)

end Metadata
end Assembly
end CtorScan
