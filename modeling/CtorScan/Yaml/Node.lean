import CtorScan.Yaml.Meaning
import CtorScan.Yaml.Token.Stream

/-!
# Nodes

A document is a tree of scalars, sequences and mappings.  An alias stands for
the node with the anchor; the nodes with anchors are kept in a table beside the
tree, so that the tree itself is finite even when a node refers to itself.
-/

namespace CtorScan
namespace Yaml

/-- A node of a document, with the line where it starts. -/
inductive Node where
  /-- A scalar with its tag, which is never empty, and its text. -/
  | scalar (line : Nat) (tag : String) (text : String)
  /-- A sequence. -/
  | sequence (line : Nat) (tag : String) (items : List Node)
  /-- A mapping, as its keys and values in order. -/
  | mapping (line : Nat) (tag : String) (pairs : List (Node × Node))
  /-- A reference to an anchor, and the number of the node that has it. -/
  | reference (line : Nat) (name : String) (target : Nat)

namespace Node

/-- The line where a node starts. -/
def line : Node -> Nat
  | .scalar line _ _ => line
  | .sequence line _ _ => line
  | .mapping line _ _ => line
  | .reference line _ _ => line

/-- What is written of a node when it is shown by one word. -/
def word : Node -> String
  | .scalar _ _ text => text
  | .reference _ name _ => name
  | _ => ""

mutual

/-- The number of nodes in a node, itself among them. -/
def size : Node -> Nat
  | .sequence _ _ items => sizeOfAll items + 1
  | .mapping _ _ pairs => sizeOfPairs pairs + 1
  | _ => 1

/-- The number of nodes in some nodes. -/
def sizeOfAll : List Node -> Nat
  | [] => 0
  | node :: rest => node.size + sizeOfAll rest

/-- The number of nodes in a key and its value. -/
def sizeOfPair : Node × Node -> Nat
  | (key, value) => key.size + value.size

/-- The number of nodes in some keys and their values. -/
def sizeOfPairs : List (Node × Node) -> Nat
  | [] => 0
  | pair :: rest => sizeOfPair pair + sizeOfPairs rest

end

/-- Two nodes are of the same sort. -/
def isLike : Node -> Node -> Bool
  | .scalar .., .scalar .. => true
  | .sequence .., .sequence .. => true
  | .mapping .., .mapping .. => true
  | .reference .., .reference .. => true
  | _, _ => false

end Node

/-- A document: its root, and the nodes with anchors by their number. -/
structure Document where
  /-- The root of the tree. -/
  root : Node
  /-- The nodes with anchors. -/
  anchored : List (Nat × Node)

namespace Document

/-- The node with a number. -/
def target?
    (document : Document)
    (number : Nat) : Option Node :=
  (document.anchored.find? fun entry => entry.1 == number).map Prod.snd

end Document

/-- The state of building a tree from tokens. -/
structure Composer where
  /-- The tokens that are left. -/
  stream : Stream
  /-- The tag handles with their meanings. -/
  handles : List (List Char × List Char)
  /-- The anchors with the numbers of their nodes, the latest first. -/
  anchors : List (List Char × Nat)
  /-- The finished nodes with anchors. -/
  anchored : List (Nat × Node)
  /-- The number of the next node with an anchor. -/
  fresh : Nat

/-- A computation that takes tokens and may refuse the text. -/
abbrev Compose := StateT Composer (Except Fault)

namespace Compose

/-- The next token, which stays there. -/
def peek : Compose Lexeme := fun state => do
  let (lexeme, stream) <- state.stream.peek
  return (lexeme, { state with stream := stream })

/-- Drop the token that was looked at. -/
def skip : Compose Unit :=
  modify fun state => { state with stream := state.stream.advance }

/-- Drop the token that was looked at, and look at the next. -/
def next : Compose Lexeme := do
  skip
  peek

/-- Refuse the text at a token. -/
def refuse
    (lexeme : Lexeme) : Compose α :=
  throw (.malformed (lexeme.mark.line + 1))

/-- An empty scalar at a place. -/
def emptyScalar (mark : Mark) : Node :=
  .scalar (mark.line + 1) Meaning.null.tag ""

/-- The short form of a tag. -/
def shortTag (tag : List Char) : String :=
  match Text.afterStart? "tag:yaml.org,2002:".toList tag with
  | some rest => String.ofList ('!' :: '!' :: rest)
  | none => String.ofList tag

/-- A tag that asks for something. -/
def askedTag? (tag : List Char) : Option String :=
  if tag.isEmpty || tag == ['!'] then none else some (shortTag tag)

/-- The tag of a scalar: the one asked for, or what its text means.  A scalar
with quotes or in a block is a text. -/
def scalarTag
    (tag text : List Char)
    (style : Style) : String :=
  match askedTag? tag with
  | some asked => asked
  | none =>
      match style with
      | .plain => (Meaning.ofText "" (String.ofList text)).tag
      | _ => Meaning.text.tag

/-- The full tag behind a handle and a suffix. -/
def fullTag
    (lexeme : Lexeme)
    (handle suffix : List Char) : Compose (List Char) := do
  if handle.isEmpty then
    return suffix
  match (<- get).handles.find? fun entry => entry.1 == handle with
  | some entry =>
      let tag := entry.2 ++ suffix
      if tag.isEmpty then refuse lexeme else return tag
  | none => refuse lexeme

/-- What precedes the content of a node. -/
structure Header where
  /-- The anchor, if there is one. -/
  anchor : Option (List Char)
  /-- The full tag, empty when there is none. -/
  tag : List Char
  /-- Where the node starts. -/
  mark : Mark

/-- Read an anchor and a tag, in either order. -/
def header : Compose (Header × Lexeme) := do
  let first <- peek
  match first.token with
  | .anchor name =>
      let second <- next
      match second.token with
      | .tag handle suffix =>
          let third <- next
          let tag <- fullTag second handle suffix
          return (⟨some name, tag, first.mark⟩, third)
      | _ => return (⟨some name, [], first.mark⟩, second)
  | .tag handle suffix =>
      let second <- next
      match second.token with
      | .anchor name =>
          let third <- next
          let tag <- fullTag first handle suffix
          return (⟨some name, tag, first.mark⟩, third)
      | _ =>
          let tag <- fullTag first handle suffix
          return (⟨none, tag, first.mark⟩, second)
  | _ => return (⟨none, [], first.mark⟩, first)

/-- Register an anchor for the node that starts here. -/
def openAnchor (header : Header) : Compose (Option Nat) := do
  match header.anchor with
  | none => return none
  | some name =>
      let state <- get
      set { state with anchors := (name, state.fresh) :: state.anchors, fresh := state.fresh + 1 }
      return some state.fresh

/-- Keep a finished node that has an anchor. -/
def closeAnchor
    (number : Option Nat)
    (node : Node) : Compose Node := do
  match number with
  | none => return node
  | some number =>
      modify fun state => { state with anchored := (number, node) :: state.anchored }
      return node

/-- Where a node may stand. -/
inductive Place where
  /-- Among brackets. -/
  | flow
  /-- In a block. -/
  | block
  /-- In a block mapping, where a sequence needs no indentation of its own. -/
  | blockMapping
deriving DecidableEq

/-- A reader of nodes at a place. -/
abbrev Child := Place -> Compose Node

/-- The entries of a block sequence. -/
def blockItems
    (child : Child)
    (items : List Node) : Nat -> Compose (List Node)
  | 0 => do refuse (<- peek)
  | bound + 1 => do
      let lexeme <- peek
      match lexeme.token with
      | .entry =>
          let first <- next
          let item <-
            match first.token with
            | .entry | .blockEnd => pure (emptyScalar lexeme.finish)
            | _ => child .block
          blockItems child (item :: items) bound
      | .blockEnd =>
          skip
          return items.reverse
      | _ => refuse lexeme

/-- The entries of a block sequence that has no indentation of its own. -/
def looseItems
    (child : Child)
    (items : List Node) : Nat -> Compose (List Node)
  | 0 => do refuse (<- peek)
  | bound + 1 => do
      let lexeme <- peek
      match lexeme.token with
      | .entry =>
          let first <- next
          let item <-
            match first.token with
            | .entry | .key | .value | .blockEnd => pure (emptyScalar lexeme.finish)
            | _ => child .block
          looseItems child (item :: items) bound
      | _ => return items.reverse

/-- A key or a value of a block mapping after its sign. -/
def blockPart
    (child : Child)
    (sign : Lexeme) : Compose Node := do
  let first <- next
  match first.token with
  | .key | .value | .blockEnd => return emptyScalar sign.finish
  | _ => child .blockMapping

/-- The pairs of a block mapping. -/
def blockPairs
    (child : Child)
    (pairs : List (Node × Node)) : Nat -> Compose (List (Node × Node))
  | 0 => do refuse (<- peek)
  | bound + 1 => do
      let lexeme <- peek
      match lexeme.token with
      | .key =>
          let key <- blockPart child lexeme
          let sign <- peek
          let value <-
            match sign.token with
            | .value => blockPart child sign
            | _ => pure (emptyScalar sign.mark)
          blockPairs child ((key, value) :: pairs) bound
      | .blockEnd =>
          skip
          return pairs.reverse
      | _ => refuse lexeme

/-- The value among brackets that may follow a key. -/
def flowValue
    (child : Child)
    (closing : Token) : Compose Node := do
  let sign <- peek
  match sign.token with
  | .value =>
      let first <- next
      if first.token = .separator || first.token = closing then
        return emptyScalar first.mark
      else
        child .flow
  | _ => return emptyScalar sign.mark

/-- A single pair in a flow sequence, after the sign of its key. -/
def flowPair (child : Child) : Compose Node := do
  let first <- peek
  let key <-
    match first.token with
    | .value | .separator | .closeSequence => do
        skip
        pure (emptyScalar first.finish)
    | _ => child .flow
  let value <- flowValue child .closeSequence
  discard peek
  return .mapping 0 "!!map" [(key, value)]

/-- The first token of an entry among brackets: the separator before it is
skipped. -/
def flowStart
    (isFirst : Bool)
    (closing : Token) : Compose Lexeme := do
  let lexeme <- peek
  if lexeme.token = closing || isFirst then
    return lexeme
  else if lexeme.token = .separator then
    next
  else
    refuse lexeme

/-- The entries of a flow sequence. -/
def flowItems
    (child : Child)
    (items : List Node) : Nat -> Compose (List Node)
  | 0 => do refuse (<- peek)
  | bound + 1 => do
      let lexeme <- flowStart items.isEmpty .closeSequence
      match lexeme.token with
      | .closeSequence =>
          skip
          return items.reverse
      | .key =>
          skip
          let pair <- flowPair child
          let placed :=
            match pair with
            | .mapping _ tag pairs => Node.mapping (lexeme.mark.line + 1) tag pairs
            | node => node
          flowItems child (placed :: items) bound
      | _ =>
          let item <- child .flow
          flowItems child (item :: items) bound

/-- The pairs of a flow mapping. -/
def flowPairs
    (child : Child)
    (pairs : List (Node × Node)) : Nat -> Compose (List (Node × Node))
  | 0 => do refuse (<- peek)
  | bound + 1 => do
      let lexeme <- flowStart pairs.isEmpty .closeMapping
      match lexeme.token with
      | .closeMapping =>
          skip
          return pairs.reverse
      | .key =>
          let first <- next
          let key <-
            match first.token with
            | .value | .separator | .closeMapping => pure (emptyScalar first.mark)
            | _ => child .flow
          let value <- flowValue child .closeMapping
          flowPairs child ((key, value) :: pairs) bound
      | _ =>
          let key <- child .flow
          let after <- peek
          flowPairs child ((key, emptyScalar after.mark) :: pairs) bound

/-- Read the content of a node. -/
def content
    (child : Child)
    (bound : Nat)
    (place : Place)
    (header : Header)
    (lexeme : Lexeme) : Compose Node := do
  let line := header.mark.line + 1
  let sequence := Node.sequence line ((askedTag? header.tag).getD "!!seq")
  let mapping := Node.mapping line ((askedTag? header.tag).getD "!!map")
  match lexeme.token, place with
  | .entry, .blockMapping => sequence <$> looseItems child [] bound
  | .scalar text style, _ =>
      skip
      return .scalar line (scalarTag header.tag text style) (String.ofList text)
  | .openSequence, _ => do
      skip
      sequence <$> flowItems child [] bound
  | .openMapping, _ => do
      skip
      mapping <$> flowPairs child [] bound
  | .blockSequence, .block | .blockSequence, .blockMapping => do
      skip
      sequence <$> blockItems child [] bound
  | .blockMapping, .block | .blockMapping, .blockMapping => do
      skip
      mapping <$> blockPairs child [] bound
  | _, _ =>
      if header.anchor.isSome || !header.tag.isEmpty then
        return .scalar line (scalarTag header.tag [] .plain) ""
      else
        refuse lexeme

/-- Read a node that is nested at most as deep as the first number says, with
collections at most as long as the second. -/
def node
    (bound : Nat) : Nat -> Child
  | 0, _ => do refuse (<- peek)
  | depth + 1, place => do
      let first <- peek
      match first.token with
      | .reference name =>
          skip
          match (<- get).anchors.find? fun entry => entry.1 == name with
          | some entry => return .reference (first.mark.line + 1) (String.ofList name) entry.2
          | none => throw (.unknownAnchor (String.ofList name))
      | _ =>
          let (header, lexeme) <- header
          let number <- openAnchor header
          let result <- content (node bound depth) bound place header lexeme
          closeAnchor number result

/-- The handles that every document has. -/
def standardHandles : List (List Char × List Char) :=
  [("!".toList, "!".toList), ("!!".toList, "tag:yaml.org,2002:".toList)]

/-- Read the directives before a document. -/
def directives
    (versionSeen : Bool)
    (handles : List (List Char × List Char)) : Nat -> Compose Unit
  | 0 => do refuse (<- peek)
  | bound + 1 => do
      let lexeme <- peek
      match lexeme.token with
      | .version major minor =>
          if versionSeen || major != 1 || minor != 1 then
            refuse lexeme
          else
            skip
            directives true handles bound
      | .tagHandle handle meaning =>
          if handles.any fun entry => entry.1 == handle then
            refuse lexeme
          else
            skip
            directives versionSeen (handles ++ [(handle, meaning)]) bound
      | _ => modify fun state => { state with handles := handles ++ standardHandles }

/-- Read the first document, if there is one. -/
def document (bound : Nat) : Compose (Option Node) := do
  discard peek
  let first <- next
  match first.token with
  | .streamEnd => return none
  | .version .. | .tagHandle .. | .documentStart =>
      directives false [] bound
      let start <- peek
      if start.token ≠ .documentStart then
        refuse start
      let inner <- next
      let root <-
        match inner.token with
        | .version .. | .tagHandle .. | .documentStart | .documentEnd | .streamEnd =>
            pure (emptyScalar inner.mark)
        | _ => node bound bound .block
      discard peek
      return some root
  | _ =>
      directives false [] bound
      let root <- node bound bound .block
      discard peek
      return some root

end Compose

/-- The first document of a text, if the text has one. -/
def Document.ofText? (text : String) : Except Fault (Option Document) := do
  let stream := Stream.ofText text
  let bound := text.length + 8
  let (root, state) <- (Compose.document bound).run ⟨stream, [], [], [], 0⟩
  return root.map fun root => ⟨root, state.anchored⟩

end Yaml
end CtorScan
