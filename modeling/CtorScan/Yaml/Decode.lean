import CtorScan.Text.Quoted
import CtorScan.Yaml.Node

/-!
# Decoding nodes

A decoder reads a node into a value of some type, starting from the value that
is there already.  What does not fit is collected as complaints, so that one
reading reports all of them; a scalar that contradicts its own tag ends the
reading at once.
-/

namespace CtorScan
namespace Yaml

/-- Something that does not fit the wanted type. -/
inductive Misfit where
  /-- A node of the wrong sort, with its tag, its text if it has one, and the
  wanted type. -/
  | mismatch (line : Nat) (tag : String) (text : Option String) (wanted : String)
  /-- A key twice in one mapping. -/
  | repeatedKey (line : Nat) (key : String) (firstLine : Nat)
  /-- A key that the type does not have. -/
  | unknownField (line : Nat) (key : String) (wanted : String)
  /-- A field that was set by another key already. -/
  | repeatedField (line : Nat) (key : String) (wanted : String)
deriving DecidableEq

namespace Misfit

/-- A text as it is shown in a complaint: one of more than ten bytes is cut
after seven. -/
def excerpt (text : String) : String :=
  let bytes := Text.bytesOfChars text.toList
  if 10 < bytes.length then
    String.ofList (Text.charsOfBytes (bytes.take 7)) ++ "..."
  else
    text

/-- The wording of a complaint. -/
def message : Misfit -> String
  | .mismatch line tag text wanted =>
      let shown := (text.map fun text => " `" ++ excerpt text ++ "`").getD ""
      s!"line {line}: cannot unmarshal {tag}{shown} into {wanted}"
  | .repeatedKey line key firstLine =>
      let shown := Text.quoted key
      s!"line {line}: mapping key {shown} already defined at line {firstLine}"
  | .unknownField line key wanted => s!"line {line}: field {key} not found in type {wanted}"
  | .repeatedField line key wanted => s!"line {line}: field {key} already set in type {wanted}"

end Misfit

/-- A computation that looks at a document and collects complaints. -/
abbrev Decode := ReaderT Document (StateT (List Misfit) (Except Fault))

/-- A reader of nodes: from the value that is there and a node, the new value,
or none when the node has nothing to give. -/
abbrev Decoder (α : Type) := α -> Node -> Decode (Option α)

namespace Decode

/-- Collect a complaint. -/
def complain (misfit : Misfit) : Decode Unit :=
  modify fun misfits => misfits ++ [misfit]

/-- The node behind an alias, and any other node itself. -/
def resolved (node : Node) : Decode Node := do
  match node with
  | .reference _ name target =>
      match (<- read).target? target with
      | some node => return node
      | none => throw (.unknownAnchor name)
  | _ => return node

/-- The complaint that a node is of the wrong sort. -/
def mismatch
    (wanted : String) : Node -> Misfit
  | .scalar line tag text => .mismatch line tag (some text) wanted
  | .sequence line tag _ => .mismatch line tag (textOf tag) wanted
  | .mapping line tag _ => .mismatch line tag (textOf tag) wanted
  | .reference line _ _ => .mismatch line "" none wanted
where
  /-- A collection with a tag of its own is shown with an empty text. -/
  textOf (tag : String) : Option String :=
    if tag = "!!seq" ∨ tag = "!!map" then none else some ""

/-- The value of a scalar, after its tag was checked: its meaning, and its text
with binary data decoded. -/
def scalar
    (line : Nat)
    (tag text : String) : Decode (Meaning × String) := do
  if tag = Meaning.text.tag then
    return (.text, text)
  let meaning := Meaning.ofText tag text
  if !meaning.fits tag then
    throw (.unfit line)
  if tag = "!!binary" then
    match Base64.decode? text.toList with
    | some data => return (.text, String.ofList data)
    | none => throw (.unfit line)
  return (meaning, text)

/-- The complaints about keys that stand twice in a mapping. -/
def repeatedKeys : List (Node × Node) -> List Misfit
  | [] => []
  | (key, _) :: rest =>
      (rest.filter fun pair => key.isLike pair.1 && key.word = pair.1.word).map
        (fun pair => Misfit.repeatedKey pair.1.line pair.1.word key.line) ++ repeatedKeys rest

/-- Check the keys of a mapping; one with a key twice is not looked at further. -/
def checkKeys (pairs : List (Node × Node)) : Decode Bool := do
  let repeated := repeatedKeys pairs
  repeated.forM complain
  return repeated.isEmpty

/-- Refuse a node where something else is wanted. -/
def refuse
    (wanted : String)
    (node : Node) : Decode (Option α) := do
  match node with
  | .mapping _ _ pairs =>
      if <- checkKeys pairs then
        complain (mismatch wanted node)
      return none
  | _ =>
      complain (mismatch wanted node)
      return none

/-- Read a text: any scalar as it is written, and nothing for a null. -/
def text : Decoder String := fun _ node => do
  match <- resolved node with
  | .scalar line tag written =>
      let (meaning, value) <- scalar line tag written
      return if meaning = .null then none else some value
  | node => refuse "string" node

/-- The words that stand for a truth value where one is wanted. -/
def truthWord? (word : String) : Option Bool :=
  if ["y", "Y", "yes", "Yes", "YES", "on", "On", "ON"].contains word then some true
  else if ["n", "N", "no", "No", "NO", "off", "Off", "OFF"].contains word then some false
  else none

/-- Read a truth value that may be absent. -/
def truth? : Decoder (Option Bool) := fun _ node => do
  match <- resolved node with
  | .scalar line tag written =>
      let (meaning, value) <- scalar line tag written
      match meaning with
      | .null => return some none
      | .bool value => return some (some value)
      | .text =>
          match truthWord? value with
          | some value => return some (some value)
          | none => refuse "bool" (.scalar line tag written)
      | _ => refuse "bool" (.scalar line tag written)
  | node => refuse "bool" node

/-- Read a truth value. -/
def truth : Decoder Bool := fun _ node => do
  return (<- truth? none node).join

/-- Read a list, without the elements that have nothing to give. -/
def list
    (typeName : String)
    (initial : α)
    (decoder : Decoder α) : Decoder (List α) := fun _ node => do
  match <- resolved node with
  | .scalar line tag written =>
      let (meaning, _) <- scalar line tag written
      if meaning = .null then
        return some []
      else
        refuse typeName (.scalar line tag written)
  | .sequence _ _ items =>
      let values <- items.mapM fun item => decoder initial item
      return some (values.filterMap id)
  | node => refuse typeName node

/-- A field of a record type: its key and how its value is read. -/
structure Field (α : Type) where
  /-- The key. -/
  key : String
  /-- Read the value of the key into the record. -/
  decoder : Decoder α

/-- The field that is read by a decoder and stored by a function. -/
def Field.of
    (key : String)
    (get : α -> β)
    (store : α -> β -> α)
    (decoder : Decoder β) : Field α where
  key := key
  decoder := fun value node => do
    let part <- decoder (get value) node
    return part.map (store value)

/-- The sign for merged keys. -/
def isMerge : Node -> Bool
  | .scalar _ tag text => text = "<<" && tag = Meaning.merge.tag
  | _ => false

/-- What was read of a record so far. -/
structure Progress (α : Type) where
  /-- The record. -/
  value : α
  /-- The keys of this mapping that set a field. -/
  done : List String
  /-- The keys that may not be merged any more, if this is a merge. -/
  taken : Option (List String)

/-- Read one pair of a mapping into a record. -/
def pair
    (typeName : String)
    (fields : List (Field α))
    (progress : Progress α)
    (key value : Node) : Decode (Progress α) := do
  if isMerge key then
    return progress
  match <- text "" key with
  | none => return progress
  | some name =>
      if (progress.taken.getD []).contains name then
        return progress
      let taken := progress.taken.map (name :: ·)
      match fields.find? fun field => field.key = name with
      | none =>
          complain (.unknownField key.line name typeName)
          return { progress with taken := taken }
      | some field =>
          if progress.done.contains name then
            complain (.repeatedField key.line name typeName)
            return { progress with taken := taken }
          let read <- field.decoder progress.value value
          return ⟨read.getD progress.value, name :: progress.done, taken⟩

/-- The names among the keys of a mapping, which win over merged ones. -/
def ownKeys (pairs : List (Node × Node)) : Decode (List String) :=
  pairs.filterMapM fun (key, _) => do
    match <- resolved key with
    | .scalar line tag written =>
        let (meaning, value) <- scalar line tag written
        return if meaning = .text ∨ meaning = .merge then some value else none
    | node => throw (.unfit node.line)

/-- The nodes that a merge refers to, each with the anchor it goes through. -/
def mergeSources (node : Node) : Decode (List (Option Nat × Node)) := do
  match node with
  | .sequence _ _ items => items.mapM source
  | _ => return [<- source node]
where
  /-- A mapping, directly or behind an alias. -/
  source (node : Node) : Decode (Option Nat × Node) := do
    let target := match node with
      | .reference _ _ target => some target
      | _ => none
    match <- resolved node with
    | .mapping line tag pairs => return (target, .mapping line tag pairs)
    | _ => throw (.unfit node.line)

/-- Read a mapping into a record, and what it merges after its own keys.  The
numbers are those of the anchors that the reading went through; a mapping that
merges itself is refused. -/
def fieldsOf
    (typeName : String)
    (fields : List (Field α))
    (active : List Nat)
    (taken : Option (List String))
    (value : α)
    (line : Nat)
    (pairs : List (Node × Node)) : Nat -> Decode (α × Option (List String))
  | 0 => throw (.unfit line)
  | depth + 1 => do
      if !(<- checkKeys pairs) then
        return (value, taken)
      let own <- pairs.foldlM
        (fun (progress : Progress α) entry =>
          pair typeName fields progress entry.1 entry.2)
        ⟨value, [], taken⟩
      match (pairs.filter fun entry => isMerge entry.1).getLast? with
      | none => return (own.value, own.taken)
      | some (_, merged) =>
          let start <-
            match own.taken with
            | some taken => pure taken
            | none => ownKeys pairs
          let sources <- mergeSources merged
          let (value, kept) <- sources.foldlM
            (fun (state : α × Option (List String)) entry => do
              if entry.1.any active.contains then
                throw (.unfit line)
              match entry.2 with
              | .mapping line _ pairs =>
                  fieldsOf typeName fields (entry.1.toList ++ active) state.2 state.1 line pairs
                    depth
              | _ => return state)
            (own.value, some start)
          return (value, own.taken.bind fun _ => kept)

/-- Read a mapping into a record. -/
def record
    (typeName : String)
    (fields : List (Field α)) : Decoder α := fun value node => do
  match <- resolved node with
  | .mapping line _ pairs =>
      if !(repeatedKeys pairs).isEmpty then
        discard (checkKeys pairs)
        return none
      -- What is merged lies further inside, or behind an anchor that is met once.
      let document <- read
      let depth := (document.anchored.length + 1) * document.root.size
      let (value, _) <- fieldsOf typeName fields [] none value line pairs depth
      return some value
  | .scalar line tag written =>
      let (meaning, _) <- scalar line tag written
      if meaning = .null then
        return none
      else
        refuse typeName (.scalar line tag written)
  | node => refuse typeName node

/-- Decode the first document of a text.  A text without document leaves the
value as it is. -/
def run
    (decoder : Decoder α)
    (initial : α)
    (text : String) : Except Fault (α × List Misfit) := do
  match <- Document.ofText? text with
  | none => return (initial, [])
  | some document =>
      let (value, misfits) <- (decoder initial document.root document).run []
      return (value.getD initial, misfits)

end Decode
end Yaml
end CtorScan
