import CtorScan.Toml.Reader

/-!
# TOML documents

The statements of a text build a tree of tables.  A table may come into being
because a longer key passes through it; such an implicit table may be defined
once more, while anything else may not, except that a list may be replaced.  All
keys are kept in the order in which they were written.
-/

namespace CtorScan
namespace Toml

/-- What stands under a key. -/
inductive Item where
  /-- A value that is no table. -/
  | leaf (value : Value)
  /-- A table. -/
  | table (entries : List (String × Item))
  /-- A list of tables, the latest first. -/
  | tables (elements : List (List (String × Item)))

/-- The entries of a table. -/
abbrev Entries := List (String × Item)

namespace Entries

/-- The item under a name. -/
def find?
    (name : String)
    (entries : Entries) : Option Item :=
  (List.find? (fun entry => entry.1 == name) entries).map Prod.snd

/-- Put an item under a name, in the place of the item that is there. -/
def put
    (name : String)
    (item : Item) : Entries -> Entries
  | [] => [(name, item)]
  | (other, old) :: rest =>
      if other = name then (name, item) :: rest else (other, old) :: put name item rest

/-- Change the table that a key leads to; lists of tables are entered at their
latest table. -/
def alter
    (change : Entries -> Option Entries) : Key -> Entries -> Option Entries
  | [], entries => change entries
  | name :: rest, entries =>
      match entries.find? name with
      | some (.table inner) =>
          (alter change rest inner).map fun inner => entries.put name (.table inner)
      | some (.tables (latest :: others)) =>
          (alter change rest latest).map fun latest =>
            entries.put name (.tables (latest :: others))
      | _ => none

/-- The table that a key leads to. -/
def inside? : Key -> Entries -> Option Entries
  | [], entries => some entries
  | name :: rest, entries =>
      match entries.find? name with
      | some (.table inner) => inside? rest inner
      | some (.tables (latest :: _)) => inside? rest latest
      | _ => none

end Entries

/-- A tree under construction. -/
structure Builder where
  /-- The table at the root. -/
  root : Entries
  /-- The keys of implicit tables. -/
  implicit : List Key
  /-- For each key that was given a value, whether that was a list. -/
  lists : List (Key × Bool)
  /-- The written keys, the latest first. -/
  written : List Key
  /-- The table that statements refer to. -/
  context : Key

/-- A step of the construction, which may fail. -/
abbrev Build := StateT Builder Option

namespace Build

/-- Mark a key as implicit. -/
def markImplicit (key : Key) : Build Unit :=
  modify fun state => { state with implicit := key :: state.implicit }

/-- Mark a key as defined. -/
def unmarkImplicit (key : Key) : Build Unit :=
  modify fun state => { state with implicit := state.implicit.filter (· != key) }

/-- Note whether the value of a name in the current table is a list.  The empty
name stands for the current table itself. -/
def noteList
    (name : String)
    (isList : Bool) : Build Unit :=
  modify fun state =>
    let key := if name = "" then state.context else state.context ++ [name]
    let key := if key.isEmpty then [""] else key
    { state with lists := (key, isList) :: state.lists }

/-- Note that a key was written. -/
def noteWritten (key : Key) : Build Unit :=
  modify fun state => { state with written := key :: state.written }

/-- Give a name in the current table an item. -/
def define
    (name : String)
    (item : Item) : Build Unit := do
  let state <- get
  let key := state.context ++ [name]
  let entries <- state.root.inside? state.context
  match entries.find? name with
  | none =>
      let root <- state.root.alter (fun entries => some (entries.put name item)) state.context
      set { state with root := root }
  | some _ =>
      if (state.lists.find? fun entry => entry.1 == key).any (·.2) then
        let root <- state.root.alter (fun entries => some (entries.put name item)) state.context
        set { state with root := root }
        unmarkImplicit key
      else
        guard (state.implicit.contains key)
        unmarkImplicit key

/-- Walk along the tables of a key, and make those that are missing. -/
def enter
    (done : Key) : Key -> Build Unit
  | [] => return
  | name :: rest => do
      let state <- get
      let entries <- state.root.inside? done
      let key := done ++ [name]
      if (entries.find? name).isNone then
        let root <-
          state.root.alter (fun entries => some (entries.put name (.table []))) done
        set { state with root := root }
        markImplicit key
      let state <- get
      guard (state.root.inside? key).isSome
      enter key rest

/-- Make a key the current table: a new table, or one more in a list. -/
def openTable
    (key : Key)
    (inList : Bool) : Build Unit := do
  let outer := key.dropLast
  let name := key.getLast?.getD ""
  enter [] outer
  modify fun state => { state with context := outer }
  if inList then
    let state <- get
    let entries <- state.root.inside? outer
    let elements <-
      match entries.find? name with
      | none => pure []
      | some (.tables elements) => pure elements
      | some _ => failure
    let root <-
      state.root.alter (fun entries => some (entries.put name (.tables ([] :: elements)))) outer
    set { state with root := root }
  else
    define name (.table [])
  modify fun state => { state with context := key }

/-- Make the tables that a dotted key passes through. -/
def openImplicit : Key -> Build Unit
  | [] => return
  | name :: rest => do
      let key := (<- get).context ++ [name]
      markImplicit key
      openTable key false
      openImplicit rest

/-- Go into the table of a dotted key, and note the key. -/
def openKey (key : Key) : Build String := do
  openImplicit key.dropLast
  let name := key.getLast?.getD ""
  noteWritten ((<- get).context ++ [name])
  return name

/-- Read the values of a list, by a reader of values. -/
def list
    (value : Value -> Build Item) : List Value -> Build Unit
  | [] => return
  | item :: rest => do
      discard (value item)
      list value rest

/-- Read the pairs of a table between braces, by a reader of values; each starts
from the table itself. -/
def pairs
    (value : String -> Value -> Build Item)
    (context : Key) : List (Key × Value) -> Build Unit
  | [] => return
  | (key, item) :: rest => do
      let name <- openKey key
      let read <- value name item
      define name read
      noteList name (match item with | .array _ => true | _ => false)
      modify fun state => { state with context := context }
      pairs value context rest

/-- Read a value under a name of the current table. -/
def value : Nat -> Bool -> String -> Value -> Build Item
  | 0, _, _, _ => failure
  | depth + 1, inList, name, item => do
      match item with
      | .array items =>
          noteList name true
          list (value depth true name) items
          return .leaf item
      | .table entries =>
          let outer := (<- get).context
          let key := outer ++ [name]
          markImplicit key
          openTable key inList
          pairs (value depth false) key entries
          modify fun state => { state with context := outer }
          return .table []
      | _ => return .leaf item

/-- Carry out a statement. -/
def statement
    (depth : Nat) : Statement -> Build Unit
  | .table key => do
      openTable key false
      noteList "" false
      noteWritten key
  | .element key => do
      openTable key true
      noteList "" false
      noteWritten key
  | .assign key item => do
      let outer := (<- get).context
      let name <- openKey key
      let read <- value depth false name item
      define name read
      noteList name (match item with | .array _ => true | _ => false)
      modify fun state => { state with context := outer }

end Build

/-- What is wrong with a text. -/
inductive Fault where
  /-- It is not well formed. -/
  | malformed (text : String)
  /-- The value under a key has the wrong type. -/
  | mistyped (text key : String)
deriving DecidableEq

/-- An order in which the entries of tables are visited.  A table does not say in which
order that is, only that each entry is visited once. -/
structure Order where
  /-- The entries in the order in which they are visited. -/
  arrange : Entries -> Entries
  /-- They are the entries of the table. -/
  perm : ∀ entries, (arrange entries).Perm entries

namespace Order

/-- The order in which the entries are written. -/
def written : Order := ⟨id, fun _ => .rfl⟩

/-- The order in which the entry that is written last is visited first. -/
def reversed : Order := ⟨List.reverse, List.reverse_perm⟩

end Order

/-- A TOML document. -/
structure Document where
  /-- The table at the root. -/
  root : Entries
  /-- All keys in the order in which they were written. -/
  keys : List Key

/-- The document of a text, if it is well formed. -/
def Document.ofText? (text : String) : Option Document := do
  let statements <- statements? text
  let (_, state) <- (statements.forM (Build.statement (text.length + 1))).run ⟨[], [], [], [], []⟩
  return ⟨state.root, state.written.reverse⟩

end Toml
end CtorScan
