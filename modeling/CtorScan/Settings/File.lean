import CtorScan.Files
import CtorScan.Settings.Basic
import CtorScan.Toml.Tree

/-!
# Settings files

A settings file is a TOML document.  Its keys name settings in any case, and it
may name nothing else; what it does not name keeps its default.  The entries of
the document are visited in no order that is known: of two keys that name the
same setting, the one that is visited last counts.
-/

namespace CtorScan
namespace Settings

/-- A character without its case.  Two letters of the character standard count
as the plain letters they fold to. -/
def foldChar (c : Char) : Char :=
  if c.toNat = 0x17f then 's'
  else if c.toNat = 0x212a then 'k'
  else c.toLower

/-- Two names are the same up to case. -/
def sameName (left right : String) : Bool :=
  left.toList.map foldChar == right.toList.map foldChar

/-- The names of the settings. -/
def names : List String :=
  ["pass", "marker", "jobs", "format", "verbose"]

/-- The setting that a key names. -/
def name? (key : String) : Option String :=
  names.find? fun name => sameName name key

/-- Change the setting with a name; none when the item has the wrong type. -/
def store?
    (settings : Settings)
    (name : String)
    (item : Toml.Item) : Option Settings :=
  match name, item with
  | "pass", .leaf (.text value) => some { settings with pass := value }
  | "marker", .leaf (.text value) => some { settings with marker := value }
  | "jobs", .leaf (.integer value) => some { settings with jobs := value }
  | "format", .leaf (.text value) => some { settings with format := value }
  | "verbose", .leaf (.bool value) => some { settings with verbose := value }
  | _, _ => none

/-- Change the settings that entries name, one after the other; keys that name none are
passed over.  The first item of the wrong type ends it, and its key is told. -/
def storeAll
    (settings : Settings) : Toml.Entries -> Except String Settings
  | [] => .ok settings
  | (key, item) :: rest =>
      match name? key with
      | none => storeAll settings rest
      | some name =>
          match store? settings name item with
          | none => .error key
          | some settings => storeAll settings rest

/-- The first key of a document that names no setting. -/
def strayKey? (document : Toml.Document) : Option Toml.Key :=
  document.keys.find? fun key =>
    match key with
    | [name] => (name? name).isNone
    | _ => true

/-- Why settings cannot be loaded. -/
inductive LoadError where
  /-- The file cannot be read. -/
  | unreadable (path : String) (fault : Files.Fault)
  /-- The file is not well formed, or a value has the wrong type. -/
  | malformed (path : String) (fault : Toml.Fault)
  /-- A key names no setting. -/
  | unknownKey (path : String) (key : Toml.Key)
deriving DecidableEq

/-- The wording of an error, where the words for a fault of the text are given. -/
def LoadError.message (words : Toml.Fault -> String) : LoadError -> String
  | .unreadable path fault => "failed to load config from " ++ path ++ ": " ++ fault.message
  | .malformed path fault => "failed to load config from " ++ path ++ ": " ++ words fault
  | .unknownKey path key =>
      "invalid config: " ++ path ++ ": unknown key " ++ Text.quoted key.shown

/-- The settings that a document at a path says, on top of the defaults, when its table is
visited in an order. -/
def ofText
    (order : Toml.Order)
    (path text : String) : Except LoadError Settings :=
  match Toml.Document.ofText? text with
  | none => .error (.malformed path (.malformed text))
  | some document =>
      match storeAll standard (order.arrange document.root) with
      | .error key => .error (.malformed path (.mistyped text key))
      | .ok settings =>
          match strayKey? document with
          | some key => .error (.unknownKey path key)
          | none => .ok settings

/-- Load the settings at a path. -/
def load
    (access : Files.Access)
    (order : Toml.Order)
    (path : String) : Except LoadError Settings :=
  match access path with
  | .error fault => .error (.unreadable path fault)
  | .ok text => ofText order path text

end Settings
end CtorScan
