import CtorScan.Constructor.Scan

/-!
# Registered passes

A pass looks at one function at a time and lists what it found; from the calls
in a function it can go on to what is called.  Passes are registered under
names; the first registration of a name stands, and a refused registration
changes nothing.
-/

namespace CtorScan

/-- What a pass did with one function. -/
structure Outcome where
  /-- The constructor calls it found. -/
  records : List Record
  /-- Whether it says that it changed the function. -/
  changed : Bool

/-- A pass over single functions of a program, to whose positions their calls refer. -/
abbrev Pass := Program -> Function Nat -> Outcome

namespace Pass

/-- A pass that can be registered. -/
structure Entry where
  /-- The name to select it by. -/
  name : String
  /-- One line about it. -/
  summary : String
  /-- Whether it may change programs. -/
  mutates : Bool
  /-- Makes the pass for a marker; an entry without this cannot be used. -/
  build? : Option (String -> Pass)

/-- Why the registry refuses. -/
inductive RegistryError where
  /-- The entry has no name or cannot be built. -/
  | invalidEntry (name : String)
  /-- The name is taken. -/
  | duplicate (name : String)
  /-- Nothing is registered under the name. -/
  | unknown (name : String)
deriving DecidableEq

/-- The text of a refusal. -/
def RegistryError.message : RegistryError -> String
  | invalidEntry name => "invalid pass entry: " ++ Text.quoted name
  | duplicate name => "pass already registered: " ++ Text.quoted name
  | unknown name => "unknown pass: " ++ Text.quoted name

/-- A registered pass: its name, what is known about it, and how to make it. -/
structure Registered where
  /-- The name to select it by. -/
  name : String
  /-- One line about it. -/
  summary : String
  /-- Whether it may change programs. -/
  mutates : Bool
  /-- Makes the pass for a marker. -/
  build : String -> Pass

/-- The registered passes, in the order of registration. -/
structure Registry where
  /-- The passes that were accepted. -/
  entries : List Registered

namespace Registry

/-- The registry without passes. -/
def empty : Registry := ⟨[]⟩

/-- The pass registered under a name. -/
def find?
    (registry : Registry)
    (name : String) : Option Registered :=
  registry.entries.find? fun entry => entry.name == name

/-- The pass registered under a name, or the refusal. -/
def lookup
    (registry : Registry)
    (name : String) : Except RegistryError Registered :=
  match registry.find? name with
  | some entry => .ok entry
  | none => .error (.unknown name)

/-- Accept an entry that has a free name and can be built. -/
def register
    (registry : Registry)
    (entry : Entry) : Except RegistryError Registry :=
  match entry.build? with
  | none => .error (.invalidEntry entry.name)
  | some build =>
      if entry.name = "" then
        .error (.invalidEntry entry.name)
      else if (registry.find? entry.name).isSome then
        .error (.duplicate entry.name)
      else
        .ok ⟨registry.entries ++ [⟨entry.name, entry.summary, entry.mutates, build⟩]⟩

/-- The registered names in increasing order. -/
def names (registry : Registry) : List String :=
  (registry.entries.map Registered.name).mergeSort fun left right => decide (left ≤ right)

end Registry

/-- The name of the pass that finds constructor calls. -/
def constructorCalls : String := "implicit-ctor"

/-- The pass that finds constructor calls. -/
def constructorCallsEntry : Entry where
  name := constructorCalls
  summary := "Detect Implicit Constructor Calls"
  mutates := false
  build? := some fun marker program function =>
    ⟨Marker.scan marker (some (function.mapCallee program.signature?)), false⟩

/-- Add the passes that are always there. -/
def Registry.registerStandard (registry : Registry) : Except RegistryError Registry :=
  registry.register constructorCallsEntry

/-- The registry with exactly the passes that are always there. -/
def Registry.standard : Registry :=
  match Registry.empty.registerStandard with
  | .ok registry => registry
  | .error _ => .empty

end Pass
end CtorScan
