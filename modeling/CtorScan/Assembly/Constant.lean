import CtorScan.Assembly.Literal
import CtorScan.Assembly.Listing

/-!
# Constants in a listing

What names mean in a listing, and the shown form and the type of constants.  A
constant has to fit the type in front of it, and all names in it have to be
defined.
-/

namespace CtorScan
namespace Assembly

/-- What the names of a listing mean. -/
structure Scope where
  /-- The type definitions. -/
  definitions : Definitions
  /-- The types of functions, variables and second names, as pointers. -/
  globals : List (Ident × Ty)
  /-- The functions in order, each with the names of its blocks. -/
  functions : List (Ident × List Ident)
  /-- The numbers of metadata. -/
  metadata : List Nat
  /-- The groups of sections. -/
  comdats : List String

/-- A checked value: its shown form without its type, and its type. -/
structure Shown where
  /-- The shown form. -/
  text : String
  /-- The type. -/
  type : Ty

/-- The shown form with the type in front. -/
def Shown.full (value : Shown) : String :=
  value.type.text ++ " " ++ value.text

namespace Scope

/-- The type of a name. -/
def globalType?
    (scope : Scope)
    (ident : Ident) : Option Ty :=
  (scope.globals.find? fun entry => entry.1 = ident).map Prod.snd

/-- The position of a function. -/
def functionIndex?
    (scope : Scope)
    (ident : Ident) : Option Nat :=
  scope.functions.findIdx? fun entry => entry.1 = ident

/-- What a type stands for. -/
def expand
    (scope : Scope)
    (type : Ty) : Ty :=
  type.expand scope.definitions

/-- A truth value, or a vector of them beside a vector. -/
def truthType
    (scope : Scope)
    (compared : Ty) : Ty :=
  match scope.expand compared with
  | .vector scalable length _ => .vector scalable length (.int 1)
  | _ => .int 1

/-- The element type of a vector. -/
def elementType?
    (scope : Scope)
    (vector : Ty) : Option Ty :=
  match scope.expand vector with
  | .vector _ _ element => some element
  | _ => none

/-- The type of a part of an aggregate. -/
def partType?
    (scope : Scope) : Ty -> List Nat -> Option Ty
  | type, [] => some type
  | type, index :: rest =>
      match scope.expand type with
      | .array _ element => scope.partType? element rest
      | .struct _ fields => fields[index]?.bind fun field => scope.partType? field rest
      | _ => none

/-- The type that a path into a type leads to.  Into a structure it needs a
number. -/
def pathType?
    (scope : Scope) : Ty -> List Operand -> Option Ty
  | type, [] => some type
  | type, index :: rest =>
      match scope.expand type with
      | .array _ element => scope.pathType? element rest
      | .vector _ _ element => scope.pathType? element rest
      | .struct _ fields =>
          match index with
          | .int value => fields[value.toNat]?.bind fun field => scope.pathType? field rest
          | .word "zeroinitializer" => fields.head?.bind fun field => scope.pathType? field rest
          | .vector ((_, .int value) :: _) =>
              fields[value.toNat]?.bind fun field => scope.pathType? field rest
          | _ => none
      | _ => none

/-- The type of an address: a pointer, or a vector of pointers when some part of
the path is a vector. -/
def addressType?
    (scope : Scope)
    (element : Ty) : List (Ty × Operand) -> Option Ty
  | [] => none
  | base :: indices =>
      let target? := scope.pathType? element ((indices.drop 1).map Prod.snd)
      let space :=
        match scope.expand base.1 with
        | .pointer _ space => space
        | .vector _ _ element =>
            match scope.expand element with
            | .pointer _ space => space
            | _ => 0
        | _ => 0
      target?.map fun target =>
        let pointer := Ty.pointer target space
        let vectors := (base :: indices).filterMap fun part =>
          match scope.expand part.1 with
          | .vector scalable length _ => some (scalable, length)
          | _ => none
        match vectors with
        | (scalable, length) :: _ => .vector scalable length pointer
        | [] => pointer

/-- The type of a result. -/
def resultType?
    (scope : Scope) : Result -> Option Ty
  | .nothing => some .void
  | .is type => some type
  | .truth compared => some (scope.truthType compared)
  | .element vector => scope.elementType? vector
  | .elements vector mask =>
      match scope.expand vector, scope.expand mask with
      | .vector _ _ element, .vector scalable length _ => some (.vector scalable length element)
      | _, _ => none
  | .part aggregate indices => scope.partType? aggregate indices
  | .address element path => scope.addressType? element path

/-- An expression, if it has the type in front of it. -/
def ofType?
    (scope : Scope)
    (wanted type : Ty)
    (text : String) : Option Shown :=
  if Ty.same scope.definitions wanted type then some ⟨text, type⟩ else none

/-- A word that is a constant. -/
def word?
    (scope : Scope)
    (type : Ty)
    (word : String) : Option Shown :=
  match word, scope.expand type with
  | "null", .pointer _ _ => some ⟨word, type⟩
  | "null", _ => none
  | "none", .plain .token => some ⟨word, type⟩
  | "none", _ => none
  | _, _ => some ⟨word, type⟩

/-- A truth value. -/
def bool?
    (scope : Scope)
    (type : Ty)
    (value : Bool) : Option Shown :=
  match scope.expand type with
  | .int 1 => some ⟨if value then "true" else "false", type⟩
  | _ => none

/-- A whole number. -/
def int?
    (scope : Scope)
    (type : Ty)
    (value : Int) : Option Shown :=
  match scope.expand type with
  | .int 1 =>
      if value = 0 then some ⟨"false", type⟩
      else if value = 1 ∨ value = -1 then some ⟨"true", type⟩
      else none
  | .int _ => some ⟨toString value, type⟩
  | _ => none

/-- A number with a point or given by its bits. -/
def float?
    (scope : Scope)
    (type : Ty)
    (text : String) : Option Shown :=
  match scope.expand type with
  | .float format => (Literal.text? format text).map fun text => ⟨text, type⟩
  | _ => none

/-- A structure with some fields. -/
def struct?
    (scope : Scope)
    (type : Ty)
    (packed : Bool)
    (fields : List Shown) : Option Shown :=
  let inner :=
    if fields.isEmpty then "\x7b\x7d"
    else "\x7b " ++ ", ".intercalate (fields.map Shown.full) ++ " \x7d"
  match scope.expand type with
  | .struct _ _ => some ⟨if packed then "<" ++ inner ++ ">" else inner, type⟩
  | _ => none

/-- An array of some items. -/
def array?
    (scope : Scope)
    (type : Ty)
    (items : List Shown) : Option Shown :=
  match scope.expand type with
  | .array _ _ => some ⟨"[" ++ ", ".intercalate (items.map Shown.full) ++ "]", type⟩
  | _ => none

/-- A vector of some items. -/
def vector?
    (scope : Scope)
    (type : Ty)
    (items : List Shown) : Option Shown :=
  match scope.expand type with
  | .vector _ _ _ => some ⟨"<" ++ ", ".intercalate (items.map Shown.full) ++ ">", type⟩
  | _ => none

/-- An array of bytes. -/
def bytes?
    (scope : Scope)
    (type : Ty)
    (data : List Nat) : Option Shown :=
  match scope.expand type with
  | .array _ _ => some ⟨"c" ++ quotedBytes data, type⟩
  | _ => none

/-- The address of a block. -/
def blockAddress?
    (scope : Scope)
    (function block : Ident) : Option Shown :=
  match scope.functions.find? fun entry => entry.1 = function with
  | some (_, blocks) =>
      if blocks.contains block then
        some ⟨"blockaddress(@" ++ function.written ++ ", %" ++ block.written ++ ")",
          .pointer (.int 8) 0⟩
      else
        none
  | none => none

/-- A conversion of a value. -/
def cast?
    (scope : Scope)
    (wanted : Ty)
    (operation : String)
    (source : Shown)
    (target : Ty) : Option Shown := do
  guard (target.isDefined scope.definitions)
  scope.ofType? wanted target (operation ++ " (" ++ source.full ++ " to " ++ target.text ++ ")")

/-- The address of a part, by a path whose shown form is given too. -/
def address?
    (scope : Scope)
    (wanted : Ty)
    (inBounds : Bool)
    (element : Ty)
    (path : List (Ty × Operand))
    (parts : List String) : Option Shown := do
  guard (element.isDefined scope.definitions)
  let type <- scope.addressType? element path
  scope.ofType? wanted type
    ("getelementptr " ++ (if inBounds then "inbounds " else "") ++ "(" ++ element.text ++
      ", " ++ ", ".intercalate parts ++ ")")

/-- The type of an expression from those of its operands. -/
def expressionType?
    (scope : Scope)
    (operation : String)
    (values : List Shown)
    (indices : List Nat) : Option Ty := do
  let first <- values.head?
  match operation with
  | "icmp" | "fcmp" => return scope.truthType first.type
  | "select" => return (<- values[1]?).type
  | "extractelement" => scope.elementType? first.type
  | "shufflevector" =>
      let mask <- values[2]?
      match scope.expand first.type, scope.expand mask.type with
      | .vector _ _ element, .vector scalable length _ =>
          return .vector scalable length element
      | _, _ => none
  | "extractvalue" => scope.partType? first.type indices
  | _ => return first.type

/-- Any other expression of some values. -/
def expression?
    (scope : Scope)
    (wanted : Ty)
    (operation : String)
    (flags : List String)
    (values : List Shown)
    (indices : List Nat) : Option Shown := do
  let type <- scope.expressionType? operation values indices
  let parts := values.map Shown.full ++ indices.map toString
  scope.ofType? wanted type
    (" ".intercalate (operation :: flags) ++ " (" ++ ", ".intercalate parts ++ ")")

mutual

/-- A constant after the type in front of it. -/
def constant?
    (scope : Scope) : Ty -> Operand -> Option Shown
  | _, .localRef _ => none
  | _, .globalRef ident =>
      (scope.globalType? ident).map fun type => ⟨"@" ++ ident.written, type⟩
  | type, .bool value => scope.bool? type value
  | type, .int value => scope.int? type value
  | type, .float text => scope.float? type text
  | type, .word word => scope.word? type word
  | type, .struct packed fields => do scope.struct? type packed (<- scope.typedAll? fields)
  | type, .array items => do scope.array? type (<- scope.typedAll? items)
  | type, .vector items => do scope.vector? type (<- scope.typedAll? items)
  | type, .bytes data => scope.bytes? type data
  | _, .blockAddress function block => scope.blockAddress? function block
  | _, .marked word function =>
      (scope.globalType? function).map fun type => ⟨word ++ " @" ++ function.written, type⟩
  | type, .machineCode => some ⟨"asm", type⟩
  | wanted, .cast operation source target => do
      scope.cast? wanted operation (<- scope.typed? source) target
  | wanted, .address inBounds element path => do
      scope.address? wanted inBounds element (path.map Prod.snd) (<- scope.pathTexts? path)
  | wanted, .expression operation flags operands indices => do
      scope.expression? wanted operation flags (<- scope.typedAll? operands) indices

/-- A constant with its own type. -/
def typed?
    (scope : Scope) : Ty × Operand -> Option Shown
  | (type, operand) =>
      if type.isDefined scope.definitions then scope.constant? type operand else none

/-- Constants with their own types. -/
def typedAll?
    (scope : Scope) : List (Ty × Operand) -> Option (List Shown)
  | [] => some []
  | first :: rest => do
      let value <- scope.typed? first
      return value :: (<- scope.typedAll? rest)

/-- The shown form of a part of a path. -/
def partText?
    (scope : Scope) : Bool × Ty × Operand -> Option String
  | (inRange, part) => do
      let value <- scope.typed? part
      return (if inRange then "inrange " else "") ++ value.full

/-- The shown forms of the parts of a path. -/
def pathTexts?
    (scope : Scope) : List (Bool × Ty × Operand) -> Option (List String)
  | [] => some []
  | first :: rest => do
      let text <- scope.partText? first
      return text :: (<- scope.pathTexts? rest)

end

end Scope
end Assembly
end CtorScan
