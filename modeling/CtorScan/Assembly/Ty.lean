import CtorScan.Assembly.Parse
import CtorScan.Program.Basic

/-!
# Types of assembly

The types of values, as they are written.  A type may refer to a definition by
its name; a value is a pointer when its type, with such names replaced by what
they stand for, is a pointer type.
-/

namespace CtorScan
namespace Assembly

/-- The formats of binary numbers. -/
inductive FloatFormat where
  /-- Sixteen bits. -/
  | half
  /-- Thirty-two bits. -/
  | single
  /-- Sixty-four bits. -/
  | double
  /-- A hundred and twenty-eight bits. -/
  | quadruple
  /-- Eighty bits. -/
  | extended
  /-- The sum of two numbers of sixty-four bits. -/
  | paired
deriving DecidableEq, Inhabited

namespace FloatFormat

/-- The name of a format. -/
def name : FloatFormat -> String
  | half => "half"
  | single => "float"
  | double => "double"
  | quadruple => "fp128"
  | extended => "x86_fp80"
  | paired => "ppc_fp128"

/-- All formats. -/
def all : List FloatFormat := [half, single, double, quadruple, extended, paired]

/-- The format with a name. -/
def ofName? (name : String) : Option FloatFormat :=
  all.find? fun format => format.name == name

end FloatFormat

/-- The types without structure. -/
inductive PlainType where
  /-- Short vectors of one machine. -/
  | media
  /-- Blocks. -/
  | label
  /-- What ties instructions together. -/
  | token
  /-- Notes for tools. -/
  | metadata
deriving DecidableEq, Inhabited

namespace PlainType

/-- The name of a type without structure. -/
def name : PlainType -> String
  | media => "x86_mmx"
  | label => "label"
  | token => "token"
  | metadata => "metadata"

/-- All types without structure. -/
def all : List PlainType := [media, label, token, metadata]

/-- The type without structure that has a name. -/
def ofName? (name : String) : Option PlainType :=
  all.find? fun type => type.name == name

end PlainType

/-- A type. -/
inductive Ty where
  /-- No value. -/
  | void
  /-- Whole numbers of some bits. -/
  | int (bits : Nat)
  /-- Numbers in a binary format. -/
  | float (format : FloatFormat)
  /-- A type without structure. -/
  | plain (type : PlainType)
  /-- Pointers in an address space. -/
  | pointer (target : Ty) (space : Nat)
  /-- Arrays. -/
  | array (length : Nat) (element : Ty)
  /-- Vectors, perhaps of a length that is a multiple. -/
  | vector (scalable : Bool) (length : Nat) (element : Ty)
  /-- Structures, packed or not. -/
  | struct (packed : Bool) (fields : List Ty)
  /-- Functions. -/
  | function (result : Ty) (parameters : List Ty) (variadic : Bool)
  /-- A defined type. -/
  | named (name : Ident)
deriving Inhabited

namespace Ty

mutual

/-- The written form of a type. -/
def text : Ty -> String
  | .void => "void"
  | .int bits => "i" ++ toString bits
  | .float format => format.name
  | .plain type => type.name
  | .pointer target space =>
      target.text ++ (if space = 0 then "" else " addrspace(" ++ toString space ++ ")") ++ "*"
  | .array length element => "[" ++ toString length ++ " x " ++ element.text ++ "]"
  | .vector scalable length element =>
      "<" ++ (if scalable then "vscale x " else "") ++ toString length ++ " x " ++
        element.text ++ ">"
  | .struct packed fields =>
      let inner :=
        if fields.isEmpty then "\x7b\x7d"
        else "\x7b " ++ ", ".intercalate (texts fields) ++ " \x7d"
      if packed then "<" ++ inner ++ ">" else inner
  | .function result parameters variadic =>
      result.text ++ " (" ++
        ", ".intercalate (texts parameters ++ (if variadic then ["..."] else [])) ++ ")"
  | .named name =>
      "%" ++ (match name with
        | .name text => writtenName text
        | .number value => toString value)

/-- The written forms of some types. -/
def texts : List Ty -> List String
  | [] => []
  | type :: rest => type.text :: texts rest

end

/-- The number in a word such as `i32`. -/
def bitsOf? (word : String) : Option Nat :=
  match word.toList with
  | 'i' :: digits =>
      if !digits.isEmpty && digits.all Char.isDigit then some (Number.ofDigits 10 digits) else none
  | _ => none

/-- Attributes of parameters that are one word. -/
def parameterWords : List String :=
  ["immarg", "inreg", "nest", "noalias", "nocapture", "nofree", "noundef", "nonnull", "readnone",
    "readonly", "returned", "signext", "swiftasync", "swifterror", "swiftself", "writeonly",
    "zeroext", "allocalign", "allocptr", "byval", "inalloca", "sret"]

/-- Attributes of parameters that hold a type. -/
def typedAttributes : List String :=
  ["byval", "byref", "inalloca", "preallocated", "sret", "elementtype"]

/-- An attribute that is a text in quotes, perhaps with a value. -/
def quotedAttribute : Parse Unit := do
  discard Parse.quoted
  discard (Parse.optional (do Parse.sign '='; Parse.quoted))

/-- An address space. -/
def addressSpace : Parse Nat := do
  Parse.word "addrspace"
  Parse.parenthesized Parse.natural

/-- An attribute of a parameter, by a reader of types; none is kept. -/
def parameterAttribute (type : Parse Ty) : Parse Unit :=
  quotedAttribute <|>
  (do
    discard (Parse.wordOf typedAttributes)
    discard (Parse.parenthesized type)) <|>
  (do
    discard (Parse.wordOf ["dereferenceable", "dereferenceable_or_null"])
    discard (Parse.parenthesized Parse.natural)) <|>
  (do
    Parse.word "align"
    discard (Parse.natural <|> Parse.parenthesized Parse.natural)) <|>
  (do discard (Parse.wordOf parameterWords))

/-- A parameter of a function type or a function: its type and its name. -/
def parameter (type : Parse Ty) : Parse (Ty × Option Ident) := do
  let read <- type
  discard (Parse.many (parameterAttribute type))
  return (read, <- Parse.optional Parse.localIdent)

/-- The parameters of a function, in brackets, and whether further arguments may
follow. -/
def parameters (type : Parse Ty) : Parse (List (Ty × Option Ident) × Bool) :=
  Parse.parenthesized
    ((do Parse.word "..."; return ([], true)) <|>
    (do
      let list <- Parse.commaSeparated (parameter type)
      let variadic <-
        if list.isEmpty then pure false
        else Parse.succeeds (do Parse.sign ','; Parse.word "...")
      return (list, variadic)))

/-- The length and the element type of an array or a vector. -/
def sized (type : Parse Ty) : Parse (Nat × Ty) := do
  let length <- Parse.natural
  Parse.word "x"
  return (length, <- type)

/-- The fields of a structure, in braces. -/
def fields (type : Parse Ty) : Parse (List Ty) := do
  Parse.sign '\x7b'
  let list <- Parse.commaSeparated type
  Parse.sign '\x7d'
  return list

/-- What follows an opening angle bracket: a vector or a packed structure. -/
def angled (type : Parse Ty) : Parse Ty := do
  let read <-
    (do return Ty.struct true (<- fields type)) <|>
    (do
      let scalable <- Parse.succeeds (do Parse.word "vscale"; Parse.word "x")
      let (length, element) <- sized type
      return Ty.vector scalable length element)
  Parse.sign '>'
  return read

/-- A type without what may follow it. -/
def stem (type : Parse Ty) : Parse Ty :=
  (Parse.accept fun token =>
    match token with
    | .word text =>
        if text = "void" then some .void
        else
          (FloatFormat.ofName? text).map .float <|>
          (PlainType.ofName? text).map .plain <|>
          (bitsOf? text).map .int
    | .localIdent ident => some (.named ident)
    | _ => none) <|>
  (do
    Parse.sign '['
    let (length, element) <- sized type
    Parse.sign ']'
    return .array length element) <|>
  (do return .struct false (<- fields type)) <|>
  (do Parse.sign '<'; angled type)

/-- What may follow a type: asterisks and parameters. -/
def suffixes
    (type : Parse Ty)
    (read : Ty) : Nat -> Parse Ty
  | 0 => return read
  | bound + 1 => do
      let next <- Parse.optional
        ((do
          let space <- Parse.optional addressSpace
          Parse.sign '*'
          return Ty.pointer read (space.getD 0)) <|>
        (do
          let (list, variadic) <- parameters type
          return Ty.function read (list.map Prod.fst) variadic))
      match next with
      | some longer => suffixes type longer bound
      | none => return read

/-- A type that is nested at most as deep as the number says. -/
def reader : Nat -> Parse Ty
  | 0 => failure
  | depth + 1 => do
      let read <- stem (reader depth)
      suffixes (reader depth) read ((<- get).length + 1)

/-- A type. -/
def parse : Parse Ty := do
  reader ((<- get).length + 1)

end Ty

/-- A type definition: what a name stands for, if that is known. -/
abbrev Definitions := List (Ident × Option Ty)

namespace Ty

/-- What a type stands for, when names stand for names at most as often as the
number says. -/
def expandUpTo
    (definitions : Definitions) : Nat -> Ty -> Ty
  | 0, type => type
  | bound + 1, .named name =>
      match definitions.find? fun entry => entry.1 = name with
      | some (_, some type) => expandUpTo definitions bound type
      | _ => .named name
  | _, type => type

/-- What a type stands for. -/
def expand
    (definitions : Definitions)
    (type : Ty) : Ty :=
  expandUpTo definitions (definitions.length + 1) type

/-- The type is a pointer type. -/
def isPointer
    (definitions : Definitions)
    (type : Ty) : Bool :=
  match type.expand definitions with
  | .pointer _ _ => true
  | _ => false

/-- The written form with the fact whether it is a pointer. -/
def toTypeText
    (definitions : Definitions)
    (type : Ty) : TypeText :=
  ⟨type.text, type.isPointer definitions⟩

/-- The name of a defined structure. -/
def structName?
    (definitions : Definitions) : Ty -> Option Ident
  | .named name =>
      match (Ty.named name).expand definitions with
      | .struct _ _ => some name
      | .named _ => some name
      | _ => none
  | _ => none

/-- Two lists hold the same things, by a comparison of things. -/
def sameAll (same : Ty -> Ty -> Bool) : List Ty -> List Ty -> Bool
  | [], [] => true
  | left :: lefts, right :: rights => same left right && sameAll same lefts rights
  | _, _ => false

/-- Two types are the same, and this shows by comparing at most as deep as the
number says.  Defined structures are the same when their names are. -/
def sameUpTo
    (definitions : Definitions) : Nat -> Ty -> Ty -> Bool
  | 0, _, _ => false
  | depth + 1, left, right =>
      match left.structName? definitions, right.structName? definitions with
      | some leftName, some rightName => leftName = rightName
      | some _, none => false
      | none, some _ => false
      | none, none =>
          match left.expand definitions, right.expand definitions with
          | .void, .void => true
          | .int leftBits, .int rightBits => leftBits = rightBits
          | .float leftFormat, .float rightFormat => leftFormat = rightFormat
          | .plain leftPlain, .plain rightPlain => leftPlain = rightPlain
          | .pointer leftTarget leftSpace, .pointer rightTarget rightSpace =>
              leftSpace = rightSpace && sameUpTo definitions depth leftTarget rightTarget
          | .array leftLength leftElement, .array rightLength rightElement =>
              leftLength = rightLength && sameUpTo definitions depth leftElement rightElement
          | .vector leftScalable leftLength leftElement,
            .vector rightScalable rightLength rightElement =>
              leftScalable = rightScalable && leftLength = rightLength &&
                sameUpTo definitions depth leftElement rightElement
          | .struct leftPacked leftFields, .struct rightPacked rightFields =>
              leftPacked = rightPacked &&
                sameAll (sameUpTo definitions depth) leftFields rightFields
          | .function leftResult leftParameters leftVariadic,
            .function rightResult rightParameters rightVariadic =>
              leftVariadic = rightVariadic &&
                sameUpTo definitions depth leftResult rightResult &&
                sameAll (sameUpTo definitions depth) leftParameters rightParameters
          | _, _ => false

mutual

/-- The number of types in a type, itself among them. -/
def size : Ty -> Nat
  | .pointer target _ => target.size + 1
  | .array _ element => element.size + 1
  | .vector _ _ element => element.size + 1
  | .struct _ fields => sizeOfAll fields + 1
  | .function result parameters _ => result.size + sizeOfAll parameters + 1
  | _ => 1

/-- The number of types in some types. -/
def sizeOfAll : List Ty -> Nat
  | [] => 0
  | type :: rest => type.size + sizeOfAll rest

end

/-- Two types are the same.  A comparison meets types within the two and within
definitions; one that goes deeper than there are pairs of these goes round in
circles. -/
def same
    (definitions : Definitions)
    (left right : Ty) : Bool :=
  let defined := sizeOfAll (definitions.filterMap Prod.snd)
  sameUpTo definitions ((left.size + defined) * (right.size + defined) + 1) left right

mutual

/-- All names in a type are defined. -/
def isDefined
    (definitions : Definitions) : Ty -> Bool
  | .pointer target _ => target.isDefined definitions
  | .array _ element => element.isDefined definitions
  | .vector _ _ element => element.isDefined definitions
  | .struct _ fields => areDefined definitions fields
  | .function result parameters _ =>
      result.isDefined definitions && areDefined definitions parameters
  | .named name => definitions.any fun entry => entry.1 = name
  | _ => true

/-- All names in some types are defined. -/
def areDefined
    (definitions : Definitions) : List Ty -> Bool
  | [] => true
  | type :: rest => type.isDefined definitions && areDefined definitions rest

end

end Ty
end Assembly
end CtorScan
