import CtorScan.Source.Tree

/-!
# Types

A type is a tree: what it is, above the types that it is made of.  Declared types
and type parameters are known by numbers, under which an environment keeps what is
declared about them.
-/

namespace CtorScan
namespace Source

/-- The types that are not made of others.  Those of constants without a type of
their own come last. -/
inductive Basic where
  | bool | int | int8 | int16 | int32 | int64
  | uint | uint8 | uint16 | uint32 | uint64 | uintptr
  | float32 | float64 | complex64 | complex128 | string | unsafePointer
  | byte | rune
  | untypedBool | untypedInt | untypedRune | untypedFloat | untypedComplex | untypedString
  | untypedNil
deriving DecidableEq, Inhabited

namespace Basic

/-- The name of a basic type. -/
def name : Basic -> String
  | bool => "bool"
  | int => "int"
  | int8 => "int8"
  | int16 => "int16"
  | int32 => "int32"
  | int64 => "int64"
  | uint => "uint"
  | uint8 => "uint8"
  | uint16 => "uint16"
  | uint32 => "uint32"
  | uint64 => "uint64"
  | uintptr => "uintptr"
  | float32 => "float32"
  | float64 => "float64"
  | complex64 => "complex64"
  | complex128 => "complex128"
  | string => "string"
  | unsafePointer => "unsafe.Pointer"
  | byte => "byte"
  | rune => "rune"
  | untypedBool => "untyped bool"
  | untypedInt => "untyped int"
  | untypedRune => "untyped rune"
  | untypedFloat => "untyped float"
  | untypedComplex => "untyped complex"
  | untypedString => "untyped string"
  | untypedNil => "untyped nil"

/-- The basic types that have a name in every file. -/
def predeclared : List Basic :=
  [bool, int, int8, int16, int32, int64, uint, uint8, uint16, uint32, uint64, uintptr,
   float32, float64, complex64, complex128, string, byte, rune]

/-- Two names for one type are the same. -/
def plain : Basic -> Basic
  | byte => uint8
  | rune => int32
  | other => other

/-- The type of constants without a type of their own. -/
def isUntyped (basic : Basic) : Bool :=
  [untypedBool, untypedInt, untypedRune, untypedFloat, untypedComplex, untypedString,
   untypedNil].contains basic

/-- A type of truth values. -/
def isBoolean (basic : Basic) : Bool :=
  basic == bool || basic == untypedBool

/-- A type of texts. -/
def isString (basic : Basic) : Bool :=
  basic == string || basic == untypedString

/-- A type of whole numbers that are not negative. -/
def isUnsigned (basic : Basic) : Bool :=
  [uint, uint8, uint16, uint32, uint64, uintptr, byte].contains basic

/-- A type of whole numbers. -/
def isInteger (basic : Basic) : Bool :=
  basic.isUnsigned ||
    [int, int8, int16, int32, int64, rune, untypedInt, untypedRune].contains basic

/-- A type of fractions. -/
def isFloat (basic : Basic) : Bool :=
  [float32, float64, untypedFloat].contains basic

/-- A type of complex numbers. -/
def isComplex (basic : Basic) : Bool :=
  [complex64, complex128, untypedComplex].contains basic

/-- A type of numbers. -/
def isNumeric (basic : Basic) : Bool :=
  basic.isInteger || basic.isFloat || basic.isComplex

/-- A type whose values have an order. -/
def isOrdered (basic : Basic) : Bool :=
  basic.isInteger || basic.isFloat || basic.isString

/-- A type that constants can have. -/
def isConstant (basic : Basic) : Bool :=
  basic.isBoolean || basic.isNumeric || basic.isString

/-- The type that a constant without a type of its own gets by default. -/
def default : Basic -> Basic
  | untypedBool => bool
  | untypedInt => int
  | untypedRune => rune
  | untypedFloat => float64
  | untypedComplex => complex128
  | untypedString => string
  | other => other

/-- The order of the types of numbers without a type of their own. -/
def rank : Basic -> Nat
  | untypedInt => 1
  | untypedRune => 2
  | untypedFloat => 3
  | untypedComplex => 4
  | _ => 0

end Basic

/-- What is known about a field besides its type. -/
structure FieldInfo where
  /-- Its name. -/
  name : String
  /-- The package that declares it. -/
  package : String
  /-- Whether it is embedded. -/
  embedded : Bool
  /-- The note after it. -/
  tag : Option (List Nat)
deriving DecidableEq, Inhabited

/-- The name of a method and the package that declares it. -/
structure MethodName where
  /-- Its name. -/
  name : String
  /-- The package that declares it. -/
  package : String
deriving DecidableEq, Inhabited

/-- What a type is, apart from the types that it is made of. -/
inductive Head where
  /-- A basic type. -/
  | basic (basic : Basic)
  /-- A declared type with its arguments. -/
  | named (declaration : Nat)
  /-- Another name for a type, with its arguments. -/
  | synonym (declaration : Nat)
  /-- A type parameter. -/
  | param (id : Nat)
  /-- Pointers. -/
  | pointer
  /-- Slices. -/
  | slice
  /-- Arrays. -/
  | array (length : Nat)
  /-- Maps, by the types of their keys and values. -/
  | map
  /-- Channels. -/
  | channel (channelUse : ChannelUse)
  /-- Structures, by the types of their fields. -/
  | struct (fields : List FieldInfo)
  /-- Several values. -/
  | tuple
  /-- Functions, by the types of their parameters and then of their results. -/
  | func (params results : List String) (variadic : Bool)
  /-- Interfaces, by the types of their methods and then by what they embed.  One
  of them stands for all types with an equality. -/
  | interface (methods : List MethodName) (comparable implicit : Bool)
  /-- One of several types; a flag tells whether a type stands for all that are
  made like it. -/
  | union (tildes : List Bool)
deriving DecidableEq

/-- A type. -/
inductive Ty where
  /-- What it is, and the types that it is made of. -/
  | node (head : Head) (children : List Ty)

namespace Ty

instance : Inhabited Ty := ⟨.node (.tuple) []⟩

@[match_pattern, reducible]
def basic (kind : Basic) : Ty := .node (.basic kind) []

@[match_pattern, reducible]
def pointer (element : Ty) : Ty := .node .pointer [element]

@[match_pattern, reducible]
def slice (element : Ty) : Ty := .node .slice [element]

@[match_pattern, reducible]
def array (length : Nat) (element : Ty) : Ty := .node (.array length) [element]

@[match_pattern, reducible]
def map (key value : Ty) : Ty := .node .map [key, value]

@[match_pattern, reducible]
def channel (channelUse : ChannelUse) (element : Ty) : Ty := .node (.channel channelUse) [element]

@[match_pattern, reducible]
def named (declaration : Nat) (args : List Ty) : Ty := .node (.named declaration) args

@[match_pattern, reducible]
def synonym (declaration : Nat) (args : List Ty) : Ty := .node (.synonym declaration) args

@[match_pattern, reducible]
def param (id : Nat) : Ty := .node (.param id) []

@[match_pattern, reducible]
def struct (fields : List FieldInfo) (types : List Ty) : Ty := .node (.struct fields) types

@[match_pattern, reducible]
def tuple (items : List Ty) : Ty := .node .tuple items

/-- The type of functions from their named parameters and results. -/
def func
    (params results : List (String × Ty))
    (variadic : Bool) : Ty :=
  .node (.func (params.map Prod.fst) (results.map Prod.fst) variadic)
    (params.map Prod.snd ++ results.map Prod.snd)

/-- The interface without any demand. -/
def empty : Ty := .node (.interface [] false false) []

mutual

/-- Two trees are equal. -/
def same : Ty -> Ty -> Bool
  | .node head children, .node otherHead others => head == otherHead && sameAll children others

/-- Two lists of trees are equal. -/
def sameAll : List Ty -> List Ty -> Bool
  | [], [] => true
  | type :: types, other :: others => same type other && sameAll types others
  | _, _ => false

end

instance : BEq Ty := ⟨same⟩

mutual

theorem eq_of_same : (type other : Ty) -> same type other = true -> type = other
  | .node head children, .node otherHead others, equal => by
      rw [same, Bool.and_eq_true, beq_iff_eq] at equal
      rw [equal.1, eq_of_sameAll children others equal.2]

theorem eq_of_sameAll : (types others : List Ty) -> sameAll types others = true -> types = others
  | [], [], _ => rfl
  | type :: types, other :: others, equal => by
      rw [sameAll, Bool.and_eq_true] at equal
      rw [eq_of_same type other equal.1, eq_of_sameAll types others equal.2]
  | [], _ :: _, equal => by simp [sameAll] at equal
  | _ :: _, [], equal => by simp [sameAll] at equal

end

mutual

theorem same_self : (type : Ty) -> same type type = true
  | .node head children => by
      rw [same, Bool.and_eq_true, beq_iff_eq]
      exact ⟨rfl, sameAll_self children⟩

theorem sameAll_self : (types : List Ty) -> sameAll types types = true
  | [] => by rw [sameAll]
  | type :: types => by
      rw [sameAll, Bool.and_eq_true]
      exact ⟨same_self type, sameAll_self types⟩

end

instance : DecidableEq Ty := fun type other =>
  decidable_of_iff (same type other = true)
    ⟨eq_of_same type other, fun equal => equal ▸ same_self type⟩

mutual

/-- The number of types in a type, itself among them. -/
def size : Ty -> Nat
  | .node _ children => sizeOfAll children + 1

/-- The number of types in some types. -/
def sizeOfAll : List Ty -> Nat
  | [] => 0
  | type :: types => type.size + sizeOfAll types

end

mutual

/-- Put types in place of type parameters. -/
def substitute (assignment : Nat -> Option Ty) : Ty -> Ty
  | .node (.param id) children => (assignment id).getD (.node (.param id) children)
  | .node head children => .node head (substituteAll assignment children)

/-- Put types in place of type parameters in several types. -/
def substituteAll (assignment : Nat -> Option Ty) : List Ty -> List Ty
  | [] => []
  | type :: types => substitute assignment type :: substituteAll assignment types

end

mutual

/-- The type parameters in a type satisfy a test. -/
def anyParam (test : Nat -> Bool) : Ty -> Bool
  | .node (.param id) _ => test id
  | .node _ children => anyParamIn test children

/-- Some type parameter in some type satisfies a test. -/
def anyParamIn (test : Nat -> Bool) : List Ty -> Bool
  | [] => false
  | type :: types => anyParam test type || anyParamIn test types

end

/-- Put types in place of the type parameters at the same positions. -/
def instantiate
    (params : List Nat)
    (args : List Ty)
    (type : Ty) : Ty :=
  if params.isEmpty then type else substitute (fun id => (params.zip args).lookup id) type

end Ty

/-- The parts of a type of functions. -/
structure Signature where
  /-- The names and types of its parameters. -/
  params : List (String × Ty)
  /-- The names and types of its results. -/
  results : List (String × Ty)
  /-- Whether the last parameter takes any number of arguments. -/
  variadic : Bool
deriving DecidableEq

namespace Signature

instance : Inhabited Signature := ⟨⟨[], [], false⟩⟩

/-- The parts of a type of functions. -/
def ofType? : Ty -> Option Signature
  | .node (.func params results variadic) children =>
      some ⟨params.zip (children.take params.length),
        results.zip (children.drop params.length), variadic⟩
  | _ => none

/-- The type of functions with these parts. -/
def type (signature : Signature) : Ty :=
  .func signature.params signature.results signature.variadic

/-- The type of the results: nothing, one type, or several. -/
def result (signature : Signature) : Ty :=
  match signature.results with
  | [(_, type)] => type
  | results => .tuple (results.map Prod.snd)

end Signature

/-- The names and types of the methods that an interface lists itself. -/
def Ty.listedMethods : Ty -> List (MethodName × Ty)
  | .node (.interface methods _ _) children => methods.zip children
  | _ => []

/-- The types that an interface embeds. -/
def Ty.embeddedTypes : Ty -> List Ty
  | .node (.interface methods _ _) children => children.drop methods.length
  | _ => []

/-- The type is an interface. -/
def Ty.isInterfaceHead : Ty -> Bool
  | .node (.interface _ _ _) _ => true
  | _ => false

end Source
end CtorScan
