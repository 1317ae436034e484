import CtorScan.Flow.Frame

/-!
# Common instructions

Reading and writing, conversions, arithmetic and comparisons.
-/

namespace CtorScan
namespace Flow
namespace Build

open Source

variable {π : Type}

/-! ## Constants -/

/-- A whole number. -/
def number (value : Int) : Value :=
  .constant (some (.int value)) (.basic .int)

/-- A truth value. -/
def truth (value : Bool) : Value :=
  .constant (some (.bool value)) (.basic .bool)

/-- A text. -/
def words (text : String) : Value :=
  .constant (some (.string (text.toUTF8.toList.map UInt8.toNat))) (.basic .string)

/-- What a type of pointers points to; other types stay as they are. -/
def pointed (env : Env) (type : Ty) : Ty :=
  (env.corePointee? type).getD type

/-- The type is one of pointers. -/
def isPointerCore (env : Env) (type : Ty) : Bool :=
  (env.corePointee? type).isSome

/-- Read what is at an address. -/
def load (address : Value) : Build π Value := do
  compute .load [address] (pointed (<- env) address.type) none

/-- One of several values. -/
def extract (tuple : Value) (index : Nat) : Build π Value :=
  let type :=
    match tuple.type with
    | .node .tuple types => types.getD index default
    | _ => default
  simple "extract" [tuple] type

/-! ## Conversions -/

/-- How a value of one type becomes one of another. -/
inductive Change where
  /-- It stays what it is. -/
  | type
  /-- A slice becomes an array. -/
  | array
  /-- A slice becomes a pointer to an array. -/
  | arrayPointer
  /-- A slice becomes an array without elements. -/
  | emptyArray
  /-- A slice becomes a pointer to an array without elements. -/
  | emptyArrayPointer
  /-- It is represented in another way. -/
  | representation
deriving DecidableEq

/-- A value of one type that is made like another type stays what it is. -/
def preserves (env : Env) (source target : Ty) : Bool :=
  env.identicalWithoutTags source target ||
    match source, target with
    | .node (.channel _) _, .node (.channel _) _ => true
    | .node .pointer _, .node .pointer _ => true
    | _, _ => false

/-- How a value of a type without a name becomes one of another. -/
def change (env : Env) (source target : Ty) : Change :=
  if preserves env source target then
    .type
  else
    match source, target with
    | .node .slice [element], .node (.array length) [other] =>
        if !env.identical element other then .representation
        else if length == 0 then .emptyArray
        else .array
    | .node .slice [element], .node .pointer [base] =>
        match env.underlying base with
        | .node (.array length) [other] =>
            if !env.identical element other then .representation
            else if length == 0 then .emptyArrayPointer
            else .arrayPointer
        | _ => .representation
    | _, _ => .representation

/-- All ways in which a value of one type may become one of another. -/
def changes (env : Env) (source target : Ty) : List Change :=
  ((env.terms source).flatMap fun given =>
    (env.terms target).map fun wanted => change env given wanted).eraseDups

/-- A value that has no type of its own as one of its default type. -/
def asDefault (value : Value) : Build π Value :=
  match value.type with
  | .node (.basic basic) _ =>
      if basic.isUntyped then
        match value with
        | .constant inner _ => pure (.constant inner (.basic basic.default))
        | other => simple "convert" [other] (.basic basic.default)
      else
        pure value
  | _ => pure value

/-- A value as one of a type of interfaces. -/
def toInterface (value : Value) (target : Ty) : Build π Value := do
  let env <- env
  let source := value.type
  if preserves env (env.underlying source) (env.underlying target) then
    simple "changetype" [value] target
  else if env.isPlainInterface source then
    simple "changeinterface" [value] target
  else if env.basic? source == some .untypedNil then
    return zero env target
  else
    simple "makeinterface" [<- asDefault value] target

/-- Convert a value to a type by its changes. -/
def toOther (value : Value) (target : Ty) (found : List Change) : Build π Value := do
  let env <- env
  match found with
  | [.type] => simple "changetype" [value] target
  | [.arrayPointer] => simple "slicetoarraypointer" [value] target
  | [.emptyArrayPointer] => simple "slicetoarraypointer" [value] target
  | [.array] =>
      let address <- simple "slicetoarraypointer" [value] (.pointer target)
      compute .load [address] target none
  | [.emptyArray] => return zero env target
  | [.representation] => simple "convert" [value] target
  | _ => simple "multiconvert" [value] target

/-- Convert a value to a type. -/
def convert (value : Value) (target : Ty) : Build π Value := do
  let env <- env
  if env.identical value.type target then
    return value
  else if env.isPlainInterface target then
    toInterface value target
  else
    let found := changes env value.type target
    let mayFail := found.contains .array || found.contains .arrayPointer
    match value with
    | .constant inner _ =>
        if !env.isParam target && (env.basic? target).isSome then
          match inner with
          | some inner => return .constant (some inner) target
          | none => return zero env target
        else if inner.isNone && !mayFail then
          return zero env target
        else
          toOther value target found
    | _ => toOther value target found

/-- Write a value at an address. -/
def store (address value : Value) : Build π Unit := do
  let converted <- convert value (pointed (<- env) address.type)
  act .store [address, converted] none

/-! ## Operations -/

/-- An arithmetic operation with a result of a type. -/
def arithmetic (operator : String) (left right : Value) (type : Ty) : Build π Value := do
  let env <- env
  let left <- convert left type
  let right <-
    if Typed.shifts.contains operator then
      if env.isUntyped right.type then convert right (.basic .uint) else pure right
    else
      convert right type
  simple "binop" [left, right] type

/-- A comparison. -/
def compare (left right : Value) : Build π Value := do
  let env <- env
  let (left, right) <-
    if env.identical (env.underlying left.type) (env.underlying right.type) then
      pure (left, right)
    else if env.isPlainInterface left.type then
      pure (left, <- convert right left.type)
    else if env.isPlainInterface right.type then
      pure (<- convert left right.type, right)
    else if left.isConstant then
      pure (<- convert left right.type, right)
    else if right.isConstant then
      pure (left, <- convert right left.type)
    else
      pure (left, right)
  simple "binop" [left, right] (.basic .bool)

/-- Fail with a value; what follows cannot be reached. -/
def fail (value : Value) : Build π Unit := do
  let value <- convert value .empty
  act (.other "panic") [value] none

/-! ## Fields -/

/-- The type of a field. -/
def fieldType (env : Env) (type : Ty) (index : Nat) : Ty :=
  match env.core? type with
  | some (.node (.struct _) types) => types.getD index default
  | _ => default

/-- The address of a field of what is at an address. -/
def fieldAddress (address : Value) (index : Nat) : Build π Value := do
  let env <- env
  let type := fieldType env (pointed env address.type) index
  simple "fieldaddr" [address] (.pointer type)

/-- A field of a value. -/
def fieldOf (value : Value) (index : Nat) : Build π Value := do
  simple "field" [value] (fieldType (<- env) value.type index)

/-- Follow embedded fields. -/
def throughFields (value : Value) : List Nat -> Build π Value
  | [] => return value
  | index :: rest => do
      let env <- env
      if isPointerCore env value.type then
        let address <- fieldAddress value index
        if isPointerCore env (pointed env address.type) then
          throughFields (<- load address) rest
        else
          throughFields address rest
      else
        throughFields (<- fieldOf value index) rest

/-! ## Locations -/

/-- Something that can be written to. -/
inductive Location where
  /-- Nothing. -/
  | blank
  /-- An address. -/
  | cell (address : Value)
  /-- A field of what is at an address; its address is computed at each use. -/
  | field (address : Value) (index : Nat)
  /-- An element of a sequence; its address is computed at each use. -/
  | element (base index : Value) (type : Ty)
  /-- An entry of a map. -/
  | entry (map key : Value) (type : Ty)

namespace Location

/-- The type of what is at a location. -/
def type (env : Env) : Location -> Ty
  | blank => default
  | cell address => pointed env address.type
  | field address index => fieldType env (pointed env address.type) index
  | element _ _ type => type
  | entry _ _ type => type

/-- The location is an address that is known. -/
def isCell : Location -> Bool
  | cell _ => true
  | _ => false

/-- The location is nothing. -/
def isBlank : Location -> Bool
  | blank => true
  | _ => false

end Location

/-- The address of a location. -/
def addressAt : Location -> Build π Value
  | .cell address => return address
  | .field address index => fieldAddress address index
  | .element base index type => simple "indexaddr" [base, index] (.pointer type)
  | _ => failure

/-- Read what is at a location. -/
def loadAt : Location -> Build π Value
  | .entry map key type => simple "lookup" [map, key] type
  | location => do load (<- addressAt location)

/-- Write a value to a location. -/
def storeAt (location : Location) (value : Value) : Build π Unit := do
  match location with
  | .blank => pure ()
  | .entry map key type =>
      let converted <- convert value type
      act (.other "mapupdate") [map, key, converted] none
  | other => store (<- addressAt other) value

/-- Writing that is put off until all values are known. -/
abbrev Pending := List (Location × Value)

/-- Write what was put off. -/
def flush (pending : Pending) : Build π Unit :=
  pending.forM fun (location, value) => storeAt location value

end Build
end Flow
end CtorScan
