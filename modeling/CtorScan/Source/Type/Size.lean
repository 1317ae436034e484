import CtorScan.Source.Type.Environment

/-!
# Sizes of values

Sizes and alignments in bytes on a machine with words of eight bytes.
-/

namespace CtorScan
namespace Source

/-- The size and the alignment of a value. -/
structure Extent where
  /-- Its size. -/
  size : Nat
  /-- Its alignment. -/
  alignment : Nat
deriving Inhabited

/-- The least multiple of the alignment that is not smaller. -/
def alignUp (offset alignment : Nat) : Nat :=
  (offset + alignment - 1) / alignment * alignment

/-- The extent of one or more words. -/
def Extent.words (count : Nat) : Extent := ⟨8 * count, 8⟩

/-- The extent of a value of a basic type. -/
def Basic.extent : Basic -> Extent
  | .bool | .int8 | .uint8 | .byte | .untypedBool => ⟨1, 1⟩
  | .int16 | .uint16 => ⟨2, 2⟩
  | .int32 | .uint32 | .rune | .float32 | .untypedRune => ⟨4, 4⟩
  | .complex64 => ⟨8, 4⟩
  | .complex128 | .untypedComplex => ⟨16, 8⟩
  | .string | .untypedString => ⟨16, 8⟩
  | _ => ⟨8, 8⟩

/-- The offsets of fields that follow one another, and the offset after them. -/
def offsetsFrom : Nat -> List Extent -> List Nat × Nat
  | offset, [] => ([], offset)
  | offset, extent :: rest =>
      let start := alignUp offset extent.alignment
      let (offsets, stop) := offsetsFrom (start + extent.size) rest
      (start :: offsets, stop)

/-- The extent of a structure with some fields.  A last field without a size still
takes a byte, so that its address lies inside. -/
def structExtent (fields : List Extent) : Extent :=
  let alignment := fields.foldl (fun most field => max most field.alignment) 1
  let (offsets, stop) := offsetsFrom 0 fields
  let stop :=
    match fields.getLast? with
    | some last => if last.size = 0 && 0 < stop && !offsets.isEmpty then stop + 1 else stop
    | none => stop
  ⟨alignUp stop alignment, alignment⟩

/-- The extent of a value of a type that goes at most as deep as the bound. -/
def Env.extentUpTo (env : Env) : Nat -> Ty -> Extent
  | 0, _ => default
  | bound + 1, type =>
      match env.underlying type with
      | .node (.basic basic) _ => basic.extent
      | .node .slice _ => .words 3
      | .node (.interface _ _ _) _ => .words 2
      | .node (.array length) [element] =>
          let extent := extentUpTo env bound element
          ⟨extent.size * length, extent.alignment⟩
      | .node (.struct _) children => structExtent (children.map (extentUpTo env bound))
      | _ => .words 1

/-- The extent of a value of a type. -/
def Env.extent (env : Env) (type : Ty) : Extent :=
  env.extentUpTo (env.depthLimit type) type

/-- The offset of a field in a structure. -/
def Env.fieldOffset (env : Env) (type : Ty) (index : Nat) : Nat :=
  match env.underlying type with
  | .node (.struct _) children =>
      ((offsetsFrom 0 (children.map env.extent)).1[index]?).getD 0
  | _ => 0

end Source
end CtorScan
