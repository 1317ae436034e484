/-!
# Bytes as characters

Escapes in several formats denote bytes.  The bytes are read as characters in
the usual encoding; a byte that belongs to no character is shown as the
replacement character.
-/

namespace CtorScan
namespace Text

/-- The replacement character. -/
def replacement : Char := Char.ofNat 0xfffd

/-- The bits that a continuation byte contributes. -/
def continuation? (byte : Nat) : Option Nat :=
  if 0x80 ≤ byte ∧ byte < 0xc0 then some (byte - 0x80) else none

/-- The first character of the bytes and how many bytes it takes, if they start
with a well-formed character. -/
def firstChar? : List Nat -> Option (Char × Nat)
  | [] => none
  | byte :: rest =>
      if byte < 0x80 then
        some (Char.ofNat byte, 1)
      else if 0xc2 ≤ byte ∧ byte < 0xe0 then
        match rest with
        | second :: _ =>
            (continuation? second).map fun low => (Char.ofNat ((byte - 0xc0) * 64 + low), 2)
        | _ => none
      else if 0xe0 ≤ byte ∧ byte < 0xf0 then
        match rest with
        | second :: third :: _ =>
            match continuation? second, continuation? third with
            | some middle, some low =>
                let code := ((byte - 0xe0) * 64 + middle) * 64 + low
                if 0x800 ≤ code ∧ ¬ (0xd800 ≤ code ∧ code < 0xe000) then
                  some (Char.ofNat code, 3)
                else
                  none
            | _, _ => none
        | _ => none
      else if 0xf0 ≤ byte ∧ byte < 0xf5 then
        match rest with
        | second :: third :: fourth :: _ =>
            match continuation? second, continuation? third, continuation? fourth with
            | some high, some middle, some low =>
                let code := (((byte - 0xf0) * 64 + high) * 64 + middle) * 64 + low
                if 0x10000 ≤ code ∧ code < 0x110000 then some (Char.ofNat code, 4) else none
            | _, _, _ => none
        | _ => none
      else
        none

/-- The characters of the bytes; `skipped` bytes already belong to the character
before. -/
def charsOfBytesAfter : Nat -> List Nat -> List Char
  | _, [] => []
  | skipped + 1, _ :: rest => charsOfBytesAfter skipped rest
  | 0, byte :: rest =>
      match firstChar? (byte :: rest) with
      | some (c, length) => c :: charsOfBytesAfter (length - 1) rest
      | none => replacement :: charsOfBytesAfter 0 rest

/-- The characters of the bytes. -/
def charsOfBytes (bytes : List Nat) : List Char :=
  charsOfBytesAfter 0 bytes

/-- The bytes are the encoding of a text. -/
def isEncoding : Nat -> List Nat -> Bool
  | _, [] => true
  | skipped + 1, _ :: rest => isEncoding skipped rest
  | 0, byte :: rest =>
      match firstChar? (byte :: rest) with
      | some (_, length) => isEncoding (length - 1) rest
      | none => false

/-- The bytes of a character. -/
def bytesOfChar (c : Char) : List Nat :=
  let code := c.toNat
  if code < 0x80 then [code]
  else if code < 0x800 then [0xc0 + code / 64, 0x80 + code % 64]
  else if code < 0x10000 then [0xe0 + code / 4096, 0x80 + code / 64 % 64, 0x80 + code % 64]
  else [0xf0 + code / 262144, 0x80 + code / 4096 % 64, 0x80 + code / 64 % 64, 0x80 + code % 64]

/-- The bytes of a text. -/
def bytesOfChars (text : List Char) : List Nat :=
  text.flatMap bytesOfChar

end Text
end CtorScan
