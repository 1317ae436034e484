import CtorScan.Text.Utf8
import CtorScan.Yaml.Token.Scalar

/-!
# Anchors, tags and directives

The words that say something about a node or about the document instead of being
part of its content.
-/

namespace CtorScan
namespace Yaml
namespace Property

/-- A character that may follow an anchor name directly. -/
def mayFollowName (c : Char) : Bool :=
  isSpaceOrTab c || isBreak c || c == '?' || c == ':' || c == ',' || c == ']' || c == '\x7d' ||
    c == '%' || c == '@' || c.toNat == 96

/-- Read the name of an anchor or an alias after its sign. -/
def readName (cursor : Cursor) : Except Fault (List Char × Cursor) :=
  let (name, next) := cursor.takeWhile isWordChar
  if name.isEmpty || !(next.endsAt 0 || next.holdsAt 0 mayFollowName) then
    .error next.fault
  else
    .ok (name, next)

/-- A character that stands for itself in a tag. -/
def isTagChar (c : Char) : Bool :=
  isWordChar c || [';', '/', '?', ':', '@', '&', '=', '+', '$', ',', '.', '!', '~', '*', '\'',
    '(', ')', '[', ']'].contains c

/-- Read the bytes of an escaped character, two hexadecimal digits each. -/
def readEscapedBytes
    (bytes : List Nat)
    (cursor : Cursor) : Nat -> List Nat × Cursor
  | 0 => (bytes, cursor)
  | bound + 1 =>
      if cursor.isAt 0 '%' then
        match (cursor.peekAt? 1).bind Scalar.hexValue?,
          (cursor.peekAt? 2).bind Scalar.hexValue? with
        | some high, some low =>
            readEscapedBytes (bytes ++ [16 * high + low]) (cursor.skipMany 3) bound
        | _, _ => (bytes, cursor)
      else
        (bytes, cursor)

/-- Read the characters of a tag, with escapes. -/
def readTagChars
    (text : List Char)
    (cursor : Cursor) : Nat -> Except Fault (List Char × Cursor)
  | 0 => .ok (text, cursor)
  | bound + 1 =>
      match cursor.peek? with
      | none => .ok (text, cursor)
      | some c =>
          if c == '%' then
            let (bytes, next) := readEscapedBytes [] cursor (cursor.rest.length + 1)
            if bytes.isEmpty || !Text.isEncoding 0 bytes || next.isAt 0 '%' then
              .error cursor.fault
            else
              readTagChars (text ++ Text.charsOfBytes bytes) next bound
          else if isTagChar c then
            readTagChars (text ++ [c]) cursor.skip bound
          else
            .ok (text, cursor)

/-- Read the rest of a tag, of which a part may be there already. -/
def readTagRest
    (head : List Char)
    (cursor : Cursor) : Except Fault (List Char × Cursor) := do
  let (text, next) <- readTagChars [] cursor (cursor.rest.length + 1)
  if head.isEmpty && text.isEmpty then
    throw next.fault
  return (head.drop 1 ++ text, next)

/-- Read a tag handle: an exclamation mark, a word, and perhaps another mark. -/
def readHandle (cursor : Cursor) : List Char × Cursor :=
  let (word, next) := cursor.skip.takeWhile isWordChar
  if next.isAt 0 '!' then
    ('!' :: word ++ ['!'], next.skip)
  else
    ('!' :: word, next)

/-- Read a tag: its handle and the rest of it. -/
def readTag (cursor : Cursor) : Except Fault (Token × Cursor) := do
  let (token, next) <-
    if cursor.isAt 1 '<' then do
      let (suffix, next) <- readTagRest [] (cursor.skipMany 2)
      if !next.isAt 0 '>' then
        throw next.fault
      pure (Token.tag [] suffix, next.skip)
    else do
      let (handle, next) := readHandle cursor
      if 1 < handle.length && handle.getLast? == some '!' then
        let (suffix, next) <- readTagRest [] next
        pure (Token.tag handle suffix, next)
      else
        let (suffix, next) <- readTagRest handle next
        if suffix.isEmpty then
          pure (Token.tag [] ['!'], next)
        else
          pure (Token.tag ['!'] suffix, next)
  if !next.isGapAt 0 then
    throw next.fault
  return (token, next)

/-- Read a number of at most nine digits. -/
def readNumber (cursor : Cursor) : Except Fault (Nat × Cursor) :=
  let (digits, next) := cursor.takeWhile Char.isDigit
  if digits.isEmpty || 9 < digits.length then
    .error next.fault
  else
    .ok (digits.foldl (fun value digit => 10 * value + (digit.toNat - 48)) 0, next)

/-- Read a directive, from its percent sign to the end of its line. -/
def readDirective (cursor : Cursor) : Except Fault (Token × Cursor) := do
  let (name, next) := cursor.skip.takeWhile isWordChar
  if name.isEmpty || !next.isGapAt 0 then
    throw next.fault
  let (token, next) <-
    if name = ['Y', 'A', 'M', 'L'] then do
      let (major, next) <- readNumber next.skipSpaces
      if !next.isAt 0 '.' then
        throw next.fault
      let (minor, next) <- readNumber next.skip
      pure (Token.version major minor, next)
    else if name = ['T', 'A', 'G'] then do
      let next := next.skipSpaces
      if !next.isAt 0 '!' then
        throw next.fault
      let (handle, next) := readHandle next
      if 1 < handle.length && handle.getLast? != some '!' then
        throw next.fault
      if !next.holdsAt 0 isSpaceOrTab then
        throw next.fault
      let (meaning, next) <- readTagRest [] next.skipSpaces
      if !next.isGapAt 0 then
        throw next.fault
      pure (Token.tagHandle handle meaning, next)
    else
      throw next.fault
  let spaces := next.skipSpaces
  let finish := if spaces.isAt 0 '#' then spaces.skipLine else spaces
  if !finish.isLineEnd then
    throw finish.fault
  return (token, finish.skipBreak.2)

end Property
end Yaml
end CtorScan
