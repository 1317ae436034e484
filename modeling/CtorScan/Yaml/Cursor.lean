/-!
# Reading a YAML text

A cursor is what is left of a text together with the place that was reached.
Columns and offsets count characters.  Line feeds, carriage returns, the two
together, and the three line separators of the character standard end a line.
-/

namespace CtorScan
namespace Yaml

/-- Why a text cannot be read as YAML. -/
inductive Fault where
  /-- The text is not well formed at the line. -/
  | malformed (line : Nat)
  /-- An alias refers to an anchor that is not there. -/
  | unknownAnchor (name : String)
  /-- A value does not fit the tag it is given, or is no value at all. -/
  | unfit (line : Nat)
deriving DecidableEq

/-- A place in a text, counted from zero. -/
structure Mark where
  /-- Characters before it. -/
  index : Nat
  /-- Lines before its line. -/
  line : Nat
  /-- Characters before it on its line. -/
  column : Nat
deriving DecidableEq, Inhabited

/-- The rest of a text and the place where it starts. -/
structure Cursor where
  /-- What is left. -/
  rest : List Char
  /-- The place that was reached. -/
  mark : Mark
deriving Inhabited

/-- A space or a tab. -/
def isSpaceOrTab (c : Char) : Bool :=
  c == ' ' || c == '\t'

/-- A character that ends a line. -/
def isBreak (c : Char) : Bool :=
  c == '\r' || c == '\n' || c.toNat == 0x85 || c.toNat == 0x2028 || c.toNat == 0x2029

/-- A letter, a digit, an underscore or a hyphen. -/
def isWordChar (c : Char) : Bool :=
  c.isAlphanum || c == '_' || c == '-'

/-- A character that a YAML text may hold. -/
def isAllowed (c : Char) : Bool :=
  let code := c.toNat
  code == 9 || code == 10 || code == 13 || (0x20 ≤ code && code ≤ 0x7e) || code == 0x85 ||
    (0xa0 ≤ code && code ≤ 0xfffd) || 0x10000 ≤ code

namespace Cursor

/-- The start of a text. -/
def ofChars (text : List Char) : Cursor :=
  ⟨text, ⟨0, 0, 0⟩⟩

/-- The next character. -/
def peek? (cursor : Cursor) : Option Char :=
  cursor.rest.head?

/-- The character at a distance. -/
def peekAt?
    (cursor : Cursor)
    (distance : Nat) : Option Char :=
  cursor.rest[distance]?

/-- The character at a distance is the given one. -/
def isAt
    (cursor : Cursor)
    (distance : Nat)
    (c : Char) : Bool :=
  cursor.peekAt? distance == some c

/-- The character at a distance satisfies a test. -/
def holdsAt
    (cursor : Cursor)
    (distance : Nat)
    (test : Char -> Bool) : Bool :=
  (cursor.peekAt? distance).any test

/-- The text ends at a distance. -/
def endsAt
    (cursor : Cursor)
    (distance : Nat) : Bool :=
  (cursor.peekAt? distance).isNone

/-- A space, a tab, a line break or the end of the text is at a distance. -/
def isGapAt
    (cursor : Cursor)
    (distance : Nat) : Bool :=
  cursor.endsAt distance || cursor.holdsAt distance fun c => isSpaceOrTab c || isBreak c

/-- A line break or the end of the text comes next. -/
def isLineEnd (cursor : Cursor) : Bool :=
  cursor.endsAt 0 || cursor.holdsAt 0 isBreak

/-- The cursor after one character that ends no line. -/
def skip (cursor : Cursor) : Cursor :=
  match cursor.rest with
  | [] => cursor
  | _ :: rest =>
      ⟨rest, { cursor.mark with
        index := cursor.mark.index + 1
        column := cursor.mark.column + 1 }⟩

/-- The cursor after some characters that end no line. -/
def skipMany
    (cursor : Cursor) : Nat -> Cursor
  | 0 => cursor
  | count + 1 => cursor.skip.skipMany count

/-- The cursor after a line break, with the characters it contributes to a
text: one line feed, or the separator itself. -/
def skipBreak (cursor : Cursor) : List Char × Cursor :=
  match cursor.rest with
  | '\r' :: '\n' :: rest => (['\n'], ⟨rest, ⟨cursor.mark.index + 2, cursor.mark.line + 1, 0⟩⟩)
  | c :: rest =>
      let next : Cursor := ⟨rest, ⟨cursor.mark.index + 1, cursor.mark.line + 1, 0⟩⟩
      if c == '\r' || c == '\n' || c.toNat == 0x85 then
        (['\n'], next)
      else if isBreak c then
        ([c], next)
      else
        ([], cursor)
  | [] => ([], cursor)

/-- The characters that satisfy a test, and the cursor after them; no such
character may end a line. -/
def takeWhile
    (cursor : Cursor)
    (test : Char -> Bool) : List Char × Cursor :=
  let taken := cursor.rest.takeWhile test
  (taken,
    ⟨cursor.rest.dropWhile test, { cursor.mark with
      index := cursor.mark.index + taken.length
      column := cursor.mark.column + taken.length }⟩)

/-- The cursor after the spaces and tabs that come next. -/
def skipSpaces (cursor : Cursor) : Cursor :=
  (cursor.takeWhile isSpaceOrTab).2

/-- The cursor at the end of the line. -/
def skipLine (cursor : Cursor) : Cursor :=
  (cursor.takeWhile fun c => !isBreak c).2

/-- Three equal characters start the line and stand alone. -/
def isDocumentLine
    (cursor : Cursor)
    (c : Char) : Bool :=
  cursor.mark.column == 0 && cursor.isAt 0 c && cursor.isAt 1 c && cursor.isAt 2 c &&
    cursor.isGapAt 3

/-- A line that starts or ends a document comes next. -/
def isDocumentBoundary (cursor : Cursor) : Bool :=
  cursor.isDocumentLine '-' || cursor.isDocumentLine '.'

/-- The refusal of the text at this place. -/
def fault (cursor : Cursor) : Fault :=
  .malformed (cursor.mark.line + 1)

end Cursor
end Yaml
end CtorScan
