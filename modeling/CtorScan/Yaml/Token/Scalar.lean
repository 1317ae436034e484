import CtorScan.Yaml.Token

/-!
# Scalars

The three ways to write a scalar: plain, between quotes, and as an indented
block.  Lines are folded: a single line break inside a plain or quoted scalar is
a space, and further ones are line feeds.

Every loop carries a bound on the number of its steps.  Each step consumes a
character, so the length of what is left of the text is bound enough.
-/

namespace CtorScan
namespace Yaml
namespace Scalar

/-- The blanks and line breaks between two words of a scalar. -/
structure Gap where
  /-- The spaces and tabs, if there is no line break. -/
  spaces : List Char
  /-- The first line break. -/
  first : List Char
  /-- The further line breaks. -/
  further : List Char
  /-- Whether a line was ended. -/
  broken : Bool

/-- No gap. -/
def Gap.none : Gap := ⟨[], [], [], false⟩

/-- What a gap contributes to the scalar. -/
def Gap.fold (gap : Gap) : List Char :=
  if gap.broken then
    if gap.first.head? == some '\n' then
      if gap.further.isEmpty then [' '] else gap.further
    else
      gap.first ++ gap.further
  else
    gap.spaces

/-- Read spaces, tabs and line breaks.  The test refuses a tab at a place where
it would pass for indentation. -/
def readGap
    (refused : Cursor -> Bool)
    (gap : Gap)
    (cursor : Cursor) : Nat -> Except Fault (Gap × Cursor)
  | 0 => .ok (gap, cursor)
  | bound + 1 =>
      match cursor.peek? with
      | Option.none => .ok (gap, cursor)
      | some c =>
          if isSpaceOrTab c then
            if gap.broken && c == '\t' && refused cursor then
              .error cursor.fault
            else
              readGap refused
                (if gap.broken then gap else { gap with spaces := gap.spaces ++ [c] })
                cursor.skip bound
          else if isBreak c then
            let (text, next) := cursor.skipBreak
            readGap refused
              (if gap.broken then
                { gap with further := gap.further ++ text }
              else
                { gap with spaces := [], first := text, broken := true })
              next bound
          else
            .ok (gap, cursor)

/-- A character that ends a plain scalar inside brackets. -/
def isFlowSign (c : Char) : Bool :=
  c == ',' || c == '?' || c == '[' || c == ']' || c == '\x7b' || c == '\x7d'

/-- Read the characters of one word of a plain scalar. -/
def readWord
    (inFlow : Bool)
    (word : List Char)
    (cursor : Cursor) : Nat -> List Char × Cursor
  | 0 => (word.reverse, cursor)
  | bound + 1 =>
      match cursor.peek? with
      | Option.none => (word.reverse, cursor)
      | some c =>
          if isSpaceOrTab c || isBreak c || (c == ':' && cursor.isGapAt 1) ||
              (inFlow && isFlowSign c) then
            (word.reverse, cursor)
          else
            readWord inFlow (c :: word) cursor.skip bound

/-- A plain scalar that was read. -/
structure Plain where
  /-- Its text. -/
  text : List Char
  /-- Where its last word ends. -/
  finish : Mark
  /-- Whether a line was ended after its last word. -/
  broken : Bool

/-- Read a plain scalar that has to stay indented to a column. -/
def readPlain
    (inFlow : Bool)
    (indent : Int)
    (scalar : Plain)
    (gap : Gap)
    (cursor : Cursor) : Nat -> Except Fault (Plain × Cursor)
  | 0 => .ok (scalar, cursor)
  | bound + 1 =>
      if cursor.isDocumentBoundary || cursor.isAt 0 '#' then
        .ok (scalar, cursor)
      else
        let (word, afterWord) := readWord inFlow [] cursor (cursor.rest.length + 1)
        let extended : Plain :=
          if word.isEmpty then
            scalar
          else
            ⟨scalar.text ++ gap.fold ++ word, afterWord.mark, false⟩
        let pending := if word.isEmpty then gap else Gap.none
        if afterWord.holdsAt 0 fun c => isSpaceOrTab c || isBreak c then
          match readGap (fun place => place.mark.column < indent) pending afterWord
              (afterWord.rest.length + 1) with
          | .error fault => .error fault
          | .ok (gap, next) =>
              let scalar := { extended with broken := gap.broken }
              if !inFlow && next.mark.column < indent then
                .ok (scalar, next)
              else
                readPlain inFlow indent scalar gap next bound
        else
          .ok (extended, afterWord)

/-- The character that a one-letter escape stands for. -/
def escapedChar? (c : Char) : Option Char :=
  match c with
  | '0' => some (Char.ofNat 0)
  | 'a' => some (Char.ofNat 7)
  | 'b' => some (Char.ofNat 8)
  | 't' => some '\t'
  | '\t' => some '\t'
  | 'n' => some '\n'
  | 'v' => some (Char.ofNat 11)
  | 'f' => some (Char.ofNat 12)
  | 'r' => some '\r'
  | 'e' => some (Char.ofNat 27)
  | ' ' => some ' '
  | '"' => some '"'
  | '\'' => some '\''
  | '\\' => some '\\'
  | 'N' => some (Char.ofNat 0x85)
  | '_' => some (Char.ofNat 0xa0)
  | 'L' => some (Char.ofNat 0x2028)
  | 'P' => some (Char.ofNat 0x2029)
  | _ => none

/-- How many hexadecimal digits follow the letter of a numeric escape. -/
def escapeLength? (c : Char) : Option Nat :=
  match c with
  | 'x' => some 2
  | 'u' => some 4
  | 'U' => some 8
  | _ => none

/-- The value of a hexadecimal digit. -/
def hexValue? (c : Char) : Option Nat :=
  if c.isDigit then some (c.toNat - 48)
  else if 'a' ≤ c ∧ c ≤ 'f' then some (c.toNat - 87)
  else if 'A' ≤ c ∧ c ≤ 'F' then some (c.toNat - 55)
  else none

/-- The value of hexadecimal digits, the first being the highest. -/
def hexNumber? (digits : List Char) : Option Nat :=
  digits.foldlM (fun value digit => (hexValue? digit).map (16 * value + ·)) 0

/-- The character with a code, unless no character has it. -/
def charOfCode? (code : Nat) : Option Char :=
  if (0xd800 ≤ code ∧ code ≤ 0xdfff) ∨ 0x10ffff < code then none else some (Char.ofNat code)

/-- Read the escape after a backslash. -/
def readEscape (cursor : Cursor) : Except Fault (Char × Cursor) :=
  match cursor.peekAt? 1 with
  | Option.none => .error cursor.fault
  | some letter =>
      match escapedChar? letter with
      | some c => .ok (c, cursor.skipMany 2)
      | Option.none =>
          match escapeLength? letter with
          | Option.none => .error cursor.fault
          | some length =>
              let digits := (cursor.rest.drop 2).take length
              if digits.length = length then
                match (hexNumber? digits).bind charOfCode? with
                | some c => .ok (c, cursor.skipMany (2 + length))
                | Option.none => .error cursor.fault
              else
                .error cursor.fault

/-- Read the characters of one word of a quoted scalar.  The flag tells whether
the word ended in an escaped line break. -/
def readQuotedWord
    (single : Bool)
    (word : List Char)
    (cursor : Cursor) : Nat -> Except Fault (List Char × Bool × Cursor)
  | 0 => .ok (word.reverse, false, cursor)
  | bound + 1 =>
      match cursor.peek? with
      | Option.none => .ok (word.reverse, false, cursor)
      | some c =>
          if isSpaceOrTab c || isBreak c then
            .ok (word.reverse, false, cursor)
          else if single then
            if c == '\'' then
              if cursor.isAt 1 '\'' then
                readQuotedWord single ('\'' :: word) (cursor.skipMany 2) bound
              else
                .ok (word.reverse, false, cursor)
            else
              readQuotedWord single (c :: word) cursor.skip bound
          else if c == '"' then
            .ok (word.reverse, false, cursor)
          else if c == '\\' then
            if cursor.holdsAt 1 isBreak then
              .ok (word.reverse, true, cursor.skip.skipBreak.2)
            else
              match readEscape cursor with
              | .error fault => .error fault
              | .ok (escaped, next) => readQuotedWord single (escaped :: word) next bound
          else
            readQuotedWord single (c :: word) cursor.skip bound

/-- Read a quoted scalar after its opening quote. -/
def readQuoted
    (single : Bool)
    (text : List Char)
    (cursor : Cursor) : Nat -> Except Fault (List Char × Cursor)
  | 0 => .error cursor.fault
  | bound + 1 =>
      if cursor.isDocumentBoundary || cursor.endsAt 0 then
        .error cursor.fault
      else
        match readQuotedWord single [] cursor (cursor.rest.length + 1) with
        | .error fault => .error fault
        | .ok (word, escapedBreak, afterWord) =>
            if afterWord.isAt 0 (if single then '\'' else '"') then
              .ok (text ++ word, afterWord.skip)
            else
              match readGap (fun _ => false) { Gap.none with broken := escapedBreak } afterWord
                  (afterWord.rest.length + 1) with
              | .error fault => .error fault
              | .ok (gap, next) => readQuoted single (text ++ word ++ gap.fold) next bound

/-- What is kept of the line breaks at the end of a block scalar. -/
inductive Chomping where
  /-- Nothing. -/
  | strip
  /-- The first one. -/
  | clip
  /-- All of them. -/
  | keep
deriving DecidableEq

/-- Read the signs after the indicator of a block scalar: what to do with the
final line breaks, and the indentation if it is given. -/
def readHeader (cursor : Cursor) : Except Fault (Chomping × Nat × Cursor) :=
  let chomping (c : Char) : Option Chomping :=
    if c == '+' then some .keep else if c == '-' then some .strip else Option.none
  let indentation (cursor : Cursor) : Except Fault (Nat × Cursor) :=
    match cursor.peek? with
    | some c =>
        if c == '0' then .error cursor.fault
        else if c.isDigit then .ok (c.toNat - 48, cursor.skip)
        else .ok (0, cursor)
    | Option.none => .ok (0, cursor)
  match cursor.peek?.bind chomping with
  | some kept =>
      (indentation cursor.skip).map fun (indent, next) => (kept, indent, next)
  | Option.none =>
      (indentation cursor).map fun (indent, next) =>
        if indent = 0 then
          (.clip, 0, next)
        else
          match next.peek?.bind chomping with
          | some kept => (kept, indent, next.skip)
          | Option.none => (.clip, indent, next)

/-- Read indentation and empty lines before a line of a block scalar; `indent`
is zero as long as the indentation is unknown. -/
def readBreaks
    (indent widest : Nat)
    (breaks : List Char)
    (cursor : Cursor) : Nat -> Except Fault (Nat × List Char × Cursor)
  | 0 => .ok (widest, breaks, cursor)
  | bound + 1 =>
      let isIndent (column : Nat) : Bool := indent == 0 || column < indent
      match cursor.peek? with
      | some ' ' =>
          if isIndent cursor.mark.column then
            readBreaks indent widest breaks cursor.skip bound
          else
            .ok (max widest cursor.mark.column, breaks, cursor)
      | some c =>
          let widest := max widest cursor.mark.column
          if c == '\t' && isIndent cursor.mark.column then
            .error cursor.fault
          else if isBreak c then
            let (text, next) := cursor.skipBreak
            readBreaks indent widest (breaks ++ text) next bound
          else
            .ok (widest, breaks, cursor)
      | Option.none => .ok (max widest cursor.mark.column, breaks, cursor)

/-- A block scalar of which some lines were read. -/
structure Lines where
  /-- The text without the last line break. -/
  text : List Char
  /-- The line break after the last line. -/
  last : List Char
  /-- The empty lines after it. -/
  empty : List Char
  /-- Whether the last line starts with a blank. -/
  blank : Bool

/-- Read the lines of a block scalar. -/
def readLines
    (literal : Bool)
    (indent : Nat)
    (lines : Lines)
    (cursor : Cursor) : Nat -> Except Fault (Lines × Cursor)
  | 0 => .ok (lines, cursor)
  | bound + 1 =>
      if cursor.mark.column ≠ indent || cursor.endsAt 0 then
        .ok (lines, cursor)
      else
        let blank := cursor.holdsAt 0 isSpaceOrTab
        let joint :=
          if !literal && lines.last.head? == some '\n' && !lines.blank && !blank then
            if lines.empty.isEmpty then [' '] else []
          else
            lines.last
        let (line, afterLine) := cursor.takeWhile fun c => !isBreak c
        let (last, next) := afterLine.skipBreak
        match readBreaks indent 0 [] next (next.rest.length + 1) with
        | .error fault => .error fault
        | .ok (_, empty, next) =>
            readLines literal indent
              ⟨lines.text ++ joint ++ lines.empty ++ line, last, empty, blank⟩ next bound

/-- Read a block scalar after its indicator, inside a block that is indented to
a column. -/
def readBlock
    (literal : Bool)
    (outer : Int)
    (cursor : Cursor) : Except Fault (List Char × Cursor) := do
  let (chomping, increment, header) <- readHeader cursor
  let spaces := header.skipSpaces
  let comment := if spaces.isAt 0 '#' then spaces.skipLine else spaces
  if !comment.isLineEnd then
    throw comment.fault
  let start := comment.skipBreak.2
  let given : Nat := if increment = 0 then 0 else (max outer 0).toNat + increment
  let (widest, empty, first) <- readBreaks given 0 [] start (start.rest.length + 1)
  let indent : Nat := if given = 0 then max (max widest (outer + 1).toNat) 1 else given
  let (lines, next) <-
    readLines literal indent ⟨[], [], empty, false⟩ first (first.rest.length + 1)
  let kept :=
    match chomping with
    | .strip => []
    | .clip => lines.last
    | .keep => lines.last ++ lines.empty
  return (lines.text ++ kept, next)

end Scalar
end Yaml
end CtorScan
