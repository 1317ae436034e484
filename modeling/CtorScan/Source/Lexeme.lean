import CtorScan.Source.Place
import CtorScan.Source.Token

/-!
# Source texts as tokens and comments

A source text is cut into tokens and comments with their places.  A line that
ends after certain tokens gets a semicolon.  Comments of a certain form redirect
the positions of what follows them.
-/

namespace CtorScan
namespace Source

/-- A token at its place. -/
structure Lexeme (π : Type) where
  /-- The token. -/
  token : Token
  /-- The place of its first byte. -/
  place : π

/-- A comment at its place. -/
structure Comment where
  /-- The whole comment with its delimiters and without carriage returns. -/
  text : String
  /-- The place of its first byte. -/
  place : Nat
deriving DecidableEq, Inhabited

/-! ## Redirections -/

/-- The text before the last colon and the text after it, if there is one. -/
def splitAtLastColon (text : List Char) : Option (List Char × List Char) :=
  if text.contains ':' then
    let after := (text.reverse.takeWhile (· != ':')).reverse
    some (text.take (text.length - after.length - 1), after)
  else
    none

/-- The number that a text of digits stands for, if it is not too large. -/
def lineNumber? (text : List Char) : Option Nat :=
  if text.isEmpty then
    none
  else
    (Number.ofDigits? 10 text).filter (· < Nat.pow 2 64)

/-- The number can be that of a line or column. -/
def isCounted (number : Nat) : Bool :=
  number != 0 && number ≤ Nat.pow 2 30

/-- What a redirection says. -/
structure Direction where
  /-- The file it names, possibly empty. -/
  file : List Char
  /-- The line. -/
  line : Nat
  /-- The column, if there is one. -/
  column : Option Nat

/-- Read a redirection from the text after its first word.  A text without colon
is none, which the outer option tells apart from a text that is wrong. -/
def Direction.ofText? (text : List Char) : Option (Option Direction) :=
  match splitAtLastColon text with
  | none => some none
  | some (before, after) =>
      match lineNumber? after with
      | none => none
      | some last =>
          let longer :=
            (splitAtLastColon before).bind fun (file, line) =>
              (lineNumber? line).map fun line => (file, line)
          match longer with
          | some (file, line) =>
              if isCounted last && isCounted line then
                some (some ⟨file, line, some last⟩)
              else
                none
          | none => if isCounted last then some (some ⟨before, last, none⟩) else none

/-- The text of a redirection in a comment, if the comment is one. -/
def directionText? (comment : List Char) : Option (List Char) :=
  match comment with
  | '/' :: '/' :: rest =>
      let rest := if rest.getLast? == some '\r' then rest.dropLast else rest
      Text.afterStart? "line ".toList rest
  | '/' :: '*' :: rest =>
      (Text.afterStart? "line ".toList rest).map fun text => text.take (text.length - 2)
  | _ => none

/-- Add the redirection that follows a comment to the chart. -/
def Chart.redirect
    (chart : Chart)
    (commentOffset next : Nat)
    (direction : Direction) : Chart :=
  let file :=
    if direction.file.isEmpty then
      if direction.column.isSome then (chart.position (commentOffset + 7)).file else ""
    else
      let path := Text.plainPath direction.file
      String.ofList
        (if Text.isRooted path then path
        else Text.pathFrom (Text.directoryOf chart.name.toList) path)
  let isLater := chart.redirections.getLast?.all fun last => last.offset < next
  if isLater && next < chart.size then
    { chart with
      redirections :=
        chart.redirections ++ [⟨next, file, direction.line, direction.column.getD 0⟩] }
  else
    chart

/-! ## Comments -/

/-- A comment of several lines without carriage returns, except where leaving one
out would end the comment.  The characters kept so far come first. -/
def stripBlock : List Char -> List Char -> List Char
  | kept, [] => kept.reverse
  | kept, c :: rest =>
      if c != '\r' || (2 < kept.length && kept.head? == some '*' && rest.head? == some '/') then
        stripBlock (c :: kept) rest
      else
        stripBlock kept rest

/-- The text of a comment without carriage returns. -/
def commentText (written : List Char) : List Char :=
  match written with
  | '/' :: '*' :: _ => stripBlock [] written
  | _ => written.filter (· != '\r')

/-! ## The whole text -/

/-- What was found in a text so far. -/
structure Scanned where
  /-- The tokens, the last one first. -/
  tokens : List (Lexeme Nat)
  /-- The comments, the last one first. -/
  comments : List Comment
  /-- The layout of the file. -/
  chart : Chart

namespace Scanned

/-- Add a token at an offset. -/
def addToken
    (scanned : Scanned)
    (offset : Nat)
    (token : Token) : Scanned :=
  { scanned with tokens := ⟨token, scanned.chart.base + offset⟩ :: scanned.tokens }

/-- Add the semicolon of a line that ends a statement. -/
def addSemicolon
    (scanned : Scanned)
    (pending : Bool)
    (offset : Nat) : Scanned :=
  if pending then scanned.addToken offset (.symbol ";") else scanned

/-- Add a comment at an offset; the redirection in it must be right.  A comment
that ends with its line redirects only at the start of a line. -/
def addComment?
    (scanned : Scanned)
    (startsLine : Bool)
    (offset next : Nat)
    (written : List Char) : Option Scanned :=
  let entered :=
    { scanned with
      comments :=
        ⟨String.ofList (commentText written), scanned.chart.base + offset⟩ :: scanned.comments }
  let isBlock := (written.drop 1).head? == some '*'
  if isBlock || startsLine then
    match directionText? written with
    | none => some entered
    | some text =>
        match Direction.ofText? text with
        | none => none
        | some none => some entered
        | some (some direction) =>
            let next := if isBlock then next else next + 1
            some { entered with chart := entered.chart.redirect offset next direction }
  else
    some entered

end Scanned

/-- Cut a text that starts at an offset.  Whether a statement could end here and
whether a line starts here is given. -/
def scanFrom : Nat -> Scanned -> Nat -> Bool -> Bool -> List Char -> Option Scanned
  | 0, _, _, _, _, _ => none
  | _ + 1, scanned, offset, pending, _, [] => some (scanned.addSemicolon pending offset)
  | bound + 1, scanned, offset, pending, startsLine, text =>
      match item? text with
      | none => none
      | some (item, taken) =>
          let next := offset + (String.ofList taken).utf8ByteSize
          let rest := text.drop taken.length
          match item with
          | .blank => scanFrom bound scanned next pending false rest
          | .lineEnd => scanFrom bound (scanned.addSemicolon pending offset) next false true rest
          | .token token =>
              scanFrom bound (scanned.addToken offset token) next token.endsStatement false rest
          | .comment =>
              match scanned.addComment? startsLine offset next taken with
              | none => none
              | some scanned =>
                  if taken.contains '\n' then
                    scanFrom bound (scanned.addSemicolon pending offset) next false false rest
                  else
                    scanFrom bound scanned next pending false rest

/-- The mark of a byte order, which may stand at the start of a text only. -/
def byteOrderMark : Char := Char.ofNat 0xfeff

/-- No character of the text is forbidden everywhere. -/
def hasOnlyAllowed (text : List Char) : Bool :=
  text.all fun c => c.toNat != 0 && c != byteOrderMark

/-- Cut the text of a file whose first byte has a place. -/
def scanText?
    (name : String)
    (base : Nat)
    (text : String) : Option Scanned :=
  let chart : Chart := ⟨name, base, text.utf8ByteSize, lineStarts text, []⟩
  let chars := text.toList
  let (offset, rest) :=
    if chars.head? == some byteOrderMark then (3, chars.drop 1) else (0, chars)
  if hasOnlyAllowed rest then
    scanFrom (rest.length + 1) ⟨[], [], chart⟩ offset false (offset == 0) rest
  else
    none

end Source
end CtorScan
