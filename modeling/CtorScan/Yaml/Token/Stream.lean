import CtorScan.Yaml.Token.Property

/-!
# The token stream

The text is turned into tokens as far as they are asked for.  A scalar may turn
out to be a key only when the colon after it is found, so tokens wait in a queue
until no such key can start with them, and at least two further tokens are known.
-/

namespace CtorScan
namespace Yaml

/-- A place where an unmarked key may have started. -/
structure KeyStart where
  /-- The number of the token that would be the key. -/
  number : Nat
  /-- Where it starts. -/
  mark : Mark
  /-- Whether nothing but a key may stand there. -/
  required : Bool
deriving DecidableEq

/-- The state between two tokens. -/
structure Stream where
  /-- What is left of the text. -/
  cursor : Cursor
  /-- Whether unreadable text follows what is left. -/
  cut : Bool
  /-- Whether the start of the text was announced. -/
  started : Bool
  /-- The tokens that wait. -/
  queue : List Lexeme
  /-- How many tokens were taken from the queue. -/
  taken : Nat
  /-- The column of the innermost block, or -1. -/
  indent : Int
  /-- The columns of the blocks around it. -/
  outer : List Int
  /-- How many brackets are open. -/
  depth : Nat
  /-- Whether an unmarked key may start here. -/
  keyAllowed : Bool
  /-- The possible start of a key for each open bracket, innermost first. -/
  keys : List (Option KeyStart)

namespace Stream

/-- The size of the pieces in which a text is taken in; a piece that holds a
forbidden character is not readable at all. -/
def pieceSize : Nat := 512

/-- The characters up to the piece that holds the first forbidden one, and
whether there is such a piece.  The pieces are counted in bytes. -/
def readable (text : List Char) : List Char × Bool :=
  match text.findIdx? fun c => !isAllowed c with
  | none => (text, false)
  | some index =>
      let offset := (Text.bytesOfChars (text.take index)).length
      let limit := offset / pieceSize * pieceSize
      let fits := (text.take index).foldl
        (fun (state : Nat × Nat) c =>
          let size := state.1 + (Text.bytesOfChar c).length
          (size, if size ≤ limit then state.2 + 1 else state.2)) (0, 0)
      (text.take fits.2, true)

/-- The stream of a text; a byte order mark at its start does not count. -/
def ofText (text : String) : Stream :=
  let chars := text.toList
  let marked := if chars.head? == some (Char.ofNat 0xfeff) then chars.drop 1 else chars
  let (chars, cut) := readable marked
  { cursor := Cursor.ofChars chars
    cut := cut
    started := false
    queue := []
    taken := 0
    indent := -1
    outer := []
    depth := 0
    keyAllowed := false
    keys := [] }

/-- Append a token. -/
def push
    (stream : Stream)
    (token : Token)
    (mark finish : Mark) : Stream :=
  { stream with queue := stream.queue ++ [⟨token, mark, finish⟩] }

/-- Put a token before the one with a number. -/
def insertAt
    (stream : Stream)
    (number : Nat)
    (token : Token)
    (mark : Mark) : Stream :=
  let place := number - stream.taken
  { stream with
    queue := stream.queue.take place ++ [⟨token, mark, mark⟩] ++ stream.queue.drop place }

/-- Open a block that starts at a column, if that is deeper than the block
around it. -/
def openBlock
    (stream : Stream)
    (column : Nat)
    (number : Option Nat)
    (token : Token)
    (mark : Mark) : Stream :=
  if stream.depth = 0 && stream.indent < column then
    let deeper :=
      { stream with outer := stream.indent :: stream.outer, indent := column }
    match number with
    | some number => deeper.insertAt number token mark
    | none => deeper.push token mark mark
  else
    stream

/-- Close the blocks that are deeper than a column. -/
def closeBlocks
    (stream : Stream)
    (column : Int) : Nat -> Stream
  | 0 => stream
  | bound + 1 =>
      if stream.depth = 0 && column < stream.indent then
        match stream.outer with
        | [] => stream
        | indent :: outer =>
            closeBlocks
              { stream.push .blockEnd stream.cursor.mark stream.cursor.mark with
                indent := indent
                outer := outer }
              column bound
      else
        stream

/-- Close all blocks that are deeper than a column. -/
def closeBlocksTo
    (stream : Stream)
    (column : Int) : Stream :=
  stream.closeBlocks column (stream.outer.length + 1)

/-- The possible start of a key among the innermost brackets. -/
def keyStart? (stream : Stream) : Option KeyStart :=
  stream.keys.head?.join

/-- Set the possible start of a key among the innermost brackets. -/
def setKeyStart
    (stream : Stream)
    (start : Option KeyStart) : Stream :=
  { stream with keys := start :: stream.keys.drop 1 }

/-- Give up the possible start of a key. -/
def dropKeyStart (stream : Stream) : Except Fault Stream :=
  match stream.keyStart? with
  | some start =>
      if start.required then .error stream.cursor.fault else .ok (stream.setKeyStart none)
  | none => .ok (stream.setKeyStart none)

/-- Note that a key may start here. -/
def noteKeyStart (stream : Stream) : Except Fault Stream :=
  if stream.keyAllowed then do
    let dropped <- stream.dropKeyStart
    return dropped.setKeyStart (some
      { number := stream.taken + stream.queue.length
        mark := stream.cursor.mark
        required := stream.depth = 0 && stream.indent = stream.cursor.mark.column })
  else
    .ok stream

/-- A key is on one line and at most 1024 characters long. -/
def isStale
    (stream : Stream)
    (start : KeyStart) : Bool :=
  start.mark.line < stream.cursor.mark.line || start.mark.index + 1024 < stream.cursor.mark.index

/-- Skip the comments and blank lines that follow a comment. -/
def skipComment
    (cursor : Cursor) : Nat -> Cursor
  | 0 => cursor
  | bound + 1 =>
      let lineEnd := cursor.skipLine
      let blank := lineEnd.rest.takeWhile fun c => isSpaceOrTab c || isBreak c
      if blank.length < 512 && lineEnd.isAt blank.length '#' then
        let next := (List.range blank.length).foldl
          (fun (place : Cursor) _ =>
            if place.holdsAt 0 isBreak then place.skipBreak.2
            else if place.isAt 0 '#' then place
            else place.skip)
          lineEnd
        skipComment next bound
      else
        lineEnd

/-- Skip blanks, comments and line breaks before a token. -/
def skipToToken
    (stream : Stream) : Nat -> Stream
  | 0 => stream
  | bound + 1 =>
      let cursor := stream.cursor
      let cursor :=
        if cursor.mark.column == 0 && cursor.isAt 0 (Char.ofNat 0xfeff) then cursor.skip else cursor
      let tabs := 0 < stream.depth || !stream.keyAllowed
      let cursor := (cursor.takeWhile fun c => c == ' ' || (tabs && c == '\t')).2
      let cursor :=
        if cursor.isAt 0 '#' then skipComment cursor (cursor.rest.length + 1) else cursor
      if cursor.holdsAt 0 isBreak then
        skipToToken
          { stream with
            cursor := cursor.skipBreak.2
            keyAllowed := stream.keyAllowed || stream.depth = 0 }
          bound
      else
        { stream with cursor := cursor }

/-- Skip a comment that follows a token on its line. -/
def skipLineComment (stream : Stream) : Stream :=
  let next := stream.cursor.skipSpaces
  if 0 < stream.cursor.mark.column && next.isAt 0 '#' then
    { stream with cursor := next.skipLine }
  else
    stream

/-- Read a token of a single character. -/
def readSign
    (stream : Stream)
    (token : Token) : Stream :=
  let next := stream.cursor.skip
  { stream.push token stream.cursor.mark next.mark with cursor := next }

/-- Read a line that starts or ends a document. -/
def readDocumentLine
    (stream : Stream)
    (token : Token) : Except Fault Stream := do
  let dropped <- (stream.closeBlocksTo (-1)).dropKeyStart
  let next := stream.cursor.skipMany 3
  return { dropped.push token stream.cursor.mark next.mark with
    cursor := next
    keyAllowed := false }

/-- Read an opening bracket. -/
def readOpening
    (stream : Stream)
    (token : Token) : Except Fault Stream := do
  let noted <- stream.noteKeyStart
  return { noted with
    keys := none :: noted.keys
    depth := noted.depth + 1
    keyAllowed := true }.readSign token

/-- Read a closing bracket. -/
def readClosing
    (stream : Stream)
    (token : Token) : Except Fault Stream := do
  let dropped <- stream.dropKeyStart
  let closed :=
    if dropped.depth = 0 then dropped
    else { dropped with depth := dropped.depth - 1, keys := dropped.keys.drop 1 }
  return { closed with keyAllowed := false }.readSign token

/-- Read a comma between entries. -/
def readSeparator (stream : Stream) : Except Fault Stream := do
  let dropped <- stream.dropKeyStart
  return { dropped with keyAllowed := true }.readSign .separator

/-- Read a dash before an entry. -/
def readEntry (stream : Stream) : Except Fault Stream := do
  if stream.depth = 0 && !stream.keyAllowed then
    throw stream.cursor.fault
  let opened :=
    stream.openBlock stream.cursor.mark.column none .blockSequence stream.cursor.mark
  let dropped <- opened.dropKeyStart
  return { dropped with keyAllowed := true }.readSign .entry

/-- Read a question mark before a key. -/
def readKey (stream : Stream) : Except Fault Stream := do
  if stream.depth = 0 && !stream.keyAllowed then
    throw stream.cursor.fault
  let opened :=
    stream.openBlock stream.cursor.mark.column none .blockMapping stream.cursor.mark
  let dropped <- opened.dropKeyStart
  return { dropped with keyAllowed := dropped.depth = 0 }.readSign .key

/-- Read a colon before a value. -/
def readValue (stream : Stream) : Except Fault Stream := do
  match stream.keyStart? with
  | some start =>
      if stream.isStale start then
        if start.required then
          throw stream.cursor.fault
        complex (stream.setKeyStart none)
      else
        let marked := stream.insertAt start.number .key start.mark
        let opened :=
          marked.openBlock start.mark.column (some start.number) .blockMapping start.mark
        return { opened.setKeyStart none with keyAllowed := false }.readSign .value
  | none => complex stream
where
  /-- The colon follows a key that was marked, or none. -/
  complex (stream : Stream) : Except Fault Stream := do
    if stream.depth = 0 && !stream.keyAllowed then
      throw stream.cursor.fault
    let opened :=
      stream.openBlock stream.cursor.mark.column none .blockMapping stream.cursor.mark
    return { opened with keyAllowed := opened.depth = 0 }.readSign .value

/-- Append a token that was read up to a place and that may be a key. -/
def pushWord
    (stream : Stream)
    (token : Token)
    (next : Cursor)
    (keyAllowed : Bool) : Except Fault Stream := do
  let noted <- stream.noteKeyStart
  return { noted.push token stream.cursor.mark next.mark with
    cursor := next
    keyAllowed := keyAllowed }

/-- Read an anchor, an alias or a tag. -/
def readProperty
    (stream : Stream)
    (sign : Char) : Except Fault Stream := do
  if sign == '!' then
    let (token, next) <- Property.readTag stream.cursor
    stream.pushWord token next false
  else
    let (name, next) <- Property.readName stream.cursor.skip
    stream.pushWord (if sign == '*' then .reference name else .anchor name) next false

/-- Read a block scalar. -/
def readBlockScalar
    (stream : Stream)
    (literal : Bool) : Except Fault Stream := do
  let dropped <- stream.dropKeyStart
  let (text, next) <- Scalar.readBlock literal stream.indent stream.cursor.skip
  return { dropped.push (.scalar text .block) stream.cursor.mark next.mark with
    cursor := next
    keyAllowed := true }

/-- Read a quoted scalar. -/
def readQuotedScalar
    (stream : Stream)
    (single : Bool) : Except Fault Stream := do
  let start := stream.cursor.skip
  let (text, next) <- Scalar.readQuoted single [] start (start.rest.length + 1)
  stream.pushWord (.scalar text .quoted) next false

/-- Read a plain scalar. -/
def readPlainScalar (stream : Stream) : Except Fault Stream := do
  let (scalar, next) <-
    Scalar.readPlain (0 < stream.depth) (stream.indent + 1) ⟨[], stream.cursor.mark, false⟩
      Scalar.Gap.none stream.cursor (stream.cursor.rest.length + 1)
  stream.pushWord (.scalar scalar.text .plain) next scalar.broken

/-- A character that cannot start a plain scalar by itself. -/
def isIndicator (c : Char) : Bool :=
  ['-', '?', ':', ',', '[', ']', '\x7b', '\x7d', '#', '&', '*', '!', '|', '>', '\'', '"', '%',
    '@'].contains c || c.toNat == 96

/-- A plain scalar starts with the character here. -/
def startsPlain
    (stream : Stream)
    (c : Char) : Bool :=
  let cursor := stream.cursor
  !(isSpaceOrTab c || isBreak c || isIndicator c) ||
    (c == '-' && !cursor.holdsAt 1 isSpaceOrTab) ||
    (stream.depth = 0 && (c == '?' || c == ':') && !cursor.isGapAt 1)

/-- Read the token that starts with a character, other than those that only
stand at the start of a line. -/
def readContent
    (stream : Stream)
    (c : Char) : Except Fault Stream :=
  let inFlow := 0 < stream.depth
  let gapNext := stream.cursor.isGapAt 1
  if c == '[' then stream.readOpening .openSequence
  else if c == '\x7b' then stream.readOpening .openMapping
  else if c == ']' then stream.readClosing .closeSequence
  else if c == '\x7d' then stream.readClosing .closeMapping
  else if c == ',' then stream.readSeparator
  else if c == '-' && gapNext then stream.readEntry
  else if c == '?' && (inFlow || gapNext) then stream.readKey
  else if c == ':' && (inFlow || gapNext) then stream.readValue
  else if c == '*' || c == '&' || c == '!' then stream.readProperty c
  else if c == '|' && !inFlow then stream.readBlockScalar true
  else if c == '>' && !inFlow then stream.readBlockScalar false
  else if c == '\'' then stream.readQuotedScalar true
  else if c == '"' then stream.readQuotedScalar false
  else if stream.startsPlain c then stream.readPlainScalar
  else .error stream.cursor.fault

/-- Announce the end of the text. -/
def readEnd (stream : Stream) : Except Fault Stream := do
  let mark := stream.cursor.mark
  let mark : Mark := if mark.column = 0 then mark else ⟨mark.index, mark.line + 1, 0⟩
  let placed := { stream with cursor := { stream.cursor with mark := mark } }
  let dropped <- (placed.closeBlocksTo (-1)).dropKeyStart
  return { dropped.push .streamEnd mark mark with keyAllowed := false }

/-- Read one more token. -/
def readToken (stream : Stream) : Except Fault Stream := do
  if !stream.started then
    let mark := stream.cursor.mark
    return { stream.push .streamStart mark mark with
      started := true
      keyAllowed := true
      keys := [none] }
  let reached := stream.skipToToken (stream.cursor.rest.length + 1)
  let closed := reached.closeBlocksTo reached.cursor.mark.column
  match closed.cursor.peek? with
  | none => if closed.cut then throw closed.cursor.fault else closed.readEnd
  | some c =>
      if closed.cursor.mark.column == 0 && c == '%' then
        let dropped <- (closed.closeBlocksTo (-1)).dropKeyStart
        let (token, next) <- Property.readDirective closed.cursor
        return { dropped.push token closed.cursor.mark next.mark with
          cursor := next
          keyAllowed := false }
      else if closed.cursor.isDocumentLine '-' then
        closed.readDocumentLine .documentStart
      else if closed.cursor.isDocumentLine '.' then
        closed.readDocumentLine .documentEnd
      else
        let next <- closed.readContent c
        if next.cut && next.cursor.endsAt 0 then
          throw next.cursor.fault
        if next.queue.getLast?.any fun lexeme => lexeme.token = .entry then
          return next
        else
          return next.skipLineComment

/-- The first token that waits may still turn out to be a key. -/
def mayBeKey (stream : Stream) : Except Fault Bool :=
  match stream.keys.find? fun start => start.any fun key => key.number = stream.taken with
  | some (some start) =>
      if stream.isStale start then
        if start.required then .error stream.cursor.fault else .ok false
      else
        .ok true
  | _ => .ok false

/-- Read tokens until the first one that waits is certain. -/
def fill
    (stream : Stream) : Nat -> Except Fault Stream
  | 0 => .error stream.cursor.fault
  | bound + 1 => do
      let more <- if 2 < stream.queue.length then stream.mayBeKey else pure true
      if more then
        let next <- stream.readToken
        next.fill bound
      else
        return stream

/-- The next token, and the stream in which it still waits. -/
def peek (stream : Stream) : Except Fault (Lexeme × Stream) := do
  let filled <- stream.fill (stream.cursor.rest.length + 8)
  match filled.queue with
  | lexeme :: _ => return (lexeme, filled)
  | [] => throw filled.cursor.fault

/-- The stream without its first token. -/
def advance (stream : Stream) : Stream :=
  { stream with queue := stream.queue.drop 1, taken := stream.taken + 1 }

end Stream
end Yaml
end CtorScan
