import CtorScan.Toml.Scalar

/-!
# Reading TOML

Keys, lists, tables between braces, headers, and the statements of a whole text.
-/

namespace CtorScan
namespace Toml

/-- A space, a tab or a line end. -/
def isSpaceOrEnd (c : Char) : Bool :=
  isSpace c || c == '\r' || c == '\n'

/-- The text after a comment, from the line end on. -/
def skipComment (text : List Char) : List Char :=
  text.dropWhile fun c => c != '\n' && c != '\r'

/-- Skip blanks, line ends and comments. -/
def skipFiller : Nat -> List Char -> List Char
  | 0, text => text
  | bound + 1, text =>
      match text.dropWhile isSpaceOrEnd with
      | '#' :: rest => skipFiller bound (skipComment rest)
      | rest => rest

/-- Read one part of a key. -/
def readPart (text : List Char) : Option (String × List Char) :=
  match skipSpaces text with
  | [] => none
  | c :: rest =>
      if c == '"' then
        readQuoted [] (rest.length + 1) rest
      else if c == '\'' then
        readRaw [] rest
      else
        let part := (c :: rest).takeWhile Key.isBare
        if part.isEmpty then none else some (String.ofList part, (c :: rest).drop part.length)

/-- Read a key up to the character that ends it. -/
def readKey
    (terminator : Char)
    (parts : Key) : Nat -> Reader Key
  | 0, _ => none
  | bound + 1, text =>
      match readPart text with
      | none => none
      | some (part, rest) =>
          match skipSpaces rest with
          | [] => none
          | c :: rest =>
              if c == terminator then some ((part :: parts).reverse, rest)
              else if c == '.' then readKey terminator (part :: parts) bound rest
              else none

/-- Read the values of a list, after its bracket or a comma. -/
def readItems
    (value : Reader Value)
    (items : List Value) : Nat -> Reader (List Value)
  | 0, _ => none
  | bound + 1, text =>
      let start := skipFiller (text.length + 1) text
      match start with
      | [] => none
      | ']' :: rest => some (items.reverse, rest)
      | _ =>
          match value start with
          | none => none
          | some (item, rest) =>
              match skipFiller (rest.length + 1) rest with
              | ',' :: rest => readItems value (item :: items) bound rest
              | ']' :: rest => some ((item :: items).reverse, rest)
              | _ => none

/-- Read the pairs of a table between braces, after its brace or a comma. -/
def readPairs
    (value : Reader Value)
    (pairs : List (Key × Value)) : Nat -> Reader (List (Key × Value))
  | 0, _ => none
  | bound + 1, text =>
      match skipSpaces text with
      | [] => none
      | c :: rest =>
          if c == '\x7d' then
            if pairs.isEmpty then some ([], rest) else none
          else
            match readKey '=' [] (rest.length + 2) (c :: rest) with
            | none => none
            | some (key, rest) =>
                match value (skipSpaces rest) with
                | none => none
                | some (read, rest) =>
                    match skipSpaces rest with
                    | [] => none
                    | c :: rest =>
                        if c == ',' then readPairs value ((key, read) :: pairs) bound rest
                        else if c == '\x7d' then some (((key, read) :: pairs).reverse, rest)
                        else none

/-- Read a value that is nested at most as deep as the number says. -/
def readValue : Nat -> Reader Value
  | 0, _ => none
  | depth + 1, text =>
      match text with
      | '[' :: rest =>
          (readItems (fun text => readValue depth (skipSpaces text)) [] (rest.length + 1) rest).map
            fun (items, rest) => (.array items, rest)
      | c :: rest =>
          if c == '\x7b' then
            (readPairs (readValue depth) [] (rest.length + 1) rest).map
              fun (pairs, rest) => (.table pairs, rest)
          else
            readScalar (c :: rest)
      | [] => none

/-- Read one statement, up to the end of its content. -/
def readStatement (text : List Char) : Option (Statement × List Char) :=
  let bound := text.length + 1
  match text with
  | '[' :: '[' :: rest =>
      match readKey ']' [] bound rest with
      | some (key, ']' :: rest) => some (.element key, rest)
      | _ => none
  | '[' :: rest => (readKey ']' [] bound rest).map fun (key, rest) => (.table key, rest)
  | _ => do
      let (key, rest) <- readKey '=' [] bound text
      let (value, rest) <- readValue bound (skipSpaces rest)
      return (.assign key value, rest)

/-- The line ends here, perhaps after a comment. -/
def endsLine (text : List Char) : Bool :=
  match skipSpaces text with
  | [] => true
  | c :: _ => c == '#' || c == '\n' || c == '\r'

/-- Read all statements. -/
def readStatements
    (statements : List Statement) : Nat -> List Char -> Option (List Statement)
  | 0, _ => none
  | bound + 1, text =>
      match skipFiller (text.length + 1) text with
      | [] => some statements.reverse
      | start =>
          match readStatement start with
          | none => none
          | some (statement, rest) =>
              if endsLine rest then readStatements (statement :: statements) bound rest else none

/-- No control character is in the text, and a carriage return stands only
before a line feed. -/
def isClean : List Char -> Bool
  | [] => true
  | '\r' :: rest => rest.head? == some '\n' && isClean rest
  | c :: rest =>
      (c == '\t' || c == '\n' || (32 ≤ c.toNat && c.toNat != 127)) && isClean rest

/-- The statements of a text, if it is well formed.  A byte order mark at its
start does not count. -/
def statements? (text : String) : Option (List Statement) :=
  let chars := text.toList
  let body := if chars.head? == some (Char.ofNat 0xfeff) then chars.drop 1 else chars
  if isClean body then readStatements [] (body.length + 1) body else none

end Toml
end CtorScan
