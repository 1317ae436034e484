import CtorScan.Assembly.Ty

/-!
# Operands

What instructions and definitions work on: locals, globals, literals,
aggregates of constants, and constant expressions.
-/

namespace CtorScan
namespace Assembly

/-- An operand, as it is written after its type. -/
inductive Operand where
  /-- A parameter, a result or a block of the function. -/
  | localRef (ident : Ident)
  /-- A function or a variable. -/
  | globalRef (ident : Ident)
  /-- A truth value. -/
  | bool (value : Bool)
  /-- A whole number. -/
  | int (value : Int)
  /-- A number with a point or given by its bits, as it is written. -/
  | float (text : String)
  /-- A constant that is one word. -/
  | word (text : String)
  /-- A structure. -/
  | struct (packed : Bool) (fields : List (Ty × Operand))
  /-- An array. -/
  | array (items : List (Ty × Operand))
  /-- A vector. -/
  | vector (items : List (Ty × Operand))
  /-- An array of bytes. -/
  | bytes (data : List Nat)
  /-- The address of a block. -/
  | blockAddress (function block : Ident)
  /-- A function with a word in front. -/
  | marked (word : String) (function : Ident)
  /-- Code of the machine. -/
  | machineCode
  /-- A conversion. -/
  | cast (operation : String) (source : Ty × Operand) (target : Ty)
  /-- The address of a part. -/
  | address (inBounds : Bool) (element : Ty) (path : List (Bool × Ty × Operand))
  /-- Any other expression: the words in front, the operands, and numbers that
  select a part. -/
  | expression (operation : String) (flags : List String) (operands : List (Ty × Operand))
      (indices : List Nat)
deriving Inhabited

namespace Operand

/-- The words that are constants by themselves. -/
def constantWords : List String :=
  ["null", "none", "zeroinitializer", "undef", "poison"]

/-- The conversions. -/
def castWords : List String :=
  ["trunc", "zext", "sext", "fptrunc", "fpext", "fptoui", "fptosi", "uitofp", "sitofp",
    "ptrtoint", "inttoptr", "bitcast", "addrspacecast"]

/-- The operations on two numbers, each with the flags it may have. -/
def binaryWords : List (String × List String) :=
  let overflow := ["nuw", "nsw"]
  let fast := ["afn", "arcp", "contract", "fast", "ninf", "nnan", "nsz", "reassoc"]
  [("add", overflow), ("sub", overflow), ("mul", overflow), ("shl", overflow),
    ("fadd", fast), ("fsub", fast), ("fmul", fast), ("fdiv", fast), ("frem", fast),
    ("udiv", ["exact"]), ("sdiv", ["exact"]), ("lshr", ["exact"]), ("ashr", ["exact"]),
    ("urem", []), ("srem", []), ("and", []), ("or", []), ("xor", [])]

/-- The flags of inexact arithmetic. -/
def fastFlags : List String :=
  ["afn", "arcp", "contract", "fast", "ninf", "nnan", "nsz", "reassoc"]

/-- The comparisons of whole numbers. -/
def intPredicates : List String :=
  ["eq", "ne", "sge", "sgt", "sle", "slt", "uge", "ugt", "ule", "ult"]

/-- The comparisons of numbers with a point. -/
def floatPredicates : List String :=
  ["false", "oeq", "oge", "ogt", "ole", "olt", "one", "ord", "true", "ueq", "uge", "ugt", "ule",
    "ult", "une", "uno"]

/-- An operand with its type in front, by a reader of operands. -/
def typed (operand : Parse Operand) : Parse (Ty × Operand) := do
  let type <- Ty.parse
  return (type, <- operand)

/-- The parts of a path to an address, after the element type. -/
def pathPart (operand : Parse Operand) : Parse (Bool × Ty × Operand) := do
  let inRange <- Parse.succeeds (Parse.word "inrange")
  return (inRange, <- typed operand)

/-- Numbers that select a part. -/
def partIndices : Parse (List Nat) :=
  Parse.some1 (do Parse.sign ','; Parse.natural)

/-- A conversion in brackets. -/
def castExpression (operand : Parse Operand) : Parse Operand := do
  let operation <- Parse.wordOf castWords
  Parse.parenthesized do
    let source <- typed operand
    Parse.word "to"
    return .cast operation source (<- Ty.parse)

/-- The address of a part. -/
def addressExpression (operand : Parse Operand) : Parse Operand := do
  Parse.word "getelementptr"
  let inBounds <- Parse.succeeds (Parse.word "inbounds")
  Parse.parenthesized do
    let element <- Ty.parse
    let path <- Parse.many (do Parse.sign ','; pathPart operand)
    match path with
    | [] => failure
    | (inRange, _) :: _ =>
        if inRange then failure else return .address inBounds element path

/-- An operation on two numbers. -/
def binaryExpression (operand : Parse Operand) : Parse Operand := do
  let operation <- Parse.wordOf (binaryWords.map Prod.fst)
  let flags <- Parse.many (Parse.wordOf ((binaryWords.lookup operation).getD []))
  Parse.parenthesized do
    let left <- typed operand
    Parse.sign ','
    return .expression operation flags [left, <- typed operand] []

/-- A comparison. -/
def comparison (operand : Parse Operand) : Parse Operand := do
  let operation <- Parse.wordOf ["icmp", "fcmp"]
  let flag <- Parse.wordOf (if operation = "icmp" then intPredicates else floatPredicates)
  Parse.parenthesized do
    let left <- typed operand
    Parse.sign ','
    return .expression operation [flag] [left, <- typed operand] []

/-- The other expressions, with the number of their operands and whether numbers
follow that select a part. -/
def otherExpressions : List (String × Nat × Bool) :=
  [("fneg", 1, false), ("select", 3, false), ("extractelement", 2, false),
    ("insertelement", 3, false), ("shufflevector", 3, false), ("extractvalue", 1, true),
    ("insertvalue", 2, true)]

/-- One of the other expressions. -/
def otherExpression (operand : Parse Operand) : Parse Operand := do
  let operation <- Parse.wordOf (otherExpressions.map Prod.fst)
  match otherExpressions.lookup operation with
  | none => failure
  | some (count, selects) =>
      Parse.parenthesized do
        let operands <- Parse.commaSeparated1 (typed operand)
        if operands.length ≠ count then
          failure
        let indices <- if selects then partIndices else pure []
        return .expression operation [] operands indices

/-- A literal or a word. -/
def atom : Parse Operand :=
  Parse.accept fun token =>
    match token with
    | .localIdent ident => some (.localRef ident)
    | .globalIdent ident => some (.globalRef ident)
    | .integer value => some (.int value)
    | .float text => some (.float text)
    | .word "true" => some (.bool true)
    | .word "false" => some (.bool false)
    | .word text => if constantWords.contains text then some (.word text) else none
    | _ => none

/-- A structure, an array or a vector. -/
def aggregate (operand : Parse Operand) : Parse Operand :=
  let fields := do
    Parse.sign '\x7b'
    let fields <- Parse.commaSeparated (typed operand)
    Parse.sign '\x7d'
    return fields
  (do return .struct false (<- fields)) <|>
  (do
    Parse.sign '<'
    let read <-
      (do return Operand.struct true (<- fields)) <|>
      (do return Operand.vector (<- Parse.commaSeparated (typed operand)))
    Parse.sign '>'
    return read) <|>
  (do
    Parse.sign '['
    let items <- Parse.commaSeparated (typed operand)
    Parse.sign ']'
    return .array items) <|>
  (do
    Parse.word "c"
    return .bytes (unescape (<- Parse.quoted)))

/-- The address of a block, or a function with a word in front. -/
def reference : Parse Operand :=
  (do
    Parse.word "blockaddress"
    Parse.parenthesized do
      let function <- Parse.globalIdent
      Parse.sign ','
      return .blockAddress function (<- Parse.localIdent)) <|>
  (do
    let word <- Parse.wordOf ["dso_local_equivalent", "no_cfi"]
    return .marked word (<- Parse.globalIdent))

/-- Code of the machine. -/
def inlineCode : Parse Operand := do
  Parse.word "asm"
  discard (Parse.optional (Parse.word "sideeffect"))
  discard (Parse.optional (Parse.word "alignstack"))
  discard (Parse.optional (Parse.word "inteldialect"))
  discard (Parse.optional (Parse.word "unwind"))
  discard Parse.quoted
  Parse.sign ','
  discard Parse.quoted
  return .machineCode

/-- An operand that is nested at most as deep as the number says. -/
def reader : Nat -> Parse Operand
  | 0 => failure
  | depth + 1 =>
      let inner := reader depth
      atom <|> aggregate inner <|> reference <|> inlineCode <|> castExpression inner <|>
        addressExpression inner <|> binaryExpression inner <|> comparison inner <|>
        otherExpression inner

/-- An operand. -/
def parse : Parse Operand := do
  reader ((<- get).length + 1)

/-- An operand with its type. -/
def parseTyped : Parse (Ty × Operand) :=
  typed parse

end Operand
end Assembly
end CtorScan
