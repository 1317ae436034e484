import CtorScan.Assembly.Attribute
import CtorScan.Assembly.Metadata

/-!
# Instructions of assembly

An instruction is kept as its mnemonic, the operands and blocks it refers to, and
how the type of its result follows from what is written.
-/

namespace CtorScan
namespace Assembly

/-- The type of a result, as far as it can be told without type definitions. -/
inductive Result where
  /-- There is no result. -/
  | nothing
  /-- A type that is written. -/
  | is (type : Ty)
  /-- A truth value, or a vector of them beside a vector. -/
  | truth (compared : Ty)
  /-- The element of a vector. -/
  | element (vector : Ty)
  /-- The elements of a vector, as many as another vector has. -/
  | elements (vector mask : Ty)
  /-- A part of an aggregate. -/
  | part (aggregate : Ty) (indices : List Nat)
  /-- The address of a part. -/
  | address (element : Ty) (path : List (Ty × Operand))

/-- An argument of a call. -/
inductive Actual where
  /-- A value. -/
  | operand (operand : Ty × Operand)
  /-- A piece of metadata. -/
  | metadata (metadata : Metadata)

/-- What is called, and with which arguments. -/
structure Target where
  /-- The type before the callee: of the result or of the function. -/
  type : Ty
  /-- The address space of the callee. -/
  space : Nat
  /-- The callee. -/
  callee : Operand
  /-- The arguments. -/
  arguments : List Actual

/-- An instruction. -/
structure Step where
  /-- The name of its result. -/
  name : Option Ident
  /-- Its mnemonic. -/
  operation : String
  /-- The type of its result. -/
  result : Result
  /-- The operands, except those of a call. -/
  operands : List (Ty × Operand)
  /-- The blocks it refers to. -/
  blocks : List Ident
  /-- The metadata it refers to. -/
  metadata : List Metadata
  /-- What is called. -/
  target : Option Target

namespace Step

/-- An instruction with a result of some type and some operands. -/
def simple
    (operation : String)
    (result : Result)
    (operands : List (Ty × Operand)) : Step where
  name := none
  operation := operation
  result := result
  operands := operands
  blocks := []
  metadata := []
  target := none

/-- An operand with its type after a comma. -/
def nextTyped : Parse (Ty × Operand) := do
  Parse.sign ','
  Operand.parseTyped

/-- An operand of a type that was written before, after a comma. -/
def nextOf (type : Ty) : Parse (Ty × Operand) := do
  Parse.sign ','
  return (type, <- Operand.parse)

/-- The name of a block. -/
def label : Parse Ident := do
  Parse.word "label"
  Parse.localIdent

/-- An alignment after a comma. -/
def alignment : Parse Unit := do
  Parse.sign ','
  Parse.word "align"
  discard Parse.natural

/-- The order of memory accesses. -/
def ordering : Parse Unit := do
  discard (Parse.wordOf ["acq_rel", "acquire", "monotonic", "release", "seq_cst", "unordered"])

/-- The threads that see an access, if that is said, and its order. -/
def scopedOrdering : Parse Unit := do
  discard (Parse.optional (do
    Parse.word "syncscope"
    Parse.parenthesized Parse.quoted))
  ordering

/-- An operation on one or two numbers, or a freeze. -/
def arithmetic : Parse Step :=
  (do
    let operation <- Parse.wordOf (Operand.binaryWords.map Prod.fst)
    discard (Parse.many (Parse.wordOf ((Operand.binaryWords.lookup operation).getD [])))
    let left <- Operand.parseTyped
    let right <- nextOf left.1
    return simple operation (.is left.1) [left, right]) <|>
  (do
    Parse.word "fneg"
    discard (Parse.many (Parse.wordOf Operand.fastFlags))
    let operand <- Operand.parseTyped
    return simple "fneg" (.is operand.1) [operand]) <|>
  (do
    Parse.word "freeze"
    let operand <- Operand.parseTyped
    return simple "freeze" (.is operand.1) [operand])

/-- A conversion. -/
def conversion : Parse Step := do
  let operation <- Parse.wordOf Operand.castWords
  let operand <- Operand.parseTyped
  Parse.word "to"
  return simple operation (.is (<- Ty.parse)) [operand]

/-- A comparison or a choice. -/
def decision : Parse Step :=
  (do
    Parse.word "icmp"
    discard (Parse.wordOf Operand.intPredicates)
    let left <- Operand.parseTyped
    let right <- nextOf left.1
    return simple "icmp" (.truth left.1) [left, right]) <|>
  (do
    Parse.word "fcmp"
    discard (Parse.many (Parse.wordOf Operand.fastFlags))
    discard (Parse.wordOf Operand.floatPredicates)
    let left <- Operand.parseTyped
    let right <- nextOf left.1
    return simple "fcmp" (.truth left.1) [left, right]) <|>
  (do
    Parse.word "select"
    discard (Parse.many (Parse.wordOf Operand.fastFlags))
    let condition <- Operand.parseTyped
    let left <- nextTyped
    let right <- nextTyped
    return simple "select" (.is left.1) [condition, left, right])

/-- An instruction on vectors or aggregates. -/
def partwise : Parse Step :=
  (do
    Parse.word "extractelement"
    let vector <- Operand.parseTyped
    return simple "extractelement" (.element vector.1) [vector, <- nextTyped]) <|>
  (do
    Parse.word "insertelement"
    let vector <- Operand.parseTyped
    let element <- nextTyped
    return simple "insertelement" (.is vector.1) [vector, element, <- nextTyped]) <|>
  (do
    Parse.word "shufflevector"
    let left <- Operand.parseTyped
    let right <- nextTyped
    let mask <- nextTyped
    return simple "shufflevector" (.elements left.1 mask.1) [left, right, mask]) <|>
  (do
    Parse.word "extractvalue"
    let aggregate <- Operand.parseTyped
    let indices <- Operand.partIndices
    return simple "extractvalue" (.part aggregate.1 indices) [aggregate]) <|>
  (do
    Parse.word "insertvalue"
    let aggregate <- Operand.parseTyped
    let element <- nextTyped
    discard Operand.partIndices
    return simple "insertvalue" (.is aggregate.1) [aggregate, element])

/-- Reserve memory. -/
def reservation : Parse Step := do
  Parse.word "alloca"
  discard (Parse.optional (Parse.word "inalloca"))
  discard (Parse.optional (Parse.word "swifterror"))
  let element <- Ty.parse
  let count <- Parse.optional nextTyped
  discard (Parse.optional alignment)
  let space <- Parse.optional (do Parse.sign ','; Ty.addressSpace)
  return simple "alloca" (.is (.pointer element (space.getD 0))) count.toList

/-- The order of an access and its alignment, for an atomic access and for
another one. -/
def accessOrder (atomic : Bool) : Parse Unit := do
  if atomic then
    scopedOrdering
  discard (Parse.optional alignment)

/-- Read from memory, or write to it. -/
def access : Parse Step :=
  (do
    Parse.word "load"
    let atomic <- Parse.succeeds (Parse.word "atomic")
    discard (Parse.optional (Parse.word "volatile"))
    let element <- Ty.parse
    let source <- nextTyped
    accessOrder atomic
    return simple "load" (.is element) [source]) <|>
  (do
    Parse.word "store"
    let atomic <- Parse.succeeds (Parse.word "atomic")
    discard (Parse.optional (Parse.word "volatile"))
    let source <- Operand.parseTyped
    let target <- nextTyped
    accessOrder atomic
    return simple "store" .nothing [source, target]) <|>
  (do
    Parse.word "fence"
    scopedOrdering
    return simple "fence" .nothing [])

/-- The operations of an atomic change. -/
def atomicWords : List String :=
  ["add", "and", "fadd", "fmax", "fmin", "fsub", "max", "min", "nand", "or", "sub", "umax",
    "umin", "xchg", "xor"]

/-- Change memory at once. -/
def atomicChange : Parse Step :=
  (do
    Parse.word "cmpxchg"
    discard (Parse.optional (Parse.word "weak"))
    discard (Parse.optional (Parse.word "volatile"))
    let place <- Operand.parseTyped
    let expected <- nextTyped
    let replacement <- nextTyped
    scopedOrdering
    ordering
    discard (Parse.optional alignment)
    return simple "cmpxchg" (.is (.struct false [replacement.1, .int 1]))
      [place, expected, replacement]) <|>
  (do
    Parse.word "atomicrmw"
    discard (Parse.optional (Parse.word "volatile"))
    discard (Parse.wordOf atomicWords)
    let place <- Operand.parseTyped
    let operand <- nextTyped
    scopedOrdering
    discard (Parse.optional alignment)
    return simple "atomicrmw" (.is operand.1) [place, operand])

/-- The address of a part. -/
def addressing : Parse Step := do
  Parse.word "getelementptr"
  discard (Parse.optional (Parse.word "inbounds"))
  let element <- Ty.parse
  let base <- nextTyped
  let indices <- Parse.many nextTyped
  return simple "getelementptr" (.address element (base :: indices)) (base :: indices)

/-- A value that depends on the block before. -/
def merge : Parse Step := do
  Parse.word "phi"
  discard (Parse.many (Parse.wordOf Operand.fastFlags))
  let type <- Ty.parse
  let choices <- Parse.commaSeparated1 do
    Parse.sign '['
    let value <- Operand.parse
    Parse.sign ','
    let block <- Parse.localIdent
    Parse.sign ']'
    return (value, block)
  return { simple "phi" (.is type) (choices.map fun choice => (type, choice.1)) with
    blocks := choices.map Prod.snd }

/-- A piece of metadata or an operand with attributes. -/
def argument : Parse Actual :=
  (do
    Parse.word "metadata"
    return .metadata (<- Metadata.parse)) <|>
  (do
    let type <- Ty.parse
    discard (Parse.many (Ty.parameterAttribute Ty.parse))
    return .operand (type, <- Operand.parse))

/-- Arguments in brackets. -/
def arguments : Parse (List Actual) :=
  Parse.parenthesized
    ((do Parse.word "..."; return []) <|>
    (do
      let list <- Parse.commaSeparated argument
      if !list.isEmpty then
        discard (Parse.optional (do Parse.sign ','; Parse.word "..."))
      return list))

/-- Operands beside the arguments of a call. -/
def bundles : Parse (List (Ty × Operand)) := do
  Parse.sign '['
  let list <- Parse.commaSeparated do
    discard Parse.quoted
    Parse.parenthesized (Parse.commaSeparated Operand.parseTyped)
  Parse.sign ']'
  return list.flatten

/-- The result type of a call, where the type of the function may be written. -/
def resultOf : Ty -> Ty
  | .function result _ _ => result
  | type => type

/-- A callee with arguments, after the mnemonic. -/
def callTail (operation : String) : Parse Step := do
  discard (Parse.optional Attribute.convention)
  discard (Parse.many Attribute.result)
  let space <- Parse.optional Ty.addressSpace
  let type <- Ty.parse
  let callee <- Operand.parse
  let arguments <- arguments
  discard (Parse.many Attribute.function)
  let beside <- Parse.optional bundles
  return { simple operation (.is (resultOf type)) (beside.getD []) with
    target := some ⟨type, space.getD 0, callee, arguments⟩ }

/-- A call. -/
def call : Parse Step := do
  discard (Parse.optional (Parse.wordOf ["musttail", "notail", "tail"]))
  Parse.word "call"
  discard (Parse.many (Parse.wordOf Operand.fastFlags))
  callTail "call"

/-- Take an argument of a variable list. -/
def variadicArgument : Parse Step := do
  Parse.word "va_arg"
  let operand <- Operand.parseTyped
  Parse.sign ','
  return simple "vaarg" (.is (<- Ty.parse)) [operand]

/-- Arguments of an exception pad, in square brackets. -/
def padArguments : Parse (List Actual) := do
  Parse.sign '['
  let list <- Parse.commaSeparated argument
  Parse.sign ']'
  return list

/-- The values among arguments. -/
def valuesOf (arguments : List Actual) : List (Ty × Operand) :=
  arguments.filterMap fun argument =>
    match argument with
    | .operand operand => some operand
    | .metadata _ => none

/-- An exception pad around another one, or none. -/
def outerPad : Parse (List (Ty × Operand)) :=
  (do Parse.word "none"; return []) <|>
  (do return [(.plain .token, .localRef (<- Parse.localIdent))])

/-- The start of exception handling. -/
def pad : Parse Step :=
  (do
    Parse.word "landingpad"
    let type <- Ty.parse
    discard (Parse.optional (Parse.word "cleanup"))
    let clauses <- Parse.many do
      discard (Parse.wordOf ["catch", "filter"])
      Operand.parseTyped
    return simple "landingpad" (.is type) clauses) <|>
  (do
    Parse.word "catchpad"
    Parse.word "within"
    let switch <- Parse.localIdent
    let arguments <- padArguments
    return simple "catchpad" (.is (.plain .token))
      ((.plain .token, .localRef switch) :: valuesOf arguments)) <|>
  (do
    Parse.word "cleanuppad"
    Parse.word "within"
    let outer <- outerPad
    let arguments <- padArguments
    return simple "cleanuppad" (.is (.plain .token)) (outer ++ valuesOf arguments))

/-- An instruction that gives a value. -/
def valued : Parse Step :=
  arithmetic <|> conversion <|> decision <|> partwise <|> reservation <|> atomicChange <|>
    addressing <|> merge <|> call <|> variadicArgument <|> pad

/-- Add the metadata after an instruction. -/
def withMetadata (reader : Parse Step) : Parse Step := do
  let step <- reader
  let metadata <- Metadata.parseAttachments
  return { step with metadata := metadata }

/-- Read a result name, by a reader of what gives the result. -/
def withName (reader : Parse Step) : Parse Step := do
  let name <- Parse.localIdent
  Parse.sign '='
  let step <- reader
  return { step with name := some name }

/-- Only a load among the accesses gives a value. -/
def load : Parse Step := do
  let step <- access
  if step.operation = "load" then return step else failure

/-- An instruction inside a block. -/
def parse : Parse Step :=
  withMetadata (withName (valued <|> load) <|> valued <|> access)

/-- The blocks where a call goes on. -/
def invocation : Parse Step :=
  (do
    Parse.word "invoke"
    let step <- callTail "invoke"
    Parse.word "to"
    let normal <- label
    Parse.word "unwind"
    let exceptional <- label
    return { step with blocks := [normal, exceptional] }) <|>
  (do
    Parse.word "callbr"
    let step <- callTail "callbr"
    Parse.word "to"
    let normal <- label
    Parse.sign '['
    let others <- Parse.commaSeparated label
    Parse.sign ']'
    return { step with blocks := normal :: others })

/-- Where exceptions go on: a block, or the caller. -/
def unwinding : Parse (List Ident) := do
  Parse.word "unwind"
  (do Parse.word "to"; Parse.word "caller"; return []) <|> (do return [<- label])

/-- A choice among exception handlers. -/
def handlers : Parse Step := do
  Parse.word "catchswitch"
  Parse.word "within"
  let outer <- outerPad
  Parse.sign '['
  let blocks <- Parse.commaSeparated1 label
  Parse.sign ']'
  let further <- unwinding
  return { simple "catchswitch" (.is (.plain .token)) outer with blocks := blocks ++ further }

/-- The cases of a switch. -/
def cases : Parse (List ((Ty × Operand) × Ident)) := do
  Parse.sign '['
  let list <- Parse.many do
    let value <- Operand.parseTyped
    Parse.sign ','
    return (value, <- label)
  Parse.sign ']'
  return list

/-- A jump. -/
def jump : Parse Step :=
  (do
    Parse.word "br"
    (do return { simple "br" .nothing [] with blocks := [<- label] }) <|>
    (do
      let bits <- Ty.parse
      let condition <- Operand.parse
      Parse.sign ','
      let onTrue <- label
      Parse.sign ','
      let onFalse <- label
      return { simple "condbr" .nothing [(bits, condition)] with blocks := [onTrue, onFalse] })) <|>
  (do
    Parse.word "switch"
    let value <- Operand.parseTyped
    Parse.sign ','
    let other <- label
    let list <- cases
    return { simple "switch" .nothing (value :: list.map Prod.fst) with
      blocks := other :: list.map Prod.snd }) <|>
  (do
    Parse.word "indirectbr"
    let place <- Operand.parseTyped
    Parse.sign ','
    Parse.sign '['
    let blocks <- Parse.commaSeparated label
    Parse.sign ']'
    return { simple "indirectbr" .nothing [place] with blocks := blocks })

/-- The word for no value, where no longer type starts with it. -/
def voidWord : Parse Unit := do
  Parse.word "void"
  match (<- get).head? with
  | some (.sign '(') | some (.sign '*') => failure
  | _ => return

/-- The end of a function or of exception handling. -/
def leave : Parse Step :=
  (do
    Parse.word "ret"
    (do voidWord; return simple "ret" .nothing []) <|>
    (do return simple "ret" .nothing [<- Operand.parseTyped])) <|>
  (do
    Parse.word "resume"
    return simple "resume" .nothing [<- Operand.parseTyped]) <|>
  (do
    Parse.word "catchret"
    Parse.word "from"
    let pad <- Parse.localIdent
    Parse.word "to"
    return { simple "catchret" .nothing [(.plain .token, .localRef pad)] with
      blocks := [<- label] }) <|>
  (do
    Parse.word "cleanupret"
    Parse.word "from"
    let pad <- Parse.localIdent
    return { simple "cleanupret" .nothing [(.plain .token, .localRef pad)] with
      blocks := <- unwinding }) <|>
  (do
    Parse.word "unreachable"
    return simple "unreachable" .nothing [])

/-- The last instruction of a block. -/
def parseLast : Parse Step :=
  withMetadata
    (withName (invocation <|> handlers) <|> invocation <|> handlers <|> jump <|> leave)

end Step
end Assembly
end CtorScan
