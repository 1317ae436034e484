import CtorScan.Assembly.Instruction

/-!
# Assembly listings

The entities of a listing, as they are written: type definitions, variables,
aliases, functions, and what is beside the program.
-/

namespace CtorScan
namespace Assembly

/-- A block as it is written. -/
structure WrittenBlock where
  /-- Its label, if it has one. -/
  label : Option Ident
  /-- Its instructions except the last. -/
  steps : List Step
  /-- Its last instruction. -/
  last : Step

/-- What is written before the body of a function. -/
structure Header where
  /-- Its name. -/
  name : Ident
  /-- The type of its result. -/
  result : Ty
  /-- Its parameters with their names. -/
  parameters : List (Ty × Option Ident)
  /-- Whether it takes further arguments. -/
  variadic : Bool
  /-- Its address space. -/
  space : Nat
  /-- The constants it refers to. -/
  operands : List (Ty × Operand)
  /-- The groups of sections it refers to. -/
  comdats : List (Option String)

/-- An entity of a listing. -/
inductive Entity where
  /-- The name of the source file. -/
  | sourceName (name : String)
  /-- A type definition, perhaps without a type. -/
  | typeDefinition (name : Ident) (type : Option Ty)
  /-- A group of sections. -/
  | comdat (name : String)
  /-- A variable: its type, its address space, its initial value, and the groups
  of sections and metadata it refers to. -/
  | storage (name : Ident) (type : Ty) (space : Nat) (initial : Option Operand)
      (comdats : List (Option String)) (metadata : List Metadata)
  /-- A second name for something, with its type. -/
  | indirect (name : Ident) (type : Ty) (target : Option Ty × Operand)
  /-- A function, with the metadata it refers to and its blocks. -/
  | function (header : Header) (metadata : List Metadata) (blocks : List WrittenBlock)
  /-- An attribute group. -/
  | attributeGroup (number : Nat)
  /-- Metadata with a name. -/
  | namedMetadata (items : List Metadata)
  /-- Metadata with a number. -/
  | metadata (number : Nat) (content : Metadata)
  /-- Anything that says nothing about the program. -/
  | remark

namespace Listing

/-- A group of sections that is referred to; without a name it is the one of the
thing itself. -/
def comdatReference : Parse (Option String) := do
  Parse.word "comdat"
  Parse.optional (Parse.parenthesized (Parse.accept fun token =>
    match token with
    | .comdatName name => some name
    | _ => none))

/-- A section, a partition or a garbage collector. -/
def quotedField : Parse Unit := do
  discard (Parse.wordOf ["section", "partition", "gc"])
  discard Parse.quoted

/-- An alignment. -/
def alignmentField : Parse Unit := do
  Parse.word "align"
  discard Parse.natural

/-- A field after the parameters of a function: constants it refers to, and
groups of sections. -/
def headerField : Parse (List (Ty × Operand) × List (Option String)) :=
  (do quotedField; return ([], [])) <|>
  (do alignmentField; return ([], [])) <|>
  (do return ([], [<- comdatReference])) <|>
  (do
    discard (Parse.wordOf ["prefix", "prologue", "personality"])
    return ([<- Operand.parseTyped], [])) <|>
  (do Attribute.function; return ([], []))

/-- What is written before the body of a function. -/
def header : Parse Header := do
  discard (Parse.optional (Parse.wordOf Attribute.linkages))
  Attribute.placement
  discard (Parse.optional Attribute.convention)
  discard (Parse.many Attribute.result)
  let result <- Ty.parse
  let name <- Parse.globalIdent
  let (parameters, variadic) <- Ty.parameters Ty.parse
  Attribute.unnamed
  let space <- Parse.optional Ty.addressSpace
  let fields <- Parse.many headerField
  return ⟨name, result, parameters, variadic, space.getD 0, (fields.map Prod.fst).flatten,
    (fields.map Prod.snd).flatten⟩

/-- The order of uses, which says nothing here. -/
def useOrder : Parse Unit := do
  Parse.word "uselistorder"
  discard Operand.parseTyped
  Parse.sign ','
  Parse.sign '\x7b'
  discard (Parse.commaSeparated Parse.natural)
  Parse.sign '\x7d'

/-- A block. -/
def block : Parse WrittenBlock := do
  let label <- Parse.optional (Parse.accept fun token =>
    match token with
    | .label ident => some ident
    | _ => none)
  let steps <- Parse.many Step.parse
  return ⟨label, steps, <- Step.parseLast⟩

/-- A function with its body. -/
def definition : Parse Entity := do
  Parse.word "define"
  let header <- header
  let metadata <- Parse.many Metadata.parseAttachment
  Parse.sign '\x7b'
  let blocks <- Parse.some1 block
  discard (Parse.many useOrder)
  Parse.sign '\x7d'
  return .function header metadata blocks

/-- A function without body. -/
def declaration : Parse Entity := do
  Parse.word "declare"
  let metadata <- Parse.many Metadata.parseAttachment
  return .function (<- header) metadata []

/-- A field after the type of a variable. -/
def variableField : Parse (List (Option String) × List Metadata) := do
  Parse.sign ','
  (do quotedField; return ([], [])) <|>
  (do alignmentField; return ([], [])) <|>
  (do return ([<- comdatReference], [])) <|>
  (do return ([], [<- Metadata.parseAttachment]))

/-- A variable, after its name and its linkage. -/
def storage
    (name : Ident)
    (linkage : Option String) : Parse Entity := do
  Attribute.placement
  discard (Parse.optional Attribute.threadLocal)
  Attribute.unnamed
  let space <- Parse.optional Ty.addressSpace
  discard (Parse.optional (Parse.word "externally_initialized"))
  discard (Parse.wordOf ["global", "constant"])
  let type <- Ty.parse
  let isOuter := linkage.any Attribute.outerLinkages.contains
  let initial <- if isOuter then pure none else some <$> Operand.parse
  let fields <- Parse.many variableField
  discard (Parse.many Attribute.function)
  return .storage name type (space.getD 0) initial (fields.map Prod.fst).flatten
    (fields.map Prod.snd).flatten

/-- A second name, after its name and its linkage. -/
def indirect (name : Ident) : Parse Entity := do
  Attribute.placement
  discard (Parse.optional Attribute.threadLocal)
  Attribute.unnamed
  discard (Parse.wordOf ["alias", "ifunc"])
  let type <- Ty.parse
  Parse.sign ','
  let target <-
    (do
      let (type, operand) <- Operand.parseTyped
      return (some type, operand)) <|>
    (do return (none, <- Operand.parse))
  discard (Parse.many (do Parse.sign ','; Parse.word "partition"; Parse.quoted))
  return .indirect name type target

/-- A variable or a second name. -/
def globalDefinition : Parse Entity := do
  let name <- Parse.globalIdent
  Parse.sign '='
  let linkage <- Parse.optional (Parse.wordOf Attribute.linkages)
  storage name linkage <|> indirect name

/-- A type definition. -/
def typeDefinition : Parse Entity := do
  let name <- Parse.localIdent
  Parse.sign '='
  Parse.word "type"
  (do Parse.word "opaque"; return .typeDefinition name none) <|>
  (do return .typeDefinition name (some (<- Ty.parse)))

/-- A group of sections. -/
def comdatDefinition : Parse Entity := do
  let name <- Parse.accept fun token =>
    match token with
    | .comdatName name => some name
    | _ => none
  Parse.sign '='
  Parse.word "comdat"
  discard (Parse.wordOf
    ["any", "exactmatch", "largest", "noduplicates", "nodeduplicate", "samesize"])
  return .comdat name

/-- An attribute group. -/
def groupDefinition : Parse Entity := do
  Parse.word "attributes"
  let number <- Parse.accept fun token =>
    match token with
    | .attributeGroup number => some number
    | _ => none
  Parse.sign '='
  Parse.sign '\x7b'
  discard (Parse.many Attribute.grouped)
  Parse.sign '\x7d'
  return .attributeGroup number

/-- Metadata with a name or a number. -/
def metadataDefinition : Parse Entity :=
  (do
    Parse.accept fun token =>
      match token with
      | .metadataName _ => some ()
      | _ => none
    Parse.sign '='
    Parse.sign '!'
    Parse.sign '\x7b'
    let items <- Parse.commaSeparated (Metadata.parseNumber <|> Metadata.parseNode)
    Parse.sign '\x7d'
    return .namedMetadata items) <|>
  (do
    let number <- Parse.accept fun token =>
      match token with
      | .metadataId number => some number
      | _ => none
    Parse.sign '='
    return .metadata number (<- Metadata.parseDefinition))

/-- The name of the source file, or a remark on the target. -/
def remark : Parse Entity :=
  (do
    Parse.word "source_filename"
    Parse.sign '='
    return .sourceName (unescapedText (<- Parse.quoted))) <|>
  (do
    Parse.word "target"
    discard (Parse.wordOf ["datalayout", "triple"])
    Parse.sign '='
    discard Parse.quoted
    return .remark) <|>
  (do
    Parse.word "module"
    Parse.word "asm"
    discard Parse.quoted
    return .remark) <|>
  (do
    useOrder
    return .remark) <|>
  (do
    Parse.word "uselistorder_bb"
    discard Parse.globalIdent
    Parse.sign ','
    discard Parse.localIdent
    Parse.sign ','
    Parse.sign '\x7b'
    discard (Parse.commaSeparated Parse.natural)
    Parse.sign '\x7d'
    return .remark)

/-- An entity. -/
def parse : Parse Entity :=
  definition <|> declaration <|> globalDefinition <|> typeDefinition <|> comdatDefinition <|>
    groupDefinition <|> metadataDefinition <|> remark

/-- All entities of a text, if it is well formed. -/
def entities? (text : String) : Option (List Entity) := do
  let tokens <- Token.ofText? text
  let (entities, _) <- (do
    let entities <- Parse.many parse
    Parse.finished
    return entities : Parse (List Entity)) tokens
  return entities

end Listing
end Assembly
end CtorScan
