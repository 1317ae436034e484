import CtorScan.Source.Reading.Basic

/-!
# Reading types
-/

namespace CtorScan
namespace Source
namespace Readers

open Parse

variable {π : Type}

/-- The name of a type after its first part, perhaps with that of a package. -/
def typeNameFrom (first : Name π) : Parse π (Expr π) := do
  if <- acceptSymbol "." then
    return .selector (.name first) (<- name)
  else
    return .name first

/-- The type arguments in square brackets that follow a type. -/
def typeInstance
    (readers : Readers π)
    (generic : Expr π) : Parse π (Expr π) := do
  symbol "["
  let arguments <- commaList "]" readers.type
  symbol "]"
  if arguments.isEmpty then failure else return .index generic arguments

/-- The name of a type, perhaps with type arguments. -/
def namedTypeFrom
    (readers : Readers π)
    (first : Name π) : Parse π (Expr π) := do
  let type <- typeNameFrom first
  if <- atSymbol "[" then readers.typeInstance type else return type

/-- The rest of an array or slice type after its opening bracket. -/
def arrayTypeRest (readers : Readers π) : Parse π (Expr π) := do
  let length <-
    if <- acceptSymbol "..." then
      pure (some (Expr.dots none))
    else if <- atSymbol "]" then
      pure none
    else
      some <$> readers.expression false
  symbol "]"
  return .arrayType length (<- readers.type)

/-- A name followed by an opening square bracket: either a field of an array
type, or a type with arguments. -/
def arrayFieldOrInstance
    (readers : Readers π)
    (first : Name π) : Parse π (Option (Name π) × Expr π) := do
  symbol "["
  if <- acceptSymbol "]" then
    return (some first, .arrayType none (<- readers.type))
  let argument <- readers.expression false
  let more <- many do
    if <- acceptSymbol "," then
      if <- atSymbol "]" then return none else return some (<- readers.expression false)
    else
      return none
  symbol "]"
  if more.isEmpty then
    match <- readers.type? with
    | some element => return (some first, .arrayType (some argument) element)
    | none => return (none, .index (.name first) [argument])
  else
    return (none, .index (.name first) (argument :: more))

/-! ## Structures -/

/-- The note after a field. -/
def fieldTag : Parse π (Option String) := do
  match <- peek with
  | some (.string text) =>
      let _ <- token
      return some text
  | _ => return none

/-- The names and the type of fields that start with a name. -/
def namedFields
    (readers : Readers π)
    (first : Name π) : Parse π (List (Name π) × Expr π) := do
  match <- peek with
  | some (.symbol ".") => return ([], <- readers.namedTypeFrom first)
  | some (.string _) => return ([], .name first)
  | some (.symbol ";") => return ([], .name first)
  | some (.symbol "\x7d") => return ([], .name first)
  | _ =>
      let more <- many do
        if <- acceptSymbol "," then return some (<- name) else return none
      if more.isEmpty && (<- atSymbol "[") then
        let (field, type) <- readers.arrayFieldOrInstance first
        return (field.toList, type)
      else
        return (first :: more, <- readers.type)

/-- Fields of a structure. -/
def fields (readers : Readers π) : Parse π (FieldDecl π) := do
  let (names, type) <-
    if <- acceptSymbol "*" then
      let type <- readers.namedTypeFrom (<- name)
      pure ([], Expr.star type)
    else
      readers.namedFields (<- name)
  let tag <- fieldTag
  semicolon
  return .mk names type tag

/-- The type of structures after its first word. -/
def structTypeRest (readers : Readers π) : Parse π (Expr π) := do
  symbol "\x7b"
  let fields <- many do
    if <- atSymbol "\x7d" then return none else return some (<- readers.fields)
  symbol "\x7d"
  return .structType fields

/-! ## Parameters -/

/-- A term of a constraint. -/
def constraintTerm (readers : Readers π) : Parse π (Expr π) := do
  if <- acceptSymbol "~" then
    return .unary "~" (<- readers.type)
  else
    readers.type

/-- The rest of a constraint after its first term. -/
def constraintFrom
    (readers : Readers π)
    (first : Expr π) : Parse π (Expr π) := do
  let rest <- many do
    if <- acceptSymbol "|" then return some (<- readers.constraintTerm) else return none
  return rest.foldl (Expr.binary "|") first

/-- A parameter before it is known whether parameters have names. -/
structure RawParam (π : Type) where
  /-- A name, or a type that is a name. -/
  name : Option (Name π)
  /-- A type. -/
  type : Option (Expr π)

/-- A parameter after its name. -/
def rawParamFrom
    (readers : Readers π)
    (constraints : Bool)
    (first : Name π) : Parse π (RawParam π) := do
  match <- peek with
  | some (.symbol "[") =>
      let (name, type) <- readers.arrayFieldOrInstance first
      let type <- if constraints then readers.constraintFrom type else pure type
      return ⟨name, some type⟩
  | some (.symbol "...") =>
      symbol "..."
      return ⟨some first, some (.dots (some (<- readers.type)))⟩
  | some (.symbol ".") =>
      let type <- readers.namedTypeFrom first
      let type <- if constraints then readers.constraintFrom type else pure type
      return ⟨none, some type⟩
  | some (.symbol "~") =>
      if constraints then
        let term <- readers.constraintTerm
        return ⟨some first, some (<- readers.constraintFrom term)⟩
      else
        failure
  | some (.symbol "|") =>
      if constraints then
        return ⟨none, some (<- readers.constraintFrom (.name first))⟩
      else
        failure
  | _ =>
      match <- readers.type? with
      | some type =>
          let type <- if constraints then readers.constraintFrom type else pure type
          return ⟨some first, some type⟩
      | none => return ⟨some first, none⟩

/-- A parameter. -/
def rawParam
    (readers : Readers π)
    (constraints : Bool) : Parse π (RawParam π) := do
  if <- atName then
    readers.rawParamFrom constraints (<- name)
  else if <- acceptSymbol "..." then
    return ⟨none, some (.dots (some (<- readers.type)))⟩
  else
    let term <- if constraints then readers.constraintTerm else readers.type
    let type <- if constraints then readers.constraintFrom term else pure term
    return ⟨none, some type⟩

/-- Give parameters without a type that of the next one that has a type.  They
come in reverse order, with the type of the one after them. -/
def shareTypes : Option (Expr π) -> List (RawParam π) -> Option (List (Param π))
  | _, [] => some []
  | later, ⟨name, type⟩ :: rest =>
      match name, type.or later with
      | some name, some type =>
          (shareTypes (some type) rest).map fun params => params ++ [.mk (some name) type]
      | _, _ => none

/-- Either no parameter has a name, or all have one. -/
def settleParams
    (constraints : Bool)
    (list : List (RawParam π)) : Option (List (Param π)) :=
  if list.all fun param => param.name.isNone || param.type.isNone then
    if constraints && !list.isEmpty then
      none
    else
      list.mapM fun param =>
        match param.name, param.type with
        | some name, _ => some (.mk none (.name name))
        | none, some type => some (.mk none type)
        | none, none => none
  else
    shareTypes none list.reverse

/-- Parameters up to a closing bracket, which stays. -/
def paramList
    (readers : Readers π)
    (constraints : Bool)
    (close : String) : Parse π (List (Param π)) := do
  let list <- commaList close (readers.rawParam constraints)
  match settleParams constraints list with
  | some params => return params
  | none => failure

/-- Parameters in round brackets. -/
def params (readers : Readers π) : Parse π (List (Param π)) := do
  symbol "("
  let list <- readers.paramList false ")"
  symbol ")"
  return list

/-- Type parameters in square brackets, if there are any. -/
def typeParams (readers : Readers π) : Parse π (List (Param π)) := do
  if <- acceptSymbol "[" then
    let list <- readers.paramList true "]"
    symbol "]"
    if list.isEmpty then failure else return list
  else
    return []

/-- The results of a function. -/
def results (readers : Readers π) : Parse π (List (Param π)) := do
  if <- atSymbol "(" then
    readers.params
  else
    match <- readers.type? with
    | some type => return [.mk none type]
    | none => return []

/-- The type of a function after its first word. -/
def functionTypeRest (readers : Readers π) : Parse π (FunctionType π) := do
  let params <- readers.params
  return .mk [] params (<- readers.results)

/-! ## Interfaces -/

/-- An element of an interface that starts with a name. -/
def namedElement
    (readers : Readers π)
    (first : Name π) : Parse π (InterfaceElement π) := do
  if <- atSymbol "(" then
    return .method first (<- readers.functionTypeRest)
  else
    return .embedded (<- readers.constraintFrom (<- readers.namedTypeFrom first))

/-- An element of an interface, if one comes next. -/
def interfaceElement (readers : Readers π) : Parse π (Option (InterfaceElement π)) := do
  if <- atName then
    let element <- readers.namedElement (<- name)
    semicolon
    return some element
  else if <- atSymbol "~" then
    let type <- readers.constraintFrom (<- readers.constraintTerm)
    semicolon
    return some (.embedded type)
  else
    match <- readers.type? with
    | none => return none
    | some first =>
        let type <- readers.constraintFrom first
        semicolon
        return some (.embedded type)

/-- The type of values with some methods, after its first word. -/
def interfaceTypeRest (readers : Readers π) : Parse π (Expr π) := do
  symbol "\x7b"
  let elements <- many readers.interfaceElement
  symbol "\x7d"
  return .interfaceType elements

/-! ## All types -/

/-- The type of channels after its first word. -/
def channelTypeRest (readers : Readers π) : Parse π (Expr π) := do
  let channelUse <- if <- acceptSymbol "<-" then pure ChannelUse.send else pure ChannelUse.both
  return .channelType channelUse (<- readers.type)

/-- A type that starts with a reserved word. -/
def keywordType?
    (readers : Readers π)
    (word : String) : Parse π (Option (Expr π)) := do
  match word with
  | "struct" =>
      keyword word
      some <$> readers.structTypeRest
  | "func" =>
      keyword word
      some <$> Expr.functionType <$> readers.functionTypeRest
  | "interface" =>
      keyword word
      some <$> readers.interfaceTypeRest
  | "map" =>
      keyword word
      symbol "["
      let key <- readers.type
      symbol "]"
      return some (.mapType key (<- readers.type))
  | "chan" =>
      keyword word
      some <$> readers.channelTypeRest
  | _ => return none

/-- A type that starts with a symbol. -/
def symbolType?
    (readers : Readers π)
    (first : String) : Parse π (Option (Expr π)) := do
  match first with
  | "[" =>
      symbol first
      some <$> readers.arrayTypeRest
  | "*" =>
      symbol first
      return some (.star (<- readers.type))
  | "<-" =>
      symbol first
      keyword "chan"
      return some (.channelType .receive (<- readers.type))
  | "(" =>
      symbol first
      let inner <- readers.type
      symbol ")"
      return some (.paren inner)
  | _ => return none

/-- A type, if one comes next. -/
def anyType? (readers : Readers π) : Parse π (Option (Expr π)) := do
  match <- peek with
  | some (.name _) => some <$> readers.namedTypeFrom (<- name)
  | some (.keyword word) => readers.keywordType? word
  | some (.symbol first) => readers.symbolType? first
  | _ => return none

end Readers
end Source
end CtorScan
