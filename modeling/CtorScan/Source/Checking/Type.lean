import CtorScan.Source.Checking.Basic
import CtorScan.Source.Checking.Constant

/-!
# Checking types

The parts of checking refer to each other, and so each of them is given the others
for one level of nesting less.
-/

namespace CtorScan
namespace Source

variable {π : Type}

/-- Where a statement stands. -/
structure Surroundings where
  /-- A loop or choice around can be left. -/
  leavable : Bool
  /-- A loop around can go on with its next turn. -/
  repeatable : Bool
  /-- The next clause can follow. -/
  passable : Bool

/-- A function body stands in nothing. -/
def Surroundings.none : Surroundings := ⟨false, false, false⟩

/-- The parts of checking, for the trees inside the one at hand. -/
structure Checkers (π : Type) where
  /-- A declaration of the package. -/
  resolve : Nat -> Check π Object
  /-- A type. -/
  type : Expr π -> Check π Ty
  /-- Any expression; the hint is the type of a composite value that leaves it out. -/
  operand : Option Ty -> Expr π -> Check π (Operand π)
  /-- A statement. -/
  statement : Surroundings -> Stmt π -> Check π (TypedStmt π)

/-- The parts of checking for no depth at all. -/
def Checkers.failing : Checkers π where
  resolve := fun _ => failure
  type := fun _ => failure
  operand := fun _ _ => failure
  statement := fun _ _ => failure

namespace Checkers

open Check

/-! ## Names -/

/-- What a name that is not declared in a function stands for. -/
def outerObject (checkers : Checkers π) (name : String) : Check π Object := do
  let state <- get
  let scope := state.files.getD state.file default
  match scope.packages.lookup name with
  | some path =>
      useImport name
      return .package path
  | none =>
      match state.names.lookup name with
      | some entity =>
          let object <- checkers.resolve entity
          match object with
          | .constant _ _ => depend (.constant entity)
          | _ => pure ()
          return object
      | none =>
          match scope.objects.lookup name with
          | some (object, path) =>
              useImport ("." ++ path)
              return object
          | none =>
              match known.lookup name with
              | some object => return object
              | none => failure

/-- What a name stands for. -/
def object (checkers : Checkers π) (name : String) : Check π Object := do
  match <- localObject? name with
  | some object => return object
  | none => checkers.outerObject name

/-- The types that the package of machine addresses offers. -/
def unsafeObjects : List (String × Object) :=
  ("Pointer", .basicType .unsafePointer) ::
    (["Sizeof", "Alignof", "Offsetof", "Add", "Slice", "String", "StringData", "SliceData"].map
      fun name => (name, Object.builtin ("unsafe." ++ name)))

/-- What a name stands for in another package. -/
def packageObject (path name : String) : Check π Object := do
  ensure (isExported name)
  if path == "unsafe" then
    match unsafeObjects.lookup name with
    | some object => return object
    | none => failure
  else
    match (<- get).packages.find? fun scope => scope.path == path with
    | some scope =>
        match scope.objects.lookup name with
        | some object => return object
        | none => failure
    | none => failure

/-- What an expression stands for if it is a name, perhaps in another package. -/
def namedObject? (checkers : Checkers π) : Expr π -> Check π (Option Object)
  | .name name => do
      ensure (!name.isBlank)
      return some (<- checkers.object name.text)
  | .selector (.name package) field => do
      match <- checkers.object package.text with
      | .package path => return some (<- packageObject path field.text)
      | _ => return none
  | _ => return none

/-- The type that an object is; a generic one needs arguments. -/
def objectType : Object -> Check π Ty
  | .typeName declaration => do
      let declared <- ask fun env => env.typeDecl declaration
      ensure declared.params.isEmpty
      return if declared.isAlias then .synonym declaration [] else .named declaration []
  | .basicType basic => return .basic basic
  | .typeParam id => return .param id
  | _ => failure

/-- A generic type with arguments. -/
def instantiateType (declaration : Nat) (args : List Ty) : Check π Ty := do
  let declared <- ask fun env => env.typeDecl declaration
  ensure (!declared.params.isEmpty && declared.params.length == args.length)
  demand (.arguments declared.params args)
  return if declared.isAlias then .synonym declaration args else .named declaration args

/-! ## Parts of types -/

/-- A type that variables can have. -/
def ordinaryType (checkers : Checkers π) (expr : Expr π) : Check π Ty := do
  let type <- checkers.type expr
  demand (.ordinary type)
  return type

/-- The length of an array. -/
def arrayLength (checkers : Checkers π) (expr : Expr π) : Check π Nat := do
  let operand <- checkers.operand none expr
  let env <- env
  match operand.mode, operand.tree with
  | .constant, .constant value type _ =>
      ensure (env.isUntyped type || env.isBasicWith Basic.isInteger type)
      match value.as? .int with
      | some (.int length) =>
          ensure (0 ≤ length)
          return length.toNat
      | _ => failure
  | _, _ => failure

/-- No name occurs twice, apart from the blank one and absent ones. -/
def areDistinct (names : List String) : Bool :=
  let named := names.filter fun name => name != "_" && name != ""
  named.eraseDups.length == named.length

/-- Parameters with their names and types, and whether the last one takes any number
of arguments. -/
def params
    (checkers : Checkers π)
    (variadicAllowed : Bool) : List (Param π) -> Check π (List (String × Ty) × Bool)
  | [] => return ([], false)
  | [.mk name (.dots (some element))] => do
      ensure variadicAllowed
      let type <- checkers.ordinaryType element
      return ([((name.map Name.text).getD "", .slice type)], true)
  | .mk name type :: rest => do
      let type <- checkers.ordinaryType type
      let (others, variadic) <- checkers.params variadicAllowed rest
      return (((name.map Name.text).getD "", type) :: others, variadic)

/-- The parameters and results of a function. -/
def signature (checkers : Checkers π) : FunctionType π -> Check π Signature
  | .mk _ paramList resultList => do
      let (params, variadic) <- checkers.params true paramList
      let (results, _) <- checkers.params false resultList
      ensure (areDistinct ((params ++ results).map Prod.fst))
      return ⟨params, results, variadic⟩

/-- The name under which a type is embedded. -/
def embeddedName? : Expr π -> Option String
  | .name name => some name.text
  | .selector _ field => some field.text
  | .index operand _ => embeddedName? operand
  | .star operand => embeddedName? operand
  | .paren inner => embeddedName? inner
  | _ => none

/-- A field as its package sees it. -/
def fieldInfo (name : String) (embedded : Bool) (tag : Option String) : Check π FieldInfo := do
  let member <- memberName name
  match tag with
  | none => return ⟨name, member.package, embedded, none⟩
  | some written =>
      match stringBytes? written with
      | some bytes => return ⟨name, member.package, embedded, some bytes⟩
      | none => failure

/-- The fields that one declaration declares. -/
def fields (checkers : Checkers π) : FieldDecl π -> Check π (List (FieldInfo × Ty))
  | .mk [] typeExpr tag => do
      match embeddedName? typeExpr with
      | none => failure
      | some name =>
          let type <- checkers.ordinaryType typeExpr
          let (base, pointer) <- ask fun env => env.dereferenced type
          demand (.embeddable base pointer)
          return [(<- fieldInfo name true tag, type)]
  | .mk names typeExpr tag => do
      let type <- checkers.ordinaryType typeExpr
      names.mapM fun name => return (<- fieldInfo name.text false tag, type)

/-- The type of structures with some fields. -/
def structType (checkers : Checkers π) (declarations : List (FieldDecl π)) : Check π Ty := do
  let all := (<- declarations.mapM checkers.fields).flatten
  ensure (areDistinct (all.map fun field => field.1.name))
  return .struct (all.map Prod.fst) (all.map Prod.snd)

/-! ## Interfaces -/

/-- The alternatives of an element of an interface. -/
def alternatives : Expr π -> List (Expr π)
  | .binary "|" left right => alternatives left ++ [right]
  | other => [other]

/-- One alternative, and whether it stands for all types made like it. -/
def alternative (checkers : Checkers π) : Expr π -> Check π (Bool × Ty)
  | .unary "~" inner => return (true, <- checkers.type inner)
  | other => return (false, <- checkers.type other)

/-- An element of an interface. -/
def element (checkers : Checkers π) (expr : Expr π) : Check π Ty := do
  let terms <- (alternatives expr).mapM checkers.alternative
  terms.forM fun (tilde, type) => demand (.element type tilde (terms.length != 1))
  match terms with
  | [(false, type)] => return type
  | _ => return .node (.union (terms.map Prod.fst)) (terms.map Prod.snd)

/-- The methods that an interface lists. -/
def listedMethods
    (checkers : Checkers π)
    (elements : List (InterfaceElement π)) : Check π (List (MethodName × Ty)) := do
  let methods <- elements.filterMapM fun
    | .method name type => do
        ensure (!name.isBlank)
        let signature <- inBlock (checkers.signature type)
        return some (<- memberName name.text, signature.type)
    | .embedded _ => return none
  ensure (areDistinct (methods.map fun method => method.1.name))
  return methods.mergeSort fun left right => left.1.precedes right.1

/-- The type of values with some methods. -/
def interfaceType (checkers : Checkers π) (elements : List (InterfaceElement π)) : Check π Ty := do
  let methods <- checkers.listedMethods elements
  let embedded <- elements.filterMapM fun
    | .method _ _ => return none
    | .embedded type => return some (<- checkers.element type)
  let type := Ty.node (.interface (methods.map Prod.fst) false false)
    (methods.map Prod.snd ++ embedded)
  demand (.distinctMethods type)
  return type

/-- The constraint of a type parameter. -/
def constraint (checkers : Checkers π) (expr : Expr π) : Check π Ty := do
  match expr with
  | .binary "|" _ _ => return .node (.interface [] false true) [<- checkers.element expr]
  | .unary "~" _ => return .node (.interface [] false true) [<- checkers.element expr]
  | _ =>
      let type <- checkers.type expr
      ensure (!(<- ask fun env => env.isParam type))
      return type

/-- Make type parameters visible in the innermost block. -/
def typeParams (checkers : Checkers π) (paramList : List (Param π)) : Check π (List Nat) := do
  let ids <- paramList.mapM fun param => do
    let name := (param.name?.map Name.text).getD "_"
    let id <- newParam ⟨name, .empty⟩
    declare name (.typeParam id)
    return id
  (paramList.zip ids).forM fun (param, id) => do
    setConstraint id (<- checkers.constraint param.type)
  return ids

/-! ## Types -/

/-- A type. -/
def typeAt (checkers : Checkers π) (expr : Expr π) : Check π Ty := do
  match expr with
  | .name _ | .selector _ _ =>
      match <- checkers.namedObject? expr with
      | some object => objectType object
      | none => failure
  | .paren inner => checkers.type inner
  | .index operand args =>
      match <- checkers.namedObject? operand with
      | some (.typeName declaration) =>
          instantiateType declaration (<- args.mapM checkers.type)
      | _ => failure
  | .star operand => return .pointer (<- checkers.type operand)
  | .arrayType none elementType => return .slice (<- checkers.ordinaryType elementType)
  | .arrayType (some length) elementType =>
      let length <- checkers.arrayLength length
      return .array length (<- checkers.ordinaryType elementType)
  | .structType declarations => checkers.structType declarations
  | .functionType type => return (<- inBlock (checkers.signature type)).type
  | .interfaceType elements => checkers.interfaceType elements
  | .mapType key value =>
      let key <- checkers.ordinaryType key
      demand (.key key)
      return .map key (<- checkers.ordinaryType value)
  | .channelType channelUse elementType =>
      return .channel channelUse (<- checkers.ordinaryType elementType)
  | _ => failure

/-! ## Declarations of types -/

/-- Give a declared type its parameters and what it stands for. -/
def completeType (checkers : Checkers π) (declaration : Nat) : TypeSpec π -> Check π Unit
  | .mk _ paramList isAlias body => do
      inBlock do
        let params <- checkers.typeParams paramList
        modifyType declaration fun declared => { declared with params := params }
        let type <- checkers.type body
        unless isAlias do
          ensure (!(<- ask fun env => env.isParam type))
        modifyType declaration fun declared => { declared with body := type }
      demand (.finite declaration)

/-- The declaration of a type before it is complete. -/
def emptyType (package : String) : TypeSpec π -> TypeDecl
  | .mk name _ isAlias _ =>
      { name := name.text, package := package, params := [], isAlias := isAlias,
        body := .tuple [], methods := [] }

end Checkers
end Source
end CtorScan
