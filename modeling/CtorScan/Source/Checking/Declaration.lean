import CtorScan.Source.Checking.Statement

/-!
# Checking declarations of a package

Declarations can come in any order, so that each is resolved when its name is first
met.  A declaration that is met again while it is being resolved is in a cycle.
-/

namespace CtorScan
namespace Source

variable {π : Type}

/-- The declaration is that of a constant or variable. -/
def EntityKind.isValue : EntityKind π -> Bool
  | .constant _ _ _ => true
  | .global _ _ _ _ => true
  | _ => false

/-- The declaration makes a new type. -/
def EntityKind.isNewType : EntityKind π -> Bool
  | .type (.mk _ _ isAlias _) => !isAlias
  | _ => false

namespace Checkers

open Check

/-- Set how far a declaration is resolved. -/
def setStatus (entity : Nat) (status : Status) : Check π Unit :=
  modify fun state => { state with status := state.status.setIfInBounds entity status }

/-- Note what something depends on. -/
def noteNeeds (item : Dependency) (needs : List Dependency) : Check π Unit :=
  modify fun state => { state with needs := (item, needs) :: state.needs }

/-! ## Cycles -/

/-- A cycle back to a declaration that is being resolved makes sense: it is one of
values only, or one of types of which one is new. -/
def isSoundCycle (state : CheckState π) (entity : Nat) : Bool :=
  let cycle := entity :: state.path.takeWhile fun other => other != entity
  let kinds := cycle.map fun member => (state.entities.getD member default).kind
  kinds.all EntityKind.isValue ||
    (!kinds.any EntityKind.isValue && kinds.any EntityKind.isNewType)

/-! ## Variables -/

/-- The declared type of variables. -/
def declaredType (checkers : Checkers π) : Option (Expr π) -> Check π (Option Ty)
  | some expr => some <$> checkers.ordinaryType expr
  | none => return none

/-- A variable with a value of its own. -/
def globalVariable
    (checkers : Checkers π)
    (entity index : Nat)
    (declared : Entity π)
    (typeExpr value : Option (Expr π)) : Check π Unit := do
  let (_, needs) <- atTop declared.file do
    let type <- checkers.declaredType typeExpr
    if let some type := type then
      setGlobal index type
      setStatus entity (.busy (some (.global index)))
    match value with
    | none => ensure type.isSome
    | some expr =>
        let (tree, type) <- give (<- checkers.operand none expr) type
        setGlobal index type
        let target := if declared.name == "_" then none else some index
        modify fun state =>
          { state with values := (entity, ⟨[target], tree⟩) :: state.values }
  noteNeeds (.global index) needs

/-- Variables that share one value. -/
def globalGroup
    (checkers : Checkers π)
    (declared : Entity π)
    (typeExpr : Option (Expr π))
    (value : Expr π)
    (group : List Nat) : Check π Unit := do
  let state <- get
  let members := group.filterMap fun entity =>
    match state.entities.getD entity default with
    | ⟨name, _, .global index _ _ _⟩ => some (entity, name, index)
    | _ => none
  let (_, needs) <- atTop declared.file do
    let type <- checkers.declaredType typeExpr
    if let some type := type then
      members.forM fun (entity, _, index) => do
        setGlobal index type
        setStatus entity (.busy (some (.global index)))
    else
      members.forM fun (entity, _, _) => setStatus entity (.busy none)
    let found <- checkers.sources members.length [value]
    let (trees, types) <- giveAll found (members.map fun _ => type)
    (members.zip types).forM fun ((_, _, index), type) => setGlobal index type
    let targets := members.map fun (_, name, index) => if name == "_" then none else some index
    match trees, group with
    | [tree], first :: _ =>
        modify fun state =>
          { state with values := (first, ⟨targets, tree⟩) :: state.values }
    | _, _ => failure
  members.forM fun (entity, _, index) => do
    noteNeeds (.global index) needs
    setStatus entity (.done (.global index))

/-! ## Functions -/

/-- The signature of a function that is no method. -/
def functionSignature
    (checkers : Checkers π)
    (index : Nat)
    (declared : FunctionDecl π) : Check π Unit :=
  match declared.type with
  | .mk typeParamList _ _ =>
      inBlock do
        let typeParams <- checkers.typeParams typeParamList
        ensure (typeParams.isEmpty || declared.body.isSome)
        let signature <- checkers.signature declared.type
        modifyFunction index fun callable =>
          { callable with typeParams := typeParams, signature := signature }

/-- The parts of the type of a receiver: whether it is a pointer, the name of the
declared type, and names for its parameters. -/
structure ReceiverShape (π : Type) where
  /-- Whether it is a pointer. -/
  pointer : Bool
  /-- The name of the type. -/
  base : Name π
  /-- Names for its parameters. -/
  params : List (Name π)

/-- The name that an expression is. -/
def asName? : Expr π -> Option (Name π)
  | .name name => some name
  | _ => none

/-- The parts of the type of a receiver. -/
def receiverShape? : Expr π -> Option (ReceiverShape π)
  | .paren inner => receiverShape? inner
  | .star inner =>
      (receiverShape? inner).bind fun shape =>
        if shape.pointer then none else some { shape with pointer := true }
  | .name base => some ⟨false, base, []⟩
  | .index (.name base) params =>
      (params.mapM asName?).map fun params => ⟨false, base, params⟩
  | _ => none

/-- The declared type that a receiver is about, and whether there is a pointer. -/
def receiverBase (checkers : Checkers π) (shape : ReceiverShape π) : Check π (Nat × Bool) := do
  match <- checkers.outerObject shape.base.text with
  | .typeName declaration =>
      let env <- env
      if (env.typeDecl declaration).isAlias then
        match env.unalias (.synonym declaration []) with
        | .node (.named declaration) [] => return (declaration, shape.pointer)
        | .node .pointer [base] =>
            ensure (!shape.pointer)
            match env.unalias base with
            | .node (.named declaration) [] => return (declaration, true)
            | _ => failure
        | _ => failure
      else
        return (declaration, shape.pointer)
  | _ => failure

/-- A type that can have methods: one of the package that is neither a pointer nor an
interface. -/
def canHaveMethods (env : Env) (package : String) (declaration : Nat) : Bool :=
  let type := Ty.named declaration []
  (env.typeDecl declaration).package == package &&
    match env.underlying type with
    | .node .pointer _ => false
    | .node (.interface _ _ _) _ => false
    | .node (.basic .unsafePointer) _ => false
    | _ => true

/-- The names of the fields of a type. -/
def fieldNames (env : Env) (declaration : Nat) : List String :=
  match env.underlying (.named declaration []) with
  | .node (.struct fields) _ => fields.map FieldInfo.name
  | _ => []

/-- Connect a method with the type that it belongs to. -/
def attachMethod
    (checkers : Checkers π)
    (index : Nat)
    (declared : FunctionDecl π) : Check π Unit := do
  match declared.receiver with
  | some [.mk name type] =>
      match receiverShape? type with
      | none => failure
      | some shape =>
          let (declaration, pointer) <- checkers.receiverBase shape
          let state <- get
          let owner := state.env.typeDecl declaration
          ensure (canHaveMethods state.env state.package declaration)
          ensure (owner.params.length == shape.params.length)
          let typeParams <- freshParams owner.params
          (typeParams.zip shape.params).forM fun (id, name) =>
            modifyEnv fun env =>
              { env with params := env.params.modify id fun param =>
                  { param with name := name.text } }
          let receiver : Receiver := ⟨(name.map Name.text).getD "", declaration, pointer⟩
          modifyFunction index fun callable =>
            { callable with receiver := some receiver, typeParams := typeParams }
          unless declared.name.isBlank do
            let member <- memberName declared.name.text
            ensure (owner.methods.lookup member).isNone
            ensure (!(fieldNames state.env declaration).contains declared.name.text)
            modifyType declaration fun owner =>
              { owner with methods := owner.methods ++ [(member, index)] }
  | _ => failure

/-- Make the type parameters of a function visible in the innermost block. -/
def declareTypeParams (callable : Callable) : Check π Unit :=
  callable.typeParams.forM fun id => do
    let name := ((<- env).paramDecl id).name
    declare name (.typeParam id)

/-- The signature of a method that is connected with its type. -/
def methodSignature
    (checkers : Checkers π)
    (index : Nat)
    (declared : FunctionDecl π) : Check π Unit :=
  inBlock do
    declareTypeParams (<- ask fun env => env.callable index)
    let signature <- checkers.signature declared.type
    modifyFunction index fun callable => { callable with signature := signature }

/-- The body of a function whose signature is known. -/
def declaredBody
    (checkers : Checkers π)
    (index : Nat)
    (declared : FunctionDecl π) : Check π (TypedFunction π) := do
  let callable <- ask fun env => env.callable index
  match declared.body with
  | none =>
      let bare (entry : String × Ty) : Var := ⟨0, entry.1, entry.2⟩
      return ⟨index, declared.name.place, callable.receiver.map fun receiver =>
          bare (receiver.name, receiver.type callable.typeParams),
        callable.signature.params.map bare, callable.signature.results.map bare, none⟩
  | some body =>
      inBlock do
        declareTypeParams callable
        let receiver := callable.receiver.map fun receiver =>
          (receiver.name, receiver.type callable.typeParams)
        let checked <- checkers.functionBody receiver callable.signature body
        return ⟨index, declared.name.place, checked.receiver, checked.params, checked.results,
          some checked.body⟩

/-! ## All declarations -/

/-- Resolve a declaration that has just been begun. -/
def resolveNew (checkers : Checkers π) (entity : Nat) (declared : Entity π) : Check π Object := do
  match declared.kind with
  | .constant type (some value) number =>
      let ((value, type), needs) <- atTop declared.file (checkers.constant type value number)
      noteNeeds (.constant entity) needs
      return .constant value type
  | .constant _ none _ => failure
  | .global index type (some value) (first :: rest) =>
      checkers.globalGroup declared type value (first :: rest)
      return .global index
  | .global index type value _ =>
      checkers.globalVariable entity index declared type value
      return .global index
  | .type spec =>
      let declaration <- newType (emptyType (<- get).package spec)
      setStatus entity (.busy (some (.typeName declaration)))
      let _ <- atTop declared.file (checkers.completeType declaration spec)
      return .typeName declaration
  | .function index function =>
      let _ <- atTop declared.file <|
        match function.receiver with
        | none => checkers.functionSignature index function
        | some _ => checkers.methodSignature index function
      return .function index

/-- Resolve a declaration. -/
def resolveAt (checkers : Checkers π) (entity : Nat) : Check π Object := do
  let state <- get
  match state.status.getD entity default with
  | .done object => return object
  | .busy (some object) =>
      ensure (isSoundCycle state entity)
      return object
  | .busy none => failure
  | .pending =>
      setStatus entity (.busy none)
      modify fun state => { state with path := entity :: state.path }
      let object <- checkers.resolveNew entity (state.entities.getD entity default)
      setStatus entity (.done object)
      modify fun state => { state with path := state.path.tail }
      return object

/-- The parts of checking, down to a depth. -/
def upTo : Nat -> Checkers π
  | 0 => failing
  | depth + 1 =>
      { resolve := fun entity => (upTo depth).resolveAt entity
        type := fun expr => (upTo depth).typeAt expr
        operand := fun hint expr => (upTo depth).operandAt hint expr
        statement := fun around stmt => (upTo depth).statementAt around stmt }

end Checkers
end Source
end CtorScan
