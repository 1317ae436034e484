import CtorScan.Source.Checking.Expression

/-!
# Checking statements
-/

namespace CtorScan
namespace Source
namespace Checkers

open Check

variable {π : Type}

/-! ## Values for several targets -/

/-- What stands to the right of some targets. -/
inductive Sources (π : Type) where
  /-- A value for each of them. -/
  | each (operands : List (Operand π))
  /-- One call that yields a value for each of them. -/
  | together (tree : Typed π) (types : List Ty)
  /-- One value that also tells whether it succeeded. -/
  | checked (operand : Operand π)

/-- The values for a number of targets. -/
def sources
    (checkers : Checkers π)
    (count : Nat)
    (exprs : List (Expr π)) : Check π (Sources π) := do
  if exprs.length == count then
    return .each (<- exprs.mapM (checkers.operand none))
  else
    match exprs with
    | [expr] =>
        let operand <- checkers.operand none expr
        match operand.mode, operand.type with
        | .value, .node .tuple types =>
            ensure (types.length == count)
            return .together operand.tree types
        | .element, _ | .checkable, _ =>
            ensure (count == 2)
            return .checked operand
        | _, _ => failure
    | _ => failure

/-- Give a value to a target of a type, or of a type still to be found. -/
def give (operand : Operand π) : Option Ty -> Check π (Typed π × Ty)
  | some type => return (<- assign operand type, type)
  | none => do
      let operand <- plainValue operand
      return (operand.tree, operand.type)

/-- The type that the truth value of a success has in a target. -/
def successType : Option Ty -> Check π Ty
  | none => return .basic .bool
  | some type => do
      let operand : Operand π := ⟨.value, .basic .untypedBool, default⟩
      match (<- env).implicit? operand type with
      | some (final, _) =>
          ensure (isAssignable (<- env) operand type)
          return final
      | none => failure

/-- Give values to targets: the trees of the values and the types of the targets. -/
def giveAll
    (values : Sources π)
    (types : List (Option Ty)) : Check π (List (Typed π) × List Ty) := do
  match values with
  | .each operands =>
      let given <- (operands.zip types).mapM fun (operand, type) => give operand type
      return (given.map Prod.fst, given.map Prod.snd)
  | .together tree found =>
      let given <- (found.zip types).mapM fun (type, wanted) =>
        give ⟨.value, type, .variable_ ⟨0, "", type⟩⟩ wanted
      return ([tree], given.map Prod.snd)
  | .checked operand =>
      match types with
      | [first, second] =>
          let (tree, type) <- give operand.asValue first
          let success <- successType second
          return ([.checked tree (.tuple [operand.type, success])],
            [type, second.getD success])
      | _ => failure

/-! ## Assignments -/

/-- The variable that an expression names, if it just names one. -/
def namedVar? (expr : Expr π) : Check π (Option Var) := do
  match expr.unparen with
  | .name name =>
      match <- localObject? name.text with
      | some (.variable_ var) => return some var
      | _ => return none
  | _ => return none

/-- The operand can be assigned to. -/
def isTarget (operand : Operand π) : Bool :=
  match operand.mode with
  | .place | .element => true
  | _ => false

/-- The target of an assignment, with its type.  Naming a variable is no use of it. -/
def target (checkers : Checkers π) (expr : Expr π) : Check π (TypedTarget π × Option Ty) := do
  match expr.unparen with
  | .name name =>
      if name.isBlank then
        return (.blank, none)
      else
        match <- namedVar? expr with
        | some var => return (.existing (.variable_ var), some var.type)
        | none => existing
  | _ => existing
where
  /-- Something that exists. -/
  existing : Check π (TypedTarget π × Option Ty) := do
    let operand <- checkers.operand none expr
    ensure (isTarget operand)
    return (.existing operand.tree, some operand.type)

/-- An assignment to targets that exist. -/
def assignment
    (checkers : Checkers π)
    (targets values : List (Expr π)) : Check π (TypedStmt π) := do
  let targets <- targets.mapM checkers.target
  let values <- checkers.sources targets.length values
  let (trees, _) <- giveAll values (targets.map Prod.snd)
  return .assign (targets.map Prod.fst) trees

/-- A name on the left of a definition: a variable of the innermost block, or a new
one. -/
def defined (expr : Expr π) : Check π (Name π × Option Var) := do
  match expr with
  | .name name =>
      match <- innermostObject? name.text with
      | some (.variable_ var) => return (name, some var)
      | some _ => failure
      | none => return (name, none)
  | _ => failure

/-- The target for a name with a type; a new variable must be used. -/
def newTarget (name : Name π) (type : Ty) : Check π (TypedTarget π) := do
  if name.isBlank then
    return .blank
  else
    let var <- newVar name.text type true
    declare name.text (.variable_ var)
    return .fresh var

/-- A definition of variables, at least one of which is new. -/
def definition
    (checkers : Checkers π)
    (targets values : List (Expr π)) : Check π (TypedStmt π) := do
  let names <- targets.mapM defined
  ensure (areDistinct (names.map fun entry => entry.1.text))
  ensure (names.any fun (name, var) => var.isNone && !name.isBlank)
  let values <- checkers.sources names.length values
  let (trees, types) <- giveAll values (names.map fun entry => entry.2.map Var.type)
  let targets <- (names.zip types).mapM fun ((name, var), type) =>
    match var with
    | some var => pure (.existing (.variable_ var))
    | none => newTarget name type
  return .assign targets trees

/-- An assignment after an operation. -/
def update
    (checkers : Checkers π)
    (operator : String)
    (targetExpr valueExpr : Expr π) : Check π (TypedStmt π) := do
  let left <- checkers.value targetExpr
  let right <- checkers.value valueExpr
  ensure (isTarget left)
  let result <- binaryOperands operator left.asValue right
  match result.tree with
  | .binary _ _ right _ =>
      let _ <- assign result left.type
      return .update left.tree operator right
  | _ => failure

/-- An assignment by one of its operators. -/
def assigned
    (checkers : Checkers π)
    (targets : List (Expr π))
    (operator : String)
    (values : List (Expr π)) : Check π (TypedStmt π) := do
  match operator, targets, values with
  | "=", _, _ => checkers.assignment targets values
  | ":=", _, _ => checkers.definition targets values
  | _, [target], [value] =>
      checkers.update (String.ofList operator.toList.dropLast) target value
  | _, _, _ => failure

/-- Adding or subtracting one. -/
def step (checkers : Checkers π) (expr : Expr π) (upwards : Bool) : Check π (TypedStmt π) := do
  let operand <- checkers.value expr
  ensure (isTarget operand)
  let env <- env
  ensure (env.allBasic Basic.isNumeric operand.type)
  let one := Operand.ofConstant (.int 1) (.basic .untypedInt)
  let _ <- binaryOperands (if upwards then "+" else "-") operand.asValue one
  return .step operand.tree upwards

/-! ## Declarations -/

/-- Constants with their types, values and numbers; absent values are those of the
constants before. -/
def constantSpecs? (specs : List (ValueSpec π)) :
    Option (List (List (Name π × Option (Expr π) × Expr π × Nat))) :=
  go 0 none [] specs
where
  /-- The constants from some number on, after a type and values. -/
  go (number : Nat) (type : Option (Expr π)) (values : List (Expr π)) :
      List (ValueSpec π) -> Option (List (List (Name π × Option (Expr π) × Expr π × Nat)))
    | [] => some []
    | .mk names ownType ownValues :: rest =>
        let own := ownType.isSome || !ownValues.isEmpty
        let type := if own then ownType else type
        let values := if own then ownValues else values
        if names.length == values.length then
          (go (number + 1) type values rest).map fun others =>
            ((names.zip values).map fun (name, value) => (name, type, value, number)) :: others
        else
          none

/-- The number of values is right for the number of variables. -/
def arityFits (names : List (Name π)) (type : Option (Expr π)) (values : List (Expr π)) : Bool :=
  if type.isSome && values.isEmpty then
    true
  else
    names.length == values.length || values.length == 1

/-- The value and type of a constant. -/
def constant
    (checkers : Checkers π)
    (type : Option (Expr π))
    (value : Expr π)
    (number : Nat) : Check π (Constant × Ty) := do
  let type <-
    match type with
    | some expr =>
        let type <- checkers.type expr
        ensure ((<- env).isBasicWith Basic.isConstant type)
        pure (some type)
    | none => pure none
  let operand <- withIota (some number) (checkers.value value)
  ensure operand.isConstant
  let tree <-
    match type with
    | some type => assign operand type
    | none => pure operand.tree
  match tree with
  | .constant value found _ => return (value, type.getD found)
  | _ => failure

/-- Constants of a function. -/
def localConstants (checkers : Checkers π) (specs : List (ValueSpec π)) : Check π Unit := do
  match constantSpecs? specs with
  | none => failure
  | some groups =>
      groups.forM fun group => do
        let objects <- group.mapM fun (name, type, value, number) => do
          let (value, type) <- checkers.constant type value number
          return (name, Object.constant value type)
        objects.forM fun (name, object) => declare name.text object

/-- Variables of a function. -/
def localVariables (checkers : Checkers π) : ValueSpec π -> Check π (TypedStmt π)
  | .mk names typeExpr values => do
      ensure (arityFits names typeExpr values)
      let type <-
        match typeExpr with
        | some expr => some <$> checkers.ordinaryType expr
        | none => pure none
      let (trees, types) <-
        if values.isEmpty then
          pure ([], names.map fun _ => type.getD default)
        else
          let found <- checkers.sources names.length values
          giveAll found (names.map fun _ => type)
      let targets <- (names.zip types).mapM fun (name, type) => newTarget name type
      return .declare targets trees

/-- A type of a function. -/
def localType (checkers : Checkers π) (spec : TypeSpec π) : Check π Unit := do
  match spec with
  | .mk name _ _ _ =>
      let declaration <- newType (emptyType (<- get).package spec)
      declare name.text (.typeName declaration)
      checkers.completeType declaration spec

/-- A declaration in a function. -/
def localDeclaration (checkers : Checkers π) : Declaration π -> Check π (TypedStmt π)
  | .constants specs => do
      checkers.localConstants specs
      return .declare [] []
  | .values specs => do
      match <- specs.mapM checkers.localVariables with
      | [stmt] => return stmt
      | stmts => return .block (.declare [] [] :: stmts)
  | .types specs => do
      specs.forM checkers.localType
      return .declare [] []

/-! ## Simple statements -/

/-- The functions of the language whose calls can stand alone. -/
def standingAlone : List String :=
  ["clear", "close", "copy", "delete", "panic", "print", "println", "recover"]

/-- The meaning of a call that stands alone. -/
def isStatementTree : Typed π -> Bool
  | .call (.builtin name _) _ _ _ _ _ => standingAlone.contains name
  | .call _ _ _ _ _ _ => true
  | .unary "<-" _ _ => true
  | _ => false

/-- The expression is a call without brackets around it. -/
def isBareCall : Expr π -> Bool
  | .call _ _ _ _ => true
  | _ => false

/-- An expression that stands alone. -/
def expressionStatement (checkers : Checkers π) (expr : Expr π) : Check π (TypedStmt π) := do
  let operand <- checkers.operand none expr
  let isReceipt :=
    match expr.unparen with
    | .unary "<-" _ => true
    | _ => false
  ensure (isBareCall expr.unparen || isReceipt)
  ensure (isStatementTree operand.tree)
  return .expression operand.tree (isBareCall expr)

/-- A call on the side or at the end. -/
def suspended (checkers : Checkers π) (expr : Expr π) : Check π (Typed π) := do
  ensure (isBareCall expr)
  let operand <- checkers.operand none expr
  ensure (isStatementTree operand.tree)
  return operand.tree

/-- Sending a value. -/
def send (checkers : Checkers π) (channel value : Expr π) : Check π (TypedStmt π) := do
  let channel <- checkers.value channel
  let value <- checkers.operand none value
  match (<- env).core? channel.type with
  | some (.node (.channel channelUse) [element]) =>
      ensure (channelUse != .receive)
      return .send channel.tree (<- assign value element)
  | _ => failure

/-- The end of the function. -/
def finish (checkers : Checkers π) (exprs : List (Expr π)) : Check π (TypedStmt π) := do
  let results := (<- get).results
  if exprs.isEmpty then
    results.forM fun result => do
      ensure (!result.name.isEmpty)
      unless result.name == "_" do
        match <- localObject? result.name with
        | some (.variable_ var) => ensure (var.id == result.id)
        | _ => failure
    return .finish []
  else
    let values <- checkers.sources results.length exprs
    let (trees, _) <- giveAll values (results.map fun result => some result.type)
    match values with
    | .checked _ => failure
    | _ => return .finish trees

/-- A jump. -/
def jump
    (around : Surroundings)
    (word : String)
    (label : Option (Name π)) : Check π (TypedStmt π) := do
  match label, word with
  | some _, _ => pure ()
  | none, "break" => ensure around.leavable
  | none, "continue" => ensure around.repeatable
  | none, "fallthrough" => ensure around.passable
  | none, _ => failure
  return .jump word (label.map Name.text)

/-! ## Conditions and choices -/

/-- A statement that may be absent. -/
def optional
    (checkers : Checkers π)
    (around : Surroundings) : Option (Stmt π) -> Check π (Option (TypedStmt π))
  | some stmt => some <$> checkers.statement around stmt
  | none => return none

/-- A condition. -/
def condition (checkers : Checkers π) (expr : Expr π) : Check π (Typed π) := do
  let operand <- checkers.value expr
  ensure ((<- env).allBasic Basic.isBoolean operand.type)
  return (<- giveDefault operand).tree

/-- Not more than one clause is the default. -/
def fewDefaults (flags : List Bool) : Bool :=
  (flags.filter id).length ≤ 1

/-- A value of a clause, compared with the value that the choice is by. -/
def clauseValue
    (checkers : Checkers π)
    (tag : Operand π)
    (expr : Expr π) : Check π (Operand π) := do
  let (found, tag) <- matched (<- checkers.value expr) tag
  let _ <- comparison "==" found tag
  if found.isNil then return found else giveDefault found

/-- Two constants of clauses say the same. -/
def sameCase (env : Env) (left right : Operand π) : Bool :=
  match left.constant?, right.constant? with
  | some (.bool _), _ => false
  | some a, some b =>
      env.identical left.type right.type && Constant.comparison "==" a b == some true
  | _, _ => false

/-- No two values satisfy a relation. -/
def noneRelated (related : α -> α -> Bool) : List α -> Bool
  | [] => true
  | value :: rest => !rest.any (related value) && noneRelated related rest

/-- The bodies of clauses; each but the last can pass on to the next. -/
def clauseBodies
    (checkers : Checkers π)
    (around : Surroundings) : List (List (Stmt π)) -> Check π (List (List (TypedStmt π)))
  | [] => return []
  | body :: rest => do
      let around := { around with passable := !rest.isEmpty }
      let checked <- inBlock (checkers.statements around body)
      return checked :: (<- checkers.clauseBodies around rest)

/-- A choice by a value. -/
def choice
    (checkers : Checkers π)
    (around : Surroundings)
    (init : Option (Stmt π))
    (tagExpr : Option (Expr π))
    (clauses : List (Clause π)) : Check π (TypedStmt π) :=
  inBlock do
    let init <- checkers.optional around init
    let tag <-
      match tagExpr with
      | some expr => do
          let tag <- plainValue (<- checkers.value expr)
          let env <- env
          ensure (env.isComparable tag.type || env.hasNil tag.type)
          pure tag
      | none => pure (.ofConstant (.bool true) (.basic .bool))
    ensure (fewDefaults (clauses.map fun (.mk isDefault _ _) => isDefault))
    let values <- clauses.mapM fun (.mk _ exprs _) => exprs.mapM (checkers.clauseValue tag)
    ensure (noneRelated (sameCase (<- env)) values.flatten)
    let bodies <- checkers.clauseBodies { around with leavable := true }
      (clauses.map fun (.mk _ _ body) => body)
    let checked := (clauses.zip (values.zip bodies)).map fun (.mk isDefault _ _, values, body) =>
      TypedClause.mk isDefault (values.map Operand.tree) body
    return .choice init (tagExpr.map fun _ => tag.tree) checked

/-- The types of a clause; the absent one is that of nothing. -/
def clauseTypes
    (checkers : Checkers π)
    (operand : Operand π)
    (exprs : List (Expr π)) : Check π (List (Option Ty)) :=
  exprs.mapM fun expr => do
    let isNothing <-
      match expr.unparen with
      | .name name => do
          match <- checkers.object name.text with
          | .nil => pure true
          | _ => pure false
      | _ => pure false
    if isNothing then
      return none
    else
      let type <- checkers.ordinaryType expr
      ensure (isPossible (<- env) operand.type type)
      return some type

/-- Two clauses are about one type. -/
def sameType (env : Env) : Option Ty -> Option Ty -> Bool
  | none, none => true
  | some left, some right => env.identical left right
  | _, _ => false

/-- The type of the variable of a clause. -/
def binderType (operand : Operand π) : List (Option Ty) -> Ty
  | [some type] => type
  | _ => operand.type

/-- A choice by the type of a value. -/
def typeChoice
    (checkers : Checkers π)
    (around : Surroundings)
    (init : Option (Stmt π))
    (binder : Option (Name π))
    (expr : Expr π)
    (clauses : List (Clause π)) : Check π (TypedStmt π) :=
  inBlock do
    let init <- checkers.optional around init
    ensure (!binder.any Name.isBlank)
    let operand <- checkers.asserted expr
    ensure (fewDefaults (clauses.map fun (.mk isDefault _ _) => isDefault))
    let around : Surroundings := { around with leavable := true, passable := false }
    let checked <- clauses.mapM fun (.mk isDefault exprs body) => do
      let types <- checkers.clauseTypes operand exprs
      inBlock do
        let var <-
          match binder with
          | some name => do
              let var <- newVar name.text (binderType operand types) false
              declare name.text (.variable_ var)
              pure (some var)
          | none => pure none
        let body <- checkers.statements around body
        return (TypeClause.mk isDefault types var body, types, var)
    ensure (noneRelated (sameType (<- env)) (checked.map fun entry => entry.2.1).flatten)
    let vars := checked.filterMap fun entry => entry.2.2
    let uses <- vars.mapM isUsed
    ensure (binder.isNone || uses.any id)
    return .typeChoice init operand.tree (checked.map Prod.fst)

/-- A communication is a receipt. -/
def isReceipt : Expr π -> Bool
  | .unary "<-" _ => true
  | .paren inner => isReceipt inner
  | _ => false

/-- A clause of a choice among communications. -/
def commClause
    (checkers : Checkers π)
    (around : Surroundings) : CommClause π -> Check π (TypedComm π)
  | .mk communication body =>
      inBlock do
        match communication with
        | none => return .default (<- checkers.statements around body)
        | some stmt =>
            ensure <|
              match stmt with
              | .send _ _ => true
              | .expression expr => isReceipt expr
              | .assign _ "=" [expr] => isReceipt expr
              | .assign _ ":=" [expr] => isReceipt expr
              | _ => false
            let stmt <- checkers.statement around stmt
            let body <- checkers.statements around body
            match stmt with
            | .send channel value => return .send channel value body
            | .expression value _ => return .receive value [] body
            | .assign targets [value] => return .receive value targets body
            | _ => failure

/-! ## Loops -/

/-- The types of what a loop runs over: a key and a value, either of which may not be
there. -/
def rangeTypes? (env : Env) (type : Ty) : Option (Option Ty × Option Ty) :=
  let int := Ty.basic .int
  match env.core? type with
  | some (.node (.basic basic) _) =>
      if basic.isString then some (some int, some (.basic .rune))
      else if basic.isInteger then some (some type, none)
      else none
  | some (.node (.array _) [element]) => some (some int, some element)
  | some (.node .slice [element]) => some (some int, some element)
  | some (.node .pointer [base]) =>
      match env.underlying base with
      | .node (.array _) [element] => some (some int, some element)
      | _ => none
  | some (.node .map [key, value]) => some (some key, some value)
  | some (.node (.channel channelUse) [element]) =>
      if channelUse == .send then none else some (some element, none)
  | some function =>
      match Signature.ofType? function with
      | some ⟨[(_, yield)], [], _⟩ =>
          match (env.core? yield).bind Signature.ofType? with
          | some ⟨params, [(_, result)], _⟩ =>
              if params.length ≤ 2 && env.identical result (.basic .bool) then
                some (params[0]?.map Prod.snd, params[1]?.map Prod.snd)
              else
                none
          | _ => none
      | _ => none
  | none => none

/-- The targets of a loop that exist. -/
def rangeTargets
    (checkers : Checkers π)
    (operand : Operand π)
    (isNumber : Bool) :
    List (Option (Expr π) × Option Ty) -> Check π (List (TypedTarget π) × Operand π)
  | [] => return ([], operand)
  | (none, _) :: rest => do
      let (targets, operand) <- checkers.rangeTargets operand isNumber rest
      return (.blank :: targets, operand)
  | (some expr, found) :: rest => do
      let (target, wanted) <- checkers.target expr
      let operand <-
        if isNumber then do
          let (tree, type) <- give operand wanted
          ensure ((<- env).allBasic Basic.isInteger type)
          pure ⟨operand.mode, type, tree⟩
        else do
          let type := found.getD default
          let _ <- give ⟨.value, type, .variable_ ⟨0, "", type⟩⟩ wanted
          pure operand
      let (targets, operand) <- checkers.rangeTargets operand isNumber rest
      return (target :: targets, operand)

/-- The new variables of a loop. -/
def rangeVariables : List (Option (Expr π) × Option Ty) -> Check π (List (TypedTarget π))
  | [] => return []
  | (some (.name name), some type) :: rest => do
      let target <- newTarget name type
      return target :: (<- rangeVariables rest)
  | (none, _) :: rest => return .blank :: (<- rangeVariables rest)
  | _ => failure

/-- A loop over something. -/
def range
    (checkers : Checkers π)
    (place : π)
    (key value : Option (Expr π))
    (defines : Bool)
    (expr : Expr π)
    (body : List (Stmt π)) : Check π (TypedStmt π) := do
  let operand <- checkers.value expr
  let env <- env
  match rangeTypes? env operand.type with
  | none => failure
  | some (keyType, valueType) =>
      ensure ((key.isNone || keyType.isSome) && (value.isNone || valueType.isSome))
      let isNumber := env.allBasic Basic.isInteger operand.type
      inBlock do
        let (targets, operand) <-
          if defines then do
            let operand <- giveDefault operand
            let keyType := if isNumber then some operand.type else keyType
            let targets <- rangeVariables [(key, keyType), (value, valueType)]
            ensure (targets.any fun
              | .fresh _ => true
              | _ => false)
            pure (targets, operand)
          else do
            let (targets, operand) <-
              checkers.rangeTargets operand isNumber [(key, keyType), (value, valueType)]
            pure (targets, <- giveDefault operand)
        let body <- inBlock (checkers.statements
          { leavable := true, repeatable := true, passable := false } body)
        match targets with
        | [key, value] => return .range place key value operand.tree body
        | _ => failure

/-- A loop with a condition. -/
def loop
    (checkers : Checkers π)
    (around : Surroundings)
    (init : Option (Stmt π))
    (test : Option (Expr π))
    (post : Option (Stmt π))
    (body : List (Stmt π)) : Check π (TypedStmt π) :=
  inBlock do
    let init <- checkers.optional around init
    let test <-
      match test with
      | some expr => some <$> checkers.condition expr
      | none => pure none
    ensure <|
      match post with
      | some (.assign _ ":=" _) => false
      | _ => true
    let post <- checkers.optional around post
    let body <- inBlock (checkers.statements
      { leavable := true, repeatable := true, passable := false } body)
    return .loop init test post body

/-! ## All statements -/

/-- A statement. -/
def statementAt
    (checkers : Checkers π)
    (around : Surroundings)
    (stmt : Stmt π) : Check π (TypedStmt π) := do
  let inner := { around with passable := false }
  match stmt with
  | .empty => return .empty
  | .expression expr => checkers.expressionStatement expr
  | .send channel value => checkers.send channel value
  | .step expr upwards => checkers.step expr upwards
  | .assign targets operator values => checkers.assigned targets operator values
  | .spawn place call => return .spawn place (<- checkers.suspended call)
  | .postpone place call => return .postpone place (<- checkers.suspended call)
  | .finish results => checkers.finish results
  | .jump word label => jump around word label
  | .block body => return .block (<- inBlock (checkers.statements inner body))
  | .conditional init test body other =>
      inBlock do
        let init <- checkers.optional inner init
        let test <- checkers.condition test
        let body <- inBlock (checkers.statements inner body)
        let other <- checkers.optional inner other
        return .conditional init test body other
  | .choice init tag clauses => checkers.choice inner init tag clauses
  | .typeChoice init binder operand clauses =>
      checkers.typeChoice inner init binder operand clauses
  | .select clauses =>
      ensure (fewDefaults (clauses.map fun (.mk communication _) => communication.isNone))
      return .select (<- clauses.mapM (checkers.commClause { inner with leavable := true }))
  | .loop init test post body => checkers.loop inner init test post body
  | .range place key value defines operand body =>
      checkers.range place key value defines operand body
  | .labeled label body => return .labeled label.text (<- checkers.statement around body)
  | .declare declaration => checkers.localDeclaration declaration

end Checkers
end Source
end CtorScan
