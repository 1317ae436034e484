import CtorScan.Source.Typed

/-!
# Where control can go

A function with results must not come to its end without returning them, and jumps
must go to labels that exist.
-/

namespace CtorScan
namespace Source
namespace TypedStmt

variable {π : Type}

/-! ## Endings -/

/-- The statement does nothing. -/
def isEmpty : TypedStmt π -> Bool
  | .empty => true
  | _ => false

/-- The statement has a jump out of what it stands in: by itself, if that is allowed,
or by a label. -/
def leavesUpTo : Nat -> Option String -> Bool -> TypedStmt π -> Bool
  | 0, _, _, _ => true
  | bound + 1, label, bare, stmt =>
      let any (bare : Bool) (body : List (TypedStmt π)) : Bool :=
        body.any (leavesUpTo bound label bare)
      match stmt with
      | .labeled _ inner => leavesUpTo bound label bare inner
      | .jump "break" none => bare
      | .jump "break" (some target) => label == some target
      | .block body => any bare body
      | .conditional _ _ body other =>
          any bare body ||
            match other with
            | some other => leavesUpTo bound label bare other
            | none => false
      | .choice _ _ clauses => clauses.any fun (.mk _ _ body) => any false body
      | .typeChoice _ _ clauses => clauses.any fun (.mk _ _ _ body) => any false body
      | .select clauses => clauses.any fun
          | .default body => any false body
          | .send _ _ body => any false body
          | .receive _ _ body => any false body
      | .loop _ _ _ body => any false body
      | .range _ _ _ _ body => any false body
      | _ => false

/-- The statement is a call that never comes back by its nature. -/
def isPanic : TypedStmt π -> Bool
  | .expression (.call (.builtin "panic" _) _ _ _ _ _) _ => true
  | _ => false

/-- The last statement that does something. -/
def lastOf? (body : List (TypedStmt π)) : Option (TypedStmt π) :=
  (body.filter fun stmt => !stmt.isEmpty).getLast?

/-- Control does not go on after the statement, which may have a label. -/
def endsUpTo : Nat -> Option String -> TypedStmt π -> Bool
  | 0, _, _ => false
  | bound + 1, label, stmt =>
      let bodyEnds (body : List (TypedStmt π)) : Bool :=
        match lastOf? body with
        | some last => endsUpTo bound none last
        | none => false
      let clauseEnds (body : List (TypedStmt π)) : Bool :=
        bodyEnds body && !body.any (leavesUpTo bound label true)
      match stmt with
      | .labeled name inner => endsUpTo bound (some name) inner
      | .finish _ => true
      | .jump "goto" _ => true
      | .jump "fallthrough" _ => true
      | .block body => bodyEnds body
      | .conditional _ _ body (some other) => bodyEnds body && endsUpTo bound none other
      | .choice _ _ clauses =>
          (clauses.any fun (.mk isDefault _ _) => isDefault) &&
            clauses.all fun (.mk _ _ body) => clauseEnds body
      | .typeChoice _ _ clauses =>
          (clauses.any fun (.mk isDefault _ _ _) => isDefault) &&
            clauses.all fun (.mk _ _ _ body) => clauseEnds body
      | .select clauses => clauses.all fun
          | .default body => clauseEnds body
          | .send _ _ body => clauseEnds body
          | .receive _ _ body => clauseEnds body
      | .loop _ none _ body => !body.any (leavesUpTo bound label true)
      | other => other.isPanic

/-- Control does not come to the end of the body. -/
def bodyEnds (depth : Nat) (body : List (TypedStmt π)) : Bool :=
  match lastOf? body with
  | some last => endsUpTo depth none last
  | none => false

/-! ## Labels -/

/-- The labels of a function. -/
structure Labels where
  /-- The labels so far. -/
  declared : List String
  /-- The labels that a jump goes to. -/
  used : List String

/-- What labels are about in the blocks around a statement. -/
structure Around where
  /-- The labels of the blocks around that come before. -/
  visible : List String
  /-- The labels of choices and loops around. -/
  leavable : List String
  /-- The labels of loops around. -/
  repeatable : List String

/-- A jump to a label that comes later, and whether it passes over a new variable of
its block. -/
structure Forward where
  /-- The label. -/
  label : String
  /-- Whether a variable starts between. -/
  overVariable : Bool

/-- The statement makes variables. -/
def startsVariable : TypedStmt π -> Bool
  | .declare targets _ => !targets.isEmpty
  | .assign targets _ => targets.any fun
      | .fresh _ => true
      | _ => false
  | _ => false

/-- The statement can be left by its label. -/
def isLeavable : TypedStmt π -> Bool
  | .choice _ _ _ => true
  | .typeChoice _ _ _ => true
  | .select _ => true
  | .loop _ _ _ _ => true
  | .range _ _ _ _ _ => true
  | _ => false

/-- The statement can go on with its next turn by its label. -/
def isRepeatable : TypedStmt π -> Bool
  | .loop _ _ _ _ => true
  | .range _ _ _ _ _ => true
  | _ => false

/-- Follow the jumps of the statements of a block: the labels after them, and the
jumps that still look for their label. -/
def jumpsUpTo :
    Nat -> Around -> List Forward -> Labels -> List (TypedStmt π) -> Option (List Forward × Labels)
  | 0, _, _, _, _ => none
  | _, _, forward, labels, [] => some (forward, labels)
  | bound + 1, around, forward, labels, stmt :: rest => do
      let inner (around : Around) (state : List Forward × Labels) (body : List (TypedStmt π)) :
          Option (List Forward × Labels) := do
        let (found, labels) <- jumpsUpTo bound around [] state.2 body
        return (state.1 ++ found.map fun jump => { jump with overVariable := false }, labels)
      let all (around : Around) (bodies : List (List (TypedStmt π))) :
          Option (List Forward × Labels) :=
        bodies.foldlM (inner around) (forward, labels)
      let (forward, labels, visible) <- (do
        match stmt with
        | .labeled label body =>
            if label == "_" then
              let (forward, labels) <- jumpsUpTo bound around forward labels [body]
              return (forward, labels, around.visible)
            else if labels.declared.contains label then
              none
            else
              let hits := forward.filter fun jump => jump.label == label
              if hits.any Forward.overVariable then
                none
              else
                let labels : Labels :=
                  { declared := label :: labels.declared
                    used := if hits.isEmpty then labels.used else label :: labels.used }
                let visible := label :: around.visible
                let leavable :=
                  if body.isLeavable then label :: around.leavable else around.leavable
                let repeatable :=
                  if body.isRepeatable then label :: around.repeatable else around.repeatable
                let (forward, labels) <- jumpsUpTo bound ⟨visible, leavable, repeatable⟩
                  (forward.filter fun jump => jump.label != label) labels [body]
                return (forward, labels, visible)
        | .jump word (some label) =>
            let used := { labels with used := label :: labels.used }
            match word with
            | "break" =>
                if around.leavable.contains label then
                  return (forward, used, around.visible)
                else
                  none
            | "continue" =>
                if around.repeatable.contains label then
                  return (forward, used, around.visible)
                else
                  none
            | _ =>
                if around.visible.contains label then
                  return (forward, used, around.visible)
                else
                  return (forward ++ [⟨label, false⟩], labels, around.visible)
        | .block body =>
            let (forward, labels) <- all around [body]
            return (forward, labels, around.visible)
        | .conditional _ _ body other =>
            let (forward, labels) <- all around (body :: (other.map fun other => [other]).toList)
            return (forward, labels, around.visible)
        | .choice _ _ clauses =>
            let (forward, labels) <- all around (clauses.map fun (.mk _ _ body) => body)
            return (forward, labels, around.visible)
        | .typeChoice _ _ clauses =>
            let (forward, labels) <- all around (clauses.map fun (.mk _ _ _ body) => body)
            return (forward, labels, around.visible)
        | .select clauses =>
            let (forward, labels) <- all around (clauses.map fun
              | .default body => body
              | .send _ _ body => body
              | .receive _ _ body => body)
            return (forward, labels, around.visible)
        | .loop _ _ _ body =>
            let (forward, labels) <- all around [body]
            return (forward, labels, around.visible)
        | .range _ _ _ _ body =>
            let (forward, labels) <- all around [body]
            return (forward, labels, around.visible)
        | other =>
            let forward :=
              if other.startsVariable then
                forward.map fun jump => { jump with overVariable := true }
              else
                forward
            return (forward, labels, around.visible))
      jumpsUpTo bound { around with visible := visible } forward labels rest

/-- All jumps of a function body go to labels that exist, and no label is without a
jump. -/
def jumpsAreRight (depth : Nat) (body : List (TypedStmt π)) : Bool :=
  match jumpsUpTo depth ⟨[], [], []⟩ [] ⟨[], []⟩ body with
  | some ([], labels) => labels.declared.all labels.used.contains
  | _ => false

end TypedStmt
end Source
end CtorScan
