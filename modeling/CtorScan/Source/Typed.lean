import CtorScan.Source.Constant
import CtorScan.Source.Type.Members

/-!
# Source files whose meaning is known

The trees that checking leaves: every name is resolved, every expression has its
final type, and constants are computed.
-/

namespace CtorScan
namespace Source

variable {π : Type}

/-- A variable of a function. -/
structure Var where
  /-- The number that tells it from others. -/
  id : Nat
  /-- Its name; empty for a parameter without one. -/
  name : String
  /-- Its type. -/
  type : Ty

instance : Inhabited Var := ⟨⟨0, "", default⟩⟩

/-- The method that a selection is about. -/
inductive MethodTarget where
  /-- A declared method, with the arguments of the type that it belongs to. -/
  | declared (function : Nat) (args : List Ty)
  /-- A method that an interface asks for. -/
  | required (owner : Ty) (name : MethodName)

/-- The path through embedded fields to what is selected; it is indirect if a
pointer is on the way. -/
structure Route where
  /-- The numbers of the fields. -/
  path : List Nat
  /-- Whether a pointer is on the way. -/
  indirect : Bool

mutual

/-- An expression with a meaning. -/
inductive Typed (π : Type) where
  /-- A constant.  One that connects truth values keeps how it was written. -/
  | constant (value : Constant) (type : Ty) (shape : Option (Typed π))
  /-- The value that stands for nothing, before its type is known. -/
  | nil
  /-- A variable of a function. -/
  | variable_ (var : Var)
  /-- A variable of a package. -/
  | global (index : Nat) (type : Ty)
  /-- A declared function with type arguments. -/
  | function (index : Nat) (args : List Ty) (type : Ty)
  /-- A function of the language, with the type it has in this place. -/
  | builtin (name : String) (type : Ty)
  /-- A function with its body. -/
  | closure (place : π) (type : Ty) (params results : List Var) (body : List (TypedStmt π))
  /-- A composite value of a type; elements of a pointer type stand for the address of
  the value. -/
  | composite (type : Ty) (elements : List (TypedElement π))
  /-- A field. -/
  | field (operand : Typed π) (route : Route) (type : Ty)
  /-- A method with the value that it is selected from. -/
  | methodValue (operand : Typed π) (target : MethodTarget) (route : Route) (type : Ty)
  /-- A method of a type, as a function of the receiver. -/
  | methodOf (receiver : Ty) (target : MethodTarget) (name : String) (type : Ty)
  /-- An element of something. -/
  | index (operand index : Typed π) (type : Ty)
  /-- A part of a sequence. -/
  | slice (operand : Typed π) (low high max : Option (Typed π)) (type : Ty)
  /-- An assertion of a type. -/
  | assertion (operand : Typed π) (type : Ty)
  /-- A conversion. -/
  | conversion (operand : Typed π) (type : Ty)
  /-- A call; the signature tells how arguments are passed. -/
  | call (function : Typed π) (signature : Ty) (place : π) (arguments : List (Typed π))
      (spread : Bool) (type : Ty)
  /-- What a pointer points to. -/
  | deref (operand : Typed π) (type : Ty)
  /-- An address. -/
  | address (operand : Typed π) (type : Ty)
  /-- An operation with one operand. -/
  | unary (operator : String) (operand : Typed π) (type : Ty)
  /-- An operation with two operands. -/
  | binary (operator : String) (left right : Typed π) (type : Ty)
  /-- Something that also tells whether it succeeded. -/
  | checked (inner : Typed π) (type : Ty)

/-- An element of a composite value. -/
inductive TypedElement (π : Type) where
  /-- At a position, or the field with a number. -/
  | at (index : Nat) (value : Typed π)
  /-- Under a key of a map. -/
  | under (key value : Typed π)

/-- The target of an assignment. -/
inductive TypedTarget (π : Type) where
  /-- Nothing. -/
  | blank
  /-- A variable that starts here. -/
  | fresh (var : Var)
  /-- Something that exists. -/
  | existing (target : Typed π)

/-- A statement with a meaning. -/
inductive TypedStmt (π : Type) where
  /-- An expression; the flag says that it stands there without brackets. -/
  | expression (value : Typed π) (bare : Bool)
  /-- Sending a value on a channel. -/
  | send (channel value : Typed π)
  /-- Adding or subtracting one. -/
  | step (target : Typed π) (upwards : Bool)
  /-- Assignments, all values before all targets. -/
  | assign (targets : List (TypedTarget π)) (values : List (Typed π))
  /-- Declared variables with their first values. -/
  | declare (targets : List (TypedTarget π)) (values : List (Typed π))
  /-- An assignment after an operation. -/
  | update (target : Typed π) (operator : String) (value : Typed π)
  /-- A call on the side. -/
  | spawn (place : π) (call : Typed π)
  /-- A call at the end of the function. -/
  | postpone (place : π) (call : Typed π)
  /-- The end of the function. -/
  | finish (results : List (Typed π))
  /-- A jump by its word, perhaps to a label. -/
  | jump (word : String) (label : Option String)
  /-- A block. -/
  | block (body : List (TypedStmt π))
  /-- A condition with one or two branches. -/
  | conditional (init : Option (TypedStmt π)) (condition : Typed π) (body : List (TypedStmt π))
      (other : Option (TypedStmt π))
  /-- A choice by a value. -/
  | choice (init : Option (TypedStmt π)) (tag : Option (Typed π)) (clauses : List (TypedClause π))
  /-- A choice by the type of a value. -/
  | typeChoice (init : Option (TypedStmt π)) (operand : Typed π) (clauses : List (TypeClause π))
  /-- A choice among communications. -/
  | select (clauses : List (TypedComm π))
  /-- A loop with a condition. -/
  | loop (init : Option (TypedStmt π)) (condition : Option (Typed π)) (post : Option (TypedStmt π))
      (body : List (TypedStmt π))
  /-- A loop over something. -/
  | range (place : π) (key value : TypedTarget π) (operand : Typed π) (body : List (TypedStmt π))
  /-- A statement with a label. -/
  | labeled (label : String) (body : TypedStmt π)
  /-- Nothing. -/
  | empty

/-- A clause of a choice by a value; the default has no values. -/
inductive TypedClause (π : Type) where
  /-- The values and the body. -/
  | mk (isDefault : Bool) (values : List (Typed π)) (body : List (TypedStmt π))

/-- A clause of a choice by type; an absent type is that of nothing. -/
inductive TypeClause (π : Type) where
  /-- The types, the variable for the value and the body. -/
  | mk (isDefault : Bool) (types : List (Option Ty)) (binder : Option Var)
      (body : List (TypedStmt π))

/-- A clause of a choice among communications. -/
inductive TypedComm (π : Type) where
  /-- No communication is ready. -/
  | default (body : List (TypedStmt π))
  /-- Sending a value. -/
  | send (channel value : Typed π) (body : List (TypedStmt π))
  /-- Receiving a value into targets. -/
  | receive (value : Typed π) (targets : List (TypedTarget π)) (body : List (TypedStmt π))

end

instance : Inhabited (Typed π) := ⟨.nil⟩

instance : Inhabited (TypedStmt π) := ⟨.empty⟩

namespace Typed

/-- The type of an expression. -/
def type : Typed π -> Ty
  | constant _ type _ => type
  | nil => .basic .untypedNil
  | variable_ var => var.type
  | global _ type => type
  | function _ _ type => type
  | builtin _ type => type
  | closure _ type _ _ _ => type
  | composite type _ => type
  | field _ _ type => type
  | methodValue _ _ _ type => type
  | methodOf _ _ _ type => type
  | index _ _ type => type
  | slice _ _ _ _ type => type
  | assertion _ type => type
  | conversion _ type => type
  | call _ _ _ _ _ type => type
  | deref _ type => type
  | address _ type => type
  | unary _ _ type => type
  | binary _ _ _ type => type
  | checked _ type => type

/-- The operators that compare. -/
def comparisons : List String := ["==", "!=", "<", "<=", ">", ">="]

/-- The operators that shift. -/
def shifts : List String := ["<<", ">>"]

/-- Give an expression without a type of its own its final type.  Operands get it
too, except those of comparisons and the count of a shift. -/
def retype (type : Ty) : Typed π -> Typed π
  | constant value _ shape => constant value type shape
  | unary operator operand old => if isOld old then
      unary operator (retype type operand) type else unary operator operand old
  | binary operator left right old =>
      if !isOld old then
        binary operator left right old
      else if comparisons.contains operator then
        binary operator left right type
      else if shifts.contains operator then
        binary operator (retype type left) right type
      else
        binary operator (retype type left) (retype type right) type
  | other => other
where
  /-- The type is not final. -/
  isOld : Ty -> Bool
    | .node (.basic basic) _ => basic.isUntyped
    | _ => false

end Typed

/-- A declared function whose meaning is known. -/
structure TypedFunction (π : Type) where
  /-- The number of its declaration. -/
  index : Nat
  /-- The place of its name. -/
  place : π
  /-- Its receiver. -/
  receiver : Option Var
  /-- Its parameters. -/
  params : List Var
  /-- Its results. -/
  results : List Var
  /-- Its body, if it has one. -/
  body : Option (List (TypedStmt π))

/-- The first values of variables of a package. -/
structure Initializer (π : Type) where
  /-- The variables; an absent one has no name. -/
  targets : List (Option Nat)
  /-- The value. -/
  value : Typed π

/-- A package whose meaning is known. -/
structure TypedPackage (π : Type) where
  /-- Its path. -/
  path : String
  /-- The paths of the packages it uses, in order. -/
  imports : List String
  /-- Its functions and methods, in order. -/
  functions : List (TypedFunction π)
  /-- The first values of its variables, in the order in which they are computed. -/
  initializers : List (Initializer π)

end Source
end CtorScan
