import CtorScan.Source.Lexeme

/-!
# Source files as trees

Expressions and types share one kind of tree, since only their use tells them
apart.  A place is kept where something that can be reported starts.
-/

namespace CtorScan
namespace Source

variable {π : Type}

/-- A name at its place. -/
structure Name (π : Type) where
  /-- The name. -/
  text : String
  /-- The place of its first byte. -/
  place : π

/-- The name that stands for nothing. -/
def Name.isBlank (name : Name π) : Bool :=
  name.text == "_"

/-- What can be done with a channel. -/
inductive ChannelUse where
  /-- Sending and receiving. -/
  | both
  /-- Sending only. -/
  | send
  /-- Receiving only. -/
  | receive
deriving DecidableEq

/-- The kinds of written values. -/
inductive LiteralKind where
  /-- A whole number. -/
  | integer
  /-- A number with a fraction or an exponent. -/
  | decimal
  /-- An imaginary number. -/
  | imaginary
  /-- A character. -/
  | char
  /-- A text. -/
  | string
deriving DecidableEq

mutual

/-- An expression or a type. -/
inductive Expr (π : Type) where
  /-- A name. -/
  | name (name : Name π)
  /-- A written value. -/
  | literal (kind : LiteralKind) (text : String)
  /-- Three dots, perhaps with a type after them. -/
  | dots (type : Option (Expr π))
  /-- A function with its body; the place is that of its first word. -/
  | function (place : π) (type : FunctionType π) (body : List (Stmt π))
  /-- The elements of a composite value; inner ones may leave their type out. -/
  | composite (type : Option (Expr π)) (elements : List (Expr π))
  /-- Something in round brackets. -/
  | paren (inner : Expr π)
  /-- A selection by a name. -/
  | selector (operand : Expr π) (field : Name π)
  /-- Something with indices or type arguments. -/
  | index (operand : Expr π) (indices : List (Expr π))
  /-- A part of a sequence; the flag says whether there are two colons. -/
  | slice (operand : Expr π) (low high max : Option (Expr π)) (full : Bool)
  /-- An assertion of a type, which is absent in the head of a type switch. -/
  | assertion (operand : Expr π) (type : Option (Expr π))
  /-- A call or conversion; the place is that of the opening bracket. -/
  | call (function : Expr π) (place : π) (arguments : List (Expr π)) (spread : Bool)
  /-- What a pointer points to, or a pointer type. -/
  | star (operand : Expr π)
  /-- An operation with one operand. -/
  | unary (operator : String) (operand : Expr π)
  /-- An operation with two operands. -/
  | binary (operator : String) (left right : Expr π)
  /-- An element of a composite value with its key. -/
  | keyed (key value : Expr π)
  /-- The type of arrays of some length, or of slices. -/
  | arrayType (length : Option (Expr π)) (element : Expr π)
  /-- The type of structures. -/
  | structType (fields : List (FieldDecl π))
  /-- The type of functions. -/
  | functionType (type : FunctionType π)
  /-- The type of values with some methods. -/
  | interfaceType (elements : List (InterfaceElement π))
  /-- The type of maps. -/
  | mapType (key value : Expr π)
  /-- The type of channels. -/
  | channelType (channelUse : ChannelUse) (element : Expr π)

/-- Type parameters, parameters and results of a function. -/
inductive FunctionType (π : Type) where
  /-- All three. -/
  | mk (typeParams params results : List (Param π))

/-- A parameter, with or without a name. -/
inductive Param (π : Type) where
  /-- A name and a type. -/
  | mk (name : Option (Name π)) (type : Expr π)

/-- Fields of a structure with a type in common; no name for an embedded one. -/
inductive FieldDecl (π : Type) where
  /-- Names, a type, and the note after them. -/
  | mk (names : List (Name π)) (type : Expr π) (tag : Option String)

/-- An element of an interface. -/
inductive InterfaceElement (π : Type) where
  /-- A method. -/
  | method (name : Name π) (type : FunctionType π)
  /-- An embedded type. -/
  | embedded (type : Expr π)

/-- A statement. -/
inductive Stmt (π : Type) where
  /-- Nothing. -/
  | empty
  /-- An expression. -/
  | expression (value : Expr π)
  /-- Sending a value on a channel. -/
  | send (channel value : Expr π)
  /-- Adding or subtracting one. -/
  | step (operand : Expr π) (upwards : Bool)
  /-- An assignment by one of its operators. -/
  | assign (targets : List (Expr π)) (operator : String) (values : List (Expr π))
  /-- A call on the side. -/
  | spawn (place : π) (call : Expr π)
  /-- A call at the end of the function. -/
  | postpone (place : π) (call : Expr π)
  /-- The end of the function. -/
  | finish (results : List (Expr π))
  /-- A jump by its word, perhaps to a label. -/
  | jump (word : String) (label : Option (Name π))
  /-- A block. -/
  | block (body : List (Stmt π))
  /-- A condition with one or two branches. -/
  | conditional (init : Option (Stmt π)) (condition : Expr π) (body : List (Stmt π))
      (other : Option (Stmt π))
  /-- A choice by a value. -/
  | choice (init : Option (Stmt π)) (tag : Option (Expr π)) (clauses : List (Clause π))
  /-- A choice by the type of a value. -/
  | typeChoice (init : Option (Stmt π)) (binder : Option (Name π)) (operand : Expr π)
      (clauses : List (Clause π))
  /-- A choice among communications. -/
  | select (clauses : List (CommClause π))
  /-- A loop with a condition. -/
  | loop (init : Option (Stmt π)) (condition : Option (Expr π)) (post : Option (Stmt π))
      (body : List (Stmt π))
  /-- A loop over something; the place is that of its first word. -/
  | range (place : π) (key value : Option (Expr π)) (defines : Bool) (operand : Expr π)
      (body : List (Stmt π))
  /-- A statement with a label. -/
  | labeled (label : Name π) (body : Stmt π)
  /-- A declaration. -/
  | declare (declaration : Declaration π)

/-- A clause of a choice; one without expressions may be the default. -/
inductive Clause (π : Type) where
  /-- Whether it is the default, its expressions and its body. -/
  | mk (isDefault : Bool) (cases : List (Expr π)) (body : List (Stmt π))

/-- A clause of a choice among communications; the default has none. -/
inductive CommClause (π : Type) where
  /-- The communication and the body. -/
  | mk (communication : Option (Stmt π)) (body : List (Stmt π))

/-- A declaration of constants, variables or types. -/
inductive Declaration (π : Type) where
  /-- Constants. -/
  | constants (specs : List (ValueSpec π))
  /-- Variables. -/
  | values (specs : List (ValueSpec π))
  /-- Types. -/
  | types (specs : List (TypeSpec π))

/-- Names with a type and values, either of which may be left out. -/
inductive ValueSpec (π : Type) where
  /-- Names, type and values. -/
  | mk (names : List (Name π)) (type : Option (Expr π)) (values : List (Expr π))

/-- A name for a type. -/
inductive TypeSpec (π : Type) where
  /-- The name, its type parameters, whether it is another name only, and the
  type. -/
  | mk (name : Name π) (typeParams : List (Param π)) (isAlias : Bool) (type : Expr π)

end

instance : Inhabited (Expr π) := ⟨.dots none⟩

instance : Inhabited (Stmt π) := ⟨.empty⟩

instance : Inhabited (FunctionType π) := ⟨.mk [] [] []⟩

/-- The name of a parameter. -/
def Param.name? : Param π -> Option (Name π)
  | .mk name _ => name

/-- The type of a parameter. -/
def Param.type : Param π -> Expr π
  | .mk _ type => type

/-- Something without the round brackets around it. -/
def Expr.unparen : Expr π -> Expr π
  | .paren inner => inner.unparen
  | other => other

/-- A declared function or method. -/
structure FunctionDecl (π : Type) where
  /-- Its name. -/
  name : Name π
  /-- The parameters before the name of a method; none for a function. -/
  receiver : Option (List (Param π))
  /-- Its type. -/
  type : FunctionType π
  /-- Its body, if it is given. -/
  body : Option (List (Stmt π))

/-- A declared use of another package. -/
structure Import where
  /-- The name for it in the file; a dot stands for no name at all. -/
  name : Option String
  /-- The path of the package. -/
  path : String

/-- A declaration of a file. -/
inductive TopLevel (π : Type) where
  /-- Constants, variables or types. -/
  | declare (declaration : Declaration π)
  /-- A function. -/
  | function (function : FunctionDecl π)

/-- What a source file says. -/
structure FileTree (π : Type) where
  /-- The name of its package. -/
  packageName : String
  /-- What it uses. -/
  imports : List Import
  /-- What it declares, in order. -/
  declarations : List (TopLevel π)

end Source
end CtorScan
