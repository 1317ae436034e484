import CtorScan.Flow.Graph
import CtorScan.Source.Type.Identity
import CtorScan.Source.Type.Text

/-!
# Functions and their names

The functions that calls can be resolved to: declared functions with or without type
arguments, functions inside of others, and those made for methods that are used as
values.
-/

namespace CtorScan
namespace Flow
namespace Routine

open Source

variable {π : Type}

/-- Arguments between square brackets, if there are any. -/
def argumentsText (env : Env) (args : List Ty) : String :=
  if args.isEmpty then "" else "[" ++ String.intercalate " " (env.textAll args) ++ "]"

/-- A name after the type of its receiver. -/
def afterReceiver (env : Env) (receiver : Ty) (label : String) : String :=
  "(" ++ env.text receiver ++ ")." ++ label

/-- The function runs by itself when its package is loaded. -/
def runsAtStart (callable : Callable) : Bool :=
  callable.name == "init" && callable.receiver.isNone

/-- The short name of a declared function; those that run by themselves are
numbered. -/
def declaredLabel (env : Env) (function : Nat) : String :=
  let callable := env.callable function
  if runsAtStart callable then
    let before := env.functions.toList.take (function + 1)
    let count := (before.filter fun other =>
      runsAtStart other && other.package == callable.package).length
    "init#" ++ toString count
  else
    callable.name

/-- The type of the receiver of a method of a type with arguments. -/
def receiverType (callable : Callable) (args : List Ty) (receiver : Receiver) : Ty :=
  (receiver.type callable.typeParams).instantiate callable.typeParams args

/-- A declared function with type arguments; a generic function without any is meant
itself. -/
def declared (env : Env) (function : Nat) (args : List Ty) : Routine :=
  let callable := env.callable function
  let label := declaredLabel env function ++ argumentsText env args
  let given := if args.isEmpty then callable.typeParams.map Ty.param else args
  let receiver := callable.receiver.map fun receiver =>
    (receiver.name, receiverType callable given receiver)
  let type := callable.signature.type.instantiate callable.typeParams given
  { key := .declared function (args.map env.plain)
    name :=
      match receiver with
      | some (_, type) => afterReceiver env type label
      | none => Env.qualified callable.package label
    label := label
    receiver := receiver
    signature := (Source.Signature.ofType? type).getD default
    subject := if args.isEmpty || receiver.isNone then some function else none }

/-- A method of a type with arguments.  Where the arguments are its own parameters, it
is meant itself. -/
def method (env : Env) (function : Nat) (args : List Ty) : Routine :=
  let own := (env.callable function).typeParams.map Ty.param
  declared env function (if args == own then [] else args)

/-- The type of the receiver of the method that a selection is about. -/
def targetReceiver (env : Env) : MethodTarget -> Ty
  | .declared function args =>
      let callable := env.callable function
      (callable.receiver.map (receiverType callable args)).getD default
  | .required owner _ => owner

/-- The name of the method that a selection is about. -/
def targetName (env : Env) : MethodTarget -> String
  | .declared function _ => (env.callable function).name
  | .required _ name => name.name

/-- The declared function that a selection is about; methods of types with arguments
count as functions of their own. -/
def targetSubject (env : Env) : MethodTarget -> Option Nat
  | .declared function _ =>
      if (env.callable function).typeParams.isEmpty then some function else none
  | .required _ _ => none

/-- The name of the receiver in the declaration of a method. -/
def targetReceiverName (env : Env) : MethodTarget -> String
  | .declared function _ => ((env.callable function).receiver.map Receiver.name).getD ""
  | .required _ _ => ""

/-- A method as a function of its receiver. -/
def unbound
    (env : Env)
    (number : Nat)
    (receiver : Ty)
    (target : MethodTarget)
    (type : Ty) : Routine :=
  let label := targetName env target ++ "$thunk"
  let signature := (Source.Signature.ofType? type).getD default
  { key := .wrapper number
    name := afterReceiver env receiver label
    label := label
    receiver := none
    signature :=
      { signature with
        params := (targetReceiverName env target, receiver) :: signature.params.tail }
    subject := targetSubject env target }

/-- A method that is fixed to a receiver. -/
def bound (env : Env) (number : Nat) (target : MethodTarget) (type : Ty) : Routine :=
  let label := targetName env target ++ "$bound"
  { key := .wrapper number
    name := afterReceiver env (targetReceiver env target) label
    label := label
    receiver := none
    signature := (Source.Signature.ofType? type).getD default
    subject := targetSubject env target }

/-- The function inside of another one with a number. -/
def inside (outer : Routine) (number : Nat) (signature : Source.Signature) : Routine :=
  let ending := "$" ++ toString number
  { key := .closure outer.key number
    name := outer.name ++ ending
    label := outer.label ++ ending
    receiver := none
    signature := signature
    subject := none }

/-- The function that gives the variables of a package their first values. -/
def start (package : String) : Routine :=
  { key := .start package
    name := Env.qualified package "init"
    label := "init"
    receiver := none
    signature := default
    subject := none }

end Routine
end Flow
end CtorScan
