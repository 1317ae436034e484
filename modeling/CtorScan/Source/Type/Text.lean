import CtorScan.Source.Constant
import CtorScan.Source.Type.Environment

/-!
# Types in writing

Declared types are written with the path of their package.
-/

namespace CtorScan
namespace Source
namespace Env

/-- A declared name with the path of its package before it. -/
def qualified (package name : String) : String :=
  if package == "" then name else package ++ "." ++ name

/-- A declared type with its written arguments. -/
def namedText (env : Env) (declaration : Nat) (args : List String) : String :=
  let declared := env.typeDecl declaration
  let name := qualified declared.package declared.name
  if args.isEmpty then name else name ++ "[" ++ String.intercalate "," args ++ "]"

/-- A written type after its name, if there is one. -/
def besideName (name text : String) : String :=
  if name == "" then text else name ++ " " ++ text

/-- The last parameter of a function that takes any number of arguments. -/
def spreadText : Ty -> String -> String
  | .node .slice _, text => "..." ++ (text.drop 2).toString
  | _, text => text ++ "..."

/-- Written types between round brackets. -/
def bracketed (texts : List String) : String :=
  "(" ++ String.intercalate ", " texts ++ ")"

/-- Parameters between brackets; the last one may take any number of arguments. -/
def parametersText
    (variadic : Bool)
    (names : List String)
    (types : List Ty)
    (texts : List String) : String :=
  let texts :=
    if variadic then
      match types.getLast?, texts.getLast? with
      | some type, some text => texts.dropLast ++ [spreadText type text]
      | _, _ => texts
    else
      texts
  bracketed ((names.zip texts).map fun (name, text) => besideName name text)

/-- Parameters and results. -/
def signatureText
    (params results : List String)
    (variadic : Bool)
    (types : List Ty)
    (texts : List String) : String :=
  let head :=
    parametersText variadic params (types.take params.length) (texts.take params.length)
  match results, texts.drop params.length with
  | [], _ => head
  | [""], [text] => head ++ " " ++ text
  | names, others =>
      head ++ " " ++ bracketed ((names.zip others).map fun (name, text) => besideName name text)

/-- A field of a structure. -/
def fieldText (field : FieldInfo) (text : String) : String :=
  let plain := if field.embedded then text else field.name ++ " " ++ text
  match field.tag with
  | none => plain
  | some [] => plain
  | some tag => plain ++ " " ++ Constant.quoteBytes tag

/-- Something between curly brackets after a word. -/
def braced (word : String) (parts : List String) : String :=
  word ++ "\x7b" ++ String.intercalate "; " parts ++ "\x7d"

/-- The type is that of channels from which one can only receive. -/
def isReceiver : Ty -> Bool
  | .node (.channel .receive) _ => true
  | _ => false

mutual

/-- A type in writing. -/
def text (env : Env) : Ty -> String
  | .node head children =>
      let texts := textAll env children
      let first := texts.headD ""
      match head with
      | .basic basic => basic.name
      | .named declaration => env.namedText declaration texts
      | .synonym declaration => env.namedText declaration texts
      | .param id => (env.paramDecl id).name
      | .pointer => "*" ++ first
      | .slice => "[]" ++ first
      | .array length => "[" ++ toString length ++ "]" ++ first
      | .map => "map[" ++ first ++ "]" ++ (texts.drop 1).headD ""
      | .channel .both =>
          if children.any isReceiver then "chan (" ++ first ++ ")" else "chan " ++ first
      | .channel .send => "chan<- " ++ first
      | .channel .receive => "<-chan " ++ first
      | .struct fields => braced "struct" ((fields.zip texts).map fun (f, t) => fieldText f t)
      | .tuple => bracketed texts
      | .func params results variadic =>
          "func" ++ signatureText params results variadic children texts
      | .interface methods comparable implicit =>
          if comparable then
            braced "interface" ["comparable"]
          else if implicit && methods.isEmpty && texts.length == 1 then
            first
          else
            let listed := (methods.zip texts).map fun (m, t) => m.name ++ (t.drop 4).toString
            braced "interface" (listed ++ texts.drop methods.length)
      | .union tildes =>
          String.intercalate " | "
            ((tildes.zip texts).map fun (tilde, t) => if tilde then "~" ++ t else t)

/-- Several types in writing. -/
def textAll (env : Env) : List Ty -> List String
  | [] => []
  | type :: types => text env type :: textAll env types

end

end Env
end Source
end CtorScan
