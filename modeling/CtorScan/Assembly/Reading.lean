import CtorScan.Assembly.Resolve
import CtorScan.Text.Search

/-!
# Programs from assembly

A text that is refused is blamed on the untyped pointer type when a line names
that type outside a comment.
-/

namespace CtorScan
namespace Assembly

/-- Why a text gives no program. -/
inductive ReadError where
  /-- The text is not well formed, or a name in it is not defined. -/
  | malformed (name : String)
  /-- The text uses the untyped pointer type. -/
  | untypedPointer (name : String)
deriving DecidableEq

/-- The wording of an error, where the words for what is wrong with the text are given. -/
def ReadError.message (words : String) : ReadError -> String
  | .malformed name => "parse " ++ name ++ ": " ++ words
  | .untypedPointer name =>
      "parse " ++ name ++
        ": opaque pointer IR is not supported, only typed pointers (T*)"

/-- A letter, a digit or an underscore. -/
def isWordChar (c : Char) : Bool :=
  c.isAlphanum || c == '_'

/-- A character that may stand before the word for the pointer type. -/
def mayPrecede (c : Char) : Bool :=
  !(c == '%' || c == '@' || c == '$' || c == '.' || isWordChar c)

/-- A character that may stand after the word for the pointer type. -/
def mayFollow (c : Char) : Bool :=
  !(c == '.' || isWordChar c)

/-- The word for the pointer type stands somewhere in a line, of which the
character before is given. -/
def namesPointer : Option Char -> List Char -> Bool
  | _, [] => false
  | previous, c :: rest =>
      ((previous.all mayPrecede) &&
        (match Text.afterStart? "ptr".toList (c :: rest) with
          | some after => after.head?.all mayFollow
          | none => false)) || namesPointer (some c) rest

/-- The code of a line: what stands before its comment. -/
def codeOf (line : List Char) : List Char :=
  line.takeWhile (· != ';')

/-- Some line names the pointer type outside its comment. -/
def blamesPointer (text : String) : Bool :=
  (Text.lines text).any fun line => namesPointer none (codeOf line)

/-- The program of a text with a name, which is that of the program unless the
text gives another one. -/
def programOfText
    (name text : String) : Except ReadError Program :=
  match Module.ofText? text with
  | some module =>
      let program := module.toProgram
      .ok (if program.name = "" then { program with name := name } else program)
  | none =>
      .error (if blamesPointer text then .untypedPointer name else .malformed name)

end Assembly
end CtorScan
