import CtorScan.Source.File
import CtorScan.Source.Reading.Statement
import CtorScan.Text.Printable

/-!
# Reading source files
-/

namespace CtorScan
namespace Source
namespace Readers

open Parse

variable {π : Type}

/-! ## Imports -/

/-- The characters that no path of a package may have. -/
def illegalInPath : List Char :=
  Text.replacement :: rawQuote ::
    ['!', '"', '#', '$', '%', '&', '\'', '(', ')', '*', ',', ':', ';', '<', '=', '>', '?',
     '[', '\\', ']', '^', '\x7b', '|', '\x7d']

/-- The path of a package from its written form. -/
def packagePath? (written : String) : Option String :=
  (stringBytes? written).bind fun bytes =>
    let path := Text.charsOfBytes bytes
    if !path.isEmpty &&
        path.all fun c => c != ' ' && Text.isPrintable c && !illegalInPath.contains c then
      some (String.ofList path)
    else
      none

/-- A declared use of another package. -/
def importSpec : Parse π Import := do
  let name <-
    if <- atName then
      (fun name => some name.text) <$> name
    else if <- acceptSymbol "." then
      pure (some ".")
    else
      pure none
  match <- token with
  | .string written =>
      match packagePath? written with
      | some path => return ⟨name, path⟩
      | none => failure
  | _ => failure

/-- The declared uses of other packages. -/
def imports : Parse π (List Import) := do
  let groups <- many do
    if <- acceptKeyword "import" then return some (<- group importSpec) else return none
  return groups.flatten

/-! ## Functions -/

/-- A declared function or method after its first word. -/
def functionDeclRest (readers : Readers π) : Parse π (FunctionDecl π) := do
  let receiver <- if <- atSymbol "(" then some <$> readers.params else pure none
  let declared <- name
  let typeParams <- readers.typeParams
  if receiver.isSome && !typeParams.isEmpty then failure
  let params <- readers.params
  let results <- readers.results
  let body <- if <- atSymbol "\x7b" then some <$> readers.block else pure none
  semicolon
  if body.isNone && (<- atSymbol "\x7b") then failure
  return ⟨declared, receiver, .mk typeParams params results, body⟩

/-- A declaration of a file, if one comes next. -/
def topLevel? (readers : Readers π) : Parse π (Option (TopLevel π)) := do
  match <- peek with
  | none => return none
  | some (.keyword "func") =>
      keyword "func"
      return some (.function (<- readers.functionDeclRest))
  | _ =>
      match <- readers.declaration? with
      | some declaration => return some (.declare declaration)
      | none => failure

/-- The clause that names the package. -/
def packageClause : Parse π String := do
  keyword "package"
  let declared <- name
  semicolon
  if declared.isBlank then failure else return declared.text

/-- A whole file without its comments. -/
def file (readers : Readers π) : Parse π (FileTree π) := do
  let packageName <- packageClause
  let imports <- imports
  let declarations <- many readers.topLevel?
  return ⟨packageName, imports, declarations⟩

end Readers

/-- What the tokens of a file say. -/
def FileTree.ofTokens? (tokens : List (Lexeme π)) : Option (FileTree π) :=
  let readers := Readers.upTo (tokens.length + 8)
  (readers.file.run tokens).map Prod.fst

/-- Files and what they say, with places in these files. -/
structure ReadFiles where
  /-- The files. -/
  files : List File
  /-- What they say. -/
  trees : List (FileTree (Place files))

namespace ReadFiles

/-- What files say. -/
def treesOf? (files : List File) : Option (List (FileTree (Place files))) :=
  files.attach.mapM fun ⟨file, member⟩ => FileTree.ofTokens? (file.lexemes member)

/-- Read the files with some names and texts. -/
def ofTexts? (texts : List (String × String)) : Option ReadFiles := do
  let files <- filesOfTexts? 1 texts
  let trees <- treesOf? files
  return ⟨files, trees⟩

end ReadFiles

end Source
end CtorScan
