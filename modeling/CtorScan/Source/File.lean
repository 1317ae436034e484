import CtorScan.Directive.Ledger
import CtorScan.Source.Lexeme

/-!
# Source files

A source file is a text that is cut into tokens and comments, and its tokens are inside of
it.  The files of a package are numbered through.  A place in them is a number that belongs
to one of them, so that nothing else can be said to be at a place of the package.
-/

namespace CtorScan
namespace Source

/-- A source file. -/
structure File where
  /-- Its tokens, in order. -/
  tokens : List (Lexeme Nat)
  /-- Its comments, in order. -/
  comments : List Comment
  /-- Its layout. -/
  chart : Chart
  /-- The tokens are in the file. -/
  inside : ∀ lexeme ∈ tokens, chart.contains lexeme.place = true

namespace File

/-- The file of a text that is cut. -/
def ofScanned? (scanned : Scanned) : Option File :=
  let tokens := scanned.tokens.reverse
  if inside : ∀ lexeme ∈ tokens, scanned.chart.contains lexeme.place = true then
    some ⟨tokens, scanned.comments.reverse, scanned.chart, inside⟩
  else
    none

/-- The file with a name and a text, whose first byte has a place. -/
def ofText?
    (name : String)
    (base : Nat)
    (text : String) : Option File :=
  (scanText? name base text).bind ofScanned?

/-- The place of its first word. -/
def place (file : File) : Nat :=
  (file.tokens.head?.map Lexeme.place).getD 0

/-- The position of its first word. -/
def position (file : File) : Position :=
  file.chart.positionOf file.place

end File

/-! ## Comments -/

/-- The line says that a file is generated. -/
def saysGenerated (line : List Char) : Bool :=
  match Text.afterStart? "// Code generated ".toList line with
  | none => false
  | some rest => " DO NOT EDIT.".toList.isSuffixOf rest

namespace File

/-- The file is generated: some line of a comment before its first word says
so. -/
def isGenerated (file : File) : Bool :=
  (file.comments.filter fun comment => comment.place ≤ file.place).any fun comment =>
    (Text.lines comment.text).any saysGenerated

/-- A comment of a file as the ledger wants it: it counts for the line that it is
reported at. -/
def entry
    (file : File)
    (comment : Comment) : Directive.Ledger.Comment :=
  ⟨comment.text, comment.place, (file.chart.positionOf comment.place).line⟩

/-- The directives of a file. -/
def directives (file : File) : Directive.Ledger :=
  .ofComments (file.comments.map file.entry)

end File

/-! ## The files of a package -/

/-- The files with their names and texts, numbered through. -/
def filesOfTexts?
    (base : Nat) : List (String × String) -> Option (List File)
  | [] => some []
  | (name, text) :: rest => do
      let file <- File.ofText? name base text
      let others <- filesOfTexts? (base + text.utf8ByteSize + 1) rest
      return file :: others

/-- The bytes of all files. -/
def totalSize (files : List File) : Nat :=
  files.foldl (fun sum file => sum + file.chart.size) 0

/-- A place in one of some files. -/
def Place (files : List File) : Type :=
  { place : Nat // ∃ file ∈ files, file.chart.contains place = true }

/-- The tokens of one of some files, at their places in these. -/
def File.lexemes
    {files : List File}
    (file : File)
    (member : file ∈ files) : List (Lexeme (Place files)) :=
  file.tokens.attach.map fun ⟨lexeme, among⟩ =>
    ⟨lexeme.token, lexeme.place, file, member, file.inside lexeme among⟩

end Source
end CtorScan
