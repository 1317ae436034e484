import CtorScan.Constructor.Kind
import CtorScan.Text.Search

/-!
# Comments that suppress findings

A line comment whose text starts with the directive word suppresses findings on
its own line and on the next one.  It may list kinds, separated by commas, and
may end with a reason after a dash or with a further comment.
-/

namespace CtorScan
namespace Directive

/-- The word that makes a comment a directive. -/
def word : String := "implicitctor:ignore"

/-- What a directive says: the kinds it lists, or that it lists none. -/
abbrev Listed := Option (List String)

/-- The kinds of a directive, none when it stands for every kind. -/
def kinds (listed : Listed) : List String :=
  listed.getD []

/-- The text of a comment after the directive word, if that word is there and
ends there. -/
def body? (comment : List Char) : Option (List Char) :=
  let opened := (Text.afterStart? ['/', '/'] comment).getD comment
  match Text.afterStart? word.toList (Text.trim opened) with
  | none => none
  | some [] => some []
  | some (c :: rest) => if c = ' ' then some (c :: rest) else none

/-- The text without a reason or a further comment at its end. -/
def withoutReason (body : List Char) : List Char :=
  Text.trim (Text.before [' ', '/', '/'] (Text.before [' ', '-', ' '] body))

/-- The names in a list that is separated by commas; empty ones do not count. -/
def names (list : List Char) : List String :=
  ((Text.splitAt ',' list).map fun part => String.ofList (Text.trim part)).filter
    fun name => name ≠ ""

/-- The directive in a comment, if the comment is one. -/
def ofComment? (comment : String) : Option Listed :=
  (body? comment.toList).map fun body =>
    let list := withoutReason body
    if list = [] ∨ list = ['-'] then none else some (names list)

/-- The names of kinds that a directive can usefully list. -/
def knownKinds : List String :=
  Kind.named.map Kind.shortName

end Directive
end CtorScan
