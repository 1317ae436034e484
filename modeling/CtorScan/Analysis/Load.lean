import CtorScan.Flow.Lowering
import CtorScan.Flow.Package
import CtorScan.Source.Checking.Package
import CtorScan.Source.Reading.File

/-!
# Loading packages

A package is loaded after the packages that it uses: its files are read, it is checked,
and its functions become functions of a program.
-/

namespace CtorScan
namespace Analysis

open Source

/-- A package in writing. -/
structure PackageText where
  /-- Its path. -/
  path : String
  /-- The names and the texts of its files. -/
  files : List (String × String)

/-- Why a package is not loaded. -/
inductive LoadError where
  /-- A file is not well formed. -/
  | malformed
  /-- The files do not make a package that means something. -/
  | meaningless
deriving DecidableEq

/-- What is known about the packages that are loaded. -/
structure Library where
  /-- All declarations. -/
  env : Env
  /-- What the packages offer. -/
  packages : List PackageScope
  /-- The functions that never return. -/
  endless : List Nat

/-- A package that is read and checked. -/
structure CheckedFiles where
  /-- Its files. -/
  files : List File
  /-- Its meaning, with places in these files. -/
  package : TypedPackage (Place files)
  /-- What is known then. -/
  library : Library

namespace Library

/-- No packages are loaded. -/
def empty : Library := ⟨Env.initial, [], []⟩

/-- Read and check a package. -/
def check (library : Library) (text : PackageText) : Except LoadError CheckedFiles :=
  match ReadFiles.ofTexts? text.files with
  | none => .error .malformed
  | some ⟨files, trees⟩ =>
      let depth := totalSize files + 16
      match checkPackage? library.env library.packages text.path depth trees with
      | none => .error .meaningless
      | some ⟨package, scope, env⟩ =>
          .ok ⟨files, package, env, library.packages ++ [scope],
            Flow.Endless.ofPackage env depth library.endless package⟩

/-- Read and check packages one after the other. -/
def checkAll (library : Library) : List PackageText -> Except LoadError Library
  | [] => .ok library
  | text :: rest => do
      let checked <- library.check text
      checked.library.checkAll rest

end Library

/-- A package whose functions are known. -/
structure LoadedPackage where
  /-- Its files. -/
  files : List File
  /-- All declarations. -/
  env : Env
  /-- Its functions, with places in these files. -/
  functions : Flow.Functions (Place files)

/-- Load a package after those that it uses. -/
def load (used : List PackageText) (text : PackageText) : Except LoadError LoadedPackage := do
  let library <- Library.empty.checkAll used
  let ⟨files, package, after⟩ <- library.check text
  match Flow.functions? after.env after.endless (4 * totalSize files + 64) package with
  | none => .error .meaningless
  | some functions => .ok ⟨files, after.env, functions⟩

namespace LoadedPackage

/-- The functions of a package as functions of a program, whose calls refer to
declarations by number. -/
def lowered (package : LoadedPackage) : List (Function Nat) × Flow.Declarations :=
  Flow.lowerAll package.env Subtype.val package.functions.all .none

/-- The functions of a package as functions of a program, whose calls carry the
declarations. -/
def resolved (package : LoadedPackage) : List (Function Signature) :=
  let (functions, declarations) := package.lowered
  functions.map (Function.mapCallee declarations.get?)

end LoadedPackage

/-- The functions of a package for a program, none if they were not made. -/
def loweredOf : Option LoadedPackage -> List (Function Nat) × Flow.Declarations
  | none => ([], .none)
  | some package => package.lowered

end Analysis
end CtorScan
