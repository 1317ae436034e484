import CtorScan.Flow.Lowering
import CtorScan.Flow.Package
import Mathlib.Data.List.Forall2

/-!
# The order of the functions of a package

A function inside another one is reached by a path: which of the functions directly
inside to take, again and again.  Listing a function with those inside of it goes
through its paths in lexicographic order and takes each of them once.
-/

namespace CtorScan
namespace Flow
namespace Nested

variable {π : Type}

/-! ## Paths -/

/-- The function at the end of a path. -/
def at? (nested : Nested π) : List Nat -> Option (Made π)
  | [] => some nested.made
  | index :: path => nested.inner[index]?.bind fun inner => inner.at? path

/-- The function at the end of a path that starts in a list of functions. -/
def amongAt?
    (functions : List (Nested π)) : List Nat -> Option (Made π)
  | [] => none
  | index :: path => functions[index]?.bind fun nested => nested.at? path

/-- The path among functions when one more comes before them. -/
def laterPath : List Nat -> List Nat
  | [] => []
  | index :: path => (index + 1) :: path

mutual

/-- The paths to a function and to those inside of it. -/
def paths : Nested π -> List (List Nat)
  | ⟨_, _, _, inner⟩ => [] :: allPaths inner

/-- The paths to functions and to those inside of them. -/
def allPaths : List (Nested π) -> List (List Nat)
  | [] => []
  | nested :: rest => nested.paths.map (0 :: ·) ++ (allPaths rest).map laterPath

end

theorem amongAt?_laterPath
    (nested : Nested π)
    (rest : List (Nested π))
    (path : List Nat) :
    amongAt? (nested :: rest) (laterPath path) = amongAt? rest path := by
  cases path <;> rfl

theorem at?_eq_amongAt?
    {nested : Nested π}
    {path : List Nat}
    (inside : path ≠ []) :
    nested.at? path = amongAt? nested.inner path := by
  cases path with
  | nil => contradiction
  | cons index path => rfl

theorem ne_nil_of_mem_allPaths
    {functions : List (Nested π)}
    {path : List Nat}
    (member : path ∈ allPaths functions) :
    path ≠ [] := by
  induction functions generalizing path with
  | nil => simp [allPaths] at member
  | cons nested rest inductionHypothesis =>
      rw [allPaths, List.mem_append, List.mem_map, List.mem_map] at member
      rcases member with ⟨inner, -, rfl⟩ | ⟨later, among, rfl⟩
      · simp
      · have some := inductionHypothesis among
        cases later with
        | nil => contradiction
        | cons index path => simp [laterPath]

mutual

/-- The list of a function and those inside of it follows the paths. -/
theorem all_eq_filterMap (nested : Nested π) :
    nested.all = nested.paths.filterMap nested.at? := by
  obtain ⟨routine, place, graph, inner⟩ := nested
  rw [all, paths, List.filterMap_cons_some (by rfl), allOf_eq_filterMap inner]
  congr 1
  apply List.filterMap_congr
  intro path member
  rw [at?_eq_amongAt? (ne_nil_of_mem_allPaths member)]

theorem allOf_eq_filterMap (functions : List (Nested π)) :
    allOf functions = (allPaths functions).filterMap (amongAt? functions) := by
  cases functions with
  | nil => rfl
  | cons nested rest =>
      rw [allOf, allPaths, List.filterMap_append, List.filterMap_map, List.filterMap_map,
        all_eq_filterMap nested, allOf_eq_filterMap rest]
      congr 1
      apply List.filterMap_congr
      intro path _
      exact (amongAt?_laterPath nested rest path).symm

end

theorem laterPath_lt_laterPath
    {first second : List Nat}
    (less : first < second)
    (inside : first ≠ []) :
    laterPath first < laterPath second := by
  cases first with
  | nil => contradiction
  | cons index path =>
      cases second with
      | nil => exact absurd less (List.not_lt_nil _)
      | cons other rest =>
          rw [laterPath, laterPath, List.cons_lt_cons_iff]
          rcases List.cons_lt_cons_iff.mp less with before | ⟨rfl, within⟩
          · exact Or.inl (Nat.succ_lt_succ before)
          · exact Or.inr ⟨rfl, within⟩

mutual

/-- The paths come in lexicographic order, so each of them once. -/
theorem paths_increasing (nested : Nested π) :
    nested.paths.Pairwise (· < ·) := by
  obtain ⟨routine, place, graph, inner⟩ := nested
  rw [paths]
  refine List.Pairwise.cons ?_ (allPaths_increasing inner)
  intro path member
  obtain ⟨index, rest, rfl⟩ := List.exists_cons_of_ne_nil (ne_nil_of_mem_allPaths member)
  exact List.nil_lt_cons index rest

theorem allPaths_increasing (functions : List (Nested π)) :
    (allPaths functions).Pairwise (· < ·) := by
  cases functions with
  | nil => exact List.Pairwise.nil
  | cons nested rest =>
      rw [allPaths, List.pairwise_append, List.pairwise_map, List.pairwise_map]
      refine ⟨?_, ?_, ?_⟩
      · exact (paths_increasing nested).imp fun less =>
          List.cons_lt_cons_iff.mpr (Or.inr ⟨rfl, less⟩)
      · exact (allPaths_increasing rest).imp_of_mem fun member _ less =>
          laterPath_lt_laterPath less (ne_nil_of_mem_allPaths member)
      · intro first firstMember second secondMember
        obtain ⟨path, -, rfl⟩ := List.mem_map.mp firstMember
        obtain ⟨later, among, rfl⟩ := List.mem_map.mp secondMember
        obtain ⟨index, others, rfl⟩ :=
          List.exists_cons_of_ne_nil (ne_nil_of_mem_allPaths among)
        exact List.cons_lt_cons_iff.mpr (Or.inl (Nat.succ_pos index))

end

mutual

/-- Every function inside has its path among them. -/
theorem mem_paths_iff
    (nested : Nested π)
    (path : List Nat) :
    path ∈ nested.paths ↔ (nested.at? path).isSome := by
  obtain ⟨routine, place, graph, inner⟩ := nested
  cases path with
  | nil => simp [paths, at?]
  | cons index path =>
      rw [paths, List.mem_cons, mem_allPaths_iff inner, at?_eq_amongAt? (List.cons_ne_nil _ _)]
      simp

theorem mem_allPaths_iff
    (functions : List (Nested π))
    (path : List Nat) :
    path ∈ allPaths functions ↔ (amongAt? functions path).isSome := by
  cases functions with
  | nil => cases path <;> simp [allPaths, amongAt?]
  | cons nested rest =>
      rw [allPaths, List.mem_append, List.mem_map, List.mem_map]
      cases path with
      | nil =>
          have none : ∀ later ∈ allPaths rest, laterPath later ≠ [] := by
            intro later member
            obtain ⟨index, others, rfl⟩ :=
              List.exists_cons_of_ne_nil (ne_nil_of_mem_allPaths member)
            exact List.cons_ne_nil _ _
          simpa [amongAt?] using none
      | cons index path =>
          cases index with
          | zero =>
              have notLater : ∀ later, laterPath later ≠ 0 :: path := by
                intro later
                cases later <;> simp [laterPath]
              simp [notLater, amongAt?, mem_paths_iff nested]
          | succ index =>
              have isLater : ∀ later, laterPath later = (index + 1) :: path ↔
                  later = index :: path := by
                intro later
                cases later <;> simp [laterPath]
              simp [isLater, mem_allPaths_iff rest, amongAt?]

end

/-- The list has every function at the end of a path, in the lexicographic order of the
paths. -/
def InPreorder
    (functions : List (Nested π))
    (listed : List (Made π)) : Prop :=
  ∃ paths : List (List Nat), listed = paths.filterMap (amongAt? functions) ∧
    paths.Pairwise (· < ·) ∧ ∀ path, path ∈ paths ↔ (amongAt? functions path).isSome

theorem inPreorder_allOf (functions : List (Nested π)) :
    InPreorder functions (allOf functions) :=
  ⟨allPaths functions, allOf_eq_filterMap functions, allPaths_increasing functions,
    mem_allPaths_iff functions⟩

/-! ## Places -/

theorem exists_place_of_at?
    {nested : Nested π}
    {path : List Nat}
    {made : Made π}
    (found : nested.at? path = some made) :
    ∃ place, made.place = some place := by
  induction path generalizing nested with
  | nil =>
      obtain rfl := Option.some.inj found
      exact ⟨nested.place, rfl⟩
  | cons index path inductionHypothesis =>
      obtain ⟨inner, -, found⟩ := Option.bind_eq_some_iff.mp found
      exact inductionHypothesis found

theorem exists_place_of_mem_allOf
    {functions : List (Nested π)}
    {made : Made π}
    (member : made ∈ allOf functions) :
    ∃ place, made.place = some place := by
  rw [allOf_eq_filterMap, List.mem_filterMap] at member
  obtain ⟨path, -, found⟩ := member
  cases path with
  | nil => contradiction
  | cons index path =>
      obtain ⟨nested, -, found⟩ := Option.bind_eq_some_iff.mp found
      exact exists_place_of_at? found

end Nested

/-- Only the function that starts a package has no place. -/
theorem Functions.exists_place_or_start
    {π : Type}
    {functions : Functions π}
    {made : Made π}
    (member : made ∈ functions.all) :
    (∃ place, made.place = some place) ∨ made = functions.start := by
  rcases List.mem_append.mp member with declared | started
  · exact Or.inl (Nested.exists_place_of_mem_allOf declared)
  · rcases List.mem_cons.mp started with isStart | inner
    · exact Or.inr isStart
    · exact Or.inl (Nested.exists_place_of_mem_allOf inner)

/-! ## Lowering -/

/-- Each function becomes one function of the program, in order. -/
theorem lowerAll_forall₂
    {π : Type}
    (env : Source.Env)
    (numberOf : π -> Nat)
    (functions : List (Made π))
    (declarations : Declarations) :
    List.Forall₂ (fun function made => ∃ before, function = (made.lower env numberOf before).1)
      (lowerAll env numberOf functions declarations).1 functions := by
  induction functions generalizing declarations with
  | nil => exact List.Forall₂.nil
  | cons made rest inductionHypothesis =>
      exact List.Forall₂.cons ⟨declarations, rfl⟩ (inductionHypothesis _)

end Flow
end CtorScan
