import CtorScan.Program.Description
import Mathlib.Data.List.Forall2

/-!
# Taking descriptions over

A description is taken over piece by piece, and the first piece that cannot be taken over
ends that.  The pieces are names, of which no two functions may have the same, and
instructions, each of which has to name one thing.
-/

namespace CtorScan
namespace Description

/-! ## One piece after the other -/

section Traversal

variable {ε α β : Type} {f : α -> Except ε β}

theorem bind_pure_eq_ok_iff
    {outcome : Except ε α}
    {g : α -> β}
    {result : β} :
    (outcome >>= fun a => pure (g a)) = .ok result ↔ ∃ a, outcome = .ok a ∧ g a = result := by
  cases outcome <;> simp [bind, Except.bind, pure, Except.pure]

theorem exists_bind_pure_eq_ok_iff
    {outcome : Except ε α}
    {g : α -> β} :
    (∃ result, (outcome >>= fun a => pure (g a)) = .ok result) ↔ ∃ a, outcome = .ok a := by
  cases outcome <;> simp [bind, Except.bind, pure, Except.pure]

theorem bind_pure_eq_error_iff
    {outcome : Except ε α}
    {g : α -> β}
    {fault : ε} :
    (outcome >>= fun a => pure (g a)) = .error fault ↔ outcome = .error fault := by
  cases outcome <;> simp [bind, Except.bind, pure, Except.pure]

theorem mapM_eq_ok_iff
    {list : List α}
    {results : List β} :
    list.mapM f = .ok results ↔ List.Forall₂ (fun a b => f a = .ok b) list results := by
  induction list generalizing results with
  | nil => cases results <;> simp [pure, Except.pure]
  | cons a rest inductionHypothesis =>
      rw [List.mapM_cons, List.forall₂_cons_left_iff]
      simp only [← inductionHypothesis]
      cases first : f a with
      | error fault => simp [bind, Except.bind]
      | ok b =>
          cases later : rest.mapM f with
          | error fault => simp [bind, Except.bind]
          | ok others => simp [bind, Except.bind, pure, Except.pure, eq_comm]

theorem mapM_eq_ok_iff_map_eq
    {list : List α}
    {results : List β} :
    list.mapM f = .ok results ↔ list.map f = results.map .ok := by
  rw [mapM_eq_ok_iff, ← List.forall₂_eq_eq_eq, List.forall₂_map_left_iff,
    List.forall₂_map_right_iff]

/-- If elements are taken over as something else, then so is a list of them. -/
theorem mapM_eq_ok_map
    {g : α -> Except ε β}
    {change : β -> β}
    (changed : ∀ {a b}, f a = .ok b -> g a = .ok (change b))
    {list : List α}
    {results : List β}
    (taken : list.mapM f = .ok results) :
    list.mapM g = .ok (results.map change) := by
  rw [mapM_eq_ok_iff, List.forall₂_map_right_iff]
  exact (mapM_eq_ok_iff.mp taken).imp fun _ _ => changed

/-- A list is not taken over because of the first element that cannot be. -/
theorem mapM_eq_error_iff
    {list : List α}
    {fault : ε} :
    list.mapM f = .error fault ↔
      ∃ index a, list[index]? = some a ∧
        (∀ other ∈ list.take index, ∃ b, f other = .ok b) ∧ f a = .error fault := by
  induction list with
  | nil => simp [pure, Except.pure]
  | cons first rest inductionHypothesis =>
      rw [List.mapM_cons]
      cases outcome : f first with
      | error found =>
          have stopped : (Except.error found >>= fun b => rest.mapM f >>= fun others =>
              pure (b :: others)) = .error fault ↔ found = fault :=
            ⟨Except.error.inj, congrArg Except.error⟩
          rw [stopped]
          constructor
          · rintro rfl
            exact ⟨0, first, rfl, by simp, outcome⟩
          · rintro ⟨_ | index, a, atIndex, taken, failed⟩
            · obtain rfl := Option.some.inj atIndex
              exact Except.error.inj (outcome.symm.trans failed)
            · obtain ⟨b, succeeded⟩ := taken first List.mem_cons_self
              rw [outcome] at succeeded
              contradiction
      | ok b =>
          have later : (Except.ok b >>= fun b => rest.mapM f >>= fun others =>
              pure (b :: others)) = .error fault ↔ rest.mapM f = .error fault :=
            bind_pure_eq_error_iff
          rw [later, inductionHypothesis]
          constructor
          · rintro ⟨index, a, atIndex, taken, failed⟩
            exact ⟨index + 1, a, atIndex, List.forall_mem_cons.mpr ⟨⟨b, outcome⟩, taken⟩, failed⟩
          · rintro ⟨_ | index, a, atIndex, taken, failed⟩
            · obtain rfl := Option.some.inj atIndex
              rw [outcome] at failed
              contradiction
            · exact ⟨index, a, atIndex, (List.forall_mem_cons.mp taken).2, failed⟩

/-- A list is taken over if and only if each of its elements can be. -/
theorem exists_mapM_eq_ok_iff {list : List α} :
    (∃ results, list.mapM f = .ok results) ↔ ∀ a ∈ list, ∃ b, f a = .ok b := by
  induction list with
  | nil => simp [pure, Except.pure]
  | cons a rest inductionHypothesis =>
      rw [List.forall_mem_cons, ← inductionHypothesis]
      simp only [mapM_eq_ok_iff, List.forall₂_cons_left_iff]
      constructor
      · rintro ⟨_, b, others, first, later, rfl⟩
        exact ⟨⟨b, first⟩, others, later⟩
      · rintro ⟨⟨b, first⟩, others, later⟩
        exact ⟨_, b, others, first, later, rfl⟩

/-- What is in the second of two related lists is related to something in the first. -/
theorem exists_of_mem_right
    {related : α -> β -> Prop}
    {list : List α}
    {results : List β}
    (pairs : List.Forall₂ related list results)
    {b : β}
    (member : b ∈ results) :
    ∃ a ∈ list, related a b := by
  induction pairs with
  | nil => simp at member
  | cons first _ inductionHypothesis =>
      rcases List.mem_cons.mp member with rfl | later
      · exact ⟨_, List.mem_cons_self, first⟩
      · obtain ⟨a, among, holds⟩ := inductionHypothesis later
        exact ⟨a, List.mem_cons_of_mem _ among, holds⟩

end Traversal

/-! ## Names -/

/-- Where keys differ, except that several may be empty, the first element with a key is the
only one. -/
theorem findIdx?_eq_some_iff_of_distinct
    {α : Type}
    {key : α -> String}
    {list : List α}
    (distinct : list.Pairwise fun early late => key early = key late -> key early = "")
    {name : String}
    (named : name ≠ "")
    {index : Nat} :
    (list.findIdx? fun a => key a == name) = some index ↔
      ∃ a, list[index]? = some a ∧ key a = name := by
  rw [List.findIdx?_eq_some_iff_getElem]
  simp only [List.getElem?_eq_some_iff, beq_iff_eq]
  constructor
  · rintro ⟨inside, atIndex, -⟩
    exact ⟨_, ⟨inside, rfl⟩, atIndex⟩
  · rintro ⟨a, ⟨inside, rfl⟩, rfl⟩
    refine ⟨inside, rfl, ?_⟩
    intro earlier before same
    have unnamed := List.pairwise_iff_getElem.mp distinct earlier index _ inside before same
    exact named (same.symm.trans unnamed)

/-- No two functions have the same name, except that several may have none. -/
def DistinctNames (functions : List Func) : Prop :=
  functions.Pairwise fun early late => early.name = late.name -> early.name = ""

theorem distinctNames_cons
    {function : Func}
    {rest : List Func} :
    DistinctNames (function :: rest) ↔
      (function.name ∈ rest.map Func.name -> function.name = "") ∧ DistinctNames rest := by
  rw [DistinctNames, List.pairwise_cons, DistinctNames, List.mem_map]
  refine and_congr_left fun _ => ⟨?_, ?_⟩
  · rintro unnamed ⟨late, member, same⟩
    exact unnamed late member same.symm
  · intro unnamed late member same
    exact unnamed ⟨late, member, same.symm⟩

/-- That a function without a name was seen makes no difference. -/
theorem repeatedName?_congr
    {first second : List String}
    {functions : List Func}
    (same : ∀ name, name ≠ "" -> (name ∈ first ↔ name ∈ second)) :
    repeatedName? first functions = repeatedName? second functions := by
  induction functions generalizing first second with
  | nil => rfl
  | cons function rest inductionHypothesis =>
      have later : repeatedName? (function.name :: first) rest =
          repeatedName? (function.name :: second) rest := by
        apply inductionHypothesis
        intro name named
        rw [List.mem_cons, List.mem_cons, same name named]
      rw [repeatedName?, repeatedName?, inductionHypothesis same, later]
      by_cases unnamed : function.name = ""
      · rw [if_pos unnamed, if_pos unnamed]
      · simp only [List.contains_eq_mem, same _ unnamed]

theorem repeatedName?_cons
    (seen : List String)
    (function : Func)
    (rest : List Func) :
    repeatedName? seen (function :: rest) =
      if function.name ≠ "" ∧ function.name ∈ seen then some function.name
      else repeatedName? (function.name :: seen) rest := by
  rw [repeatedName?]
  by_cases unnamed : function.name = ""
  · have same : ∀ name, name ≠ "" -> (name ∈ seen ↔ name ∈ function.name :: seen) := by
      intro name named
      simp [unnamed, named]
    simp [unnamed, repeatedName?_congr same]
  · simp [unnamed]

/-- No name is repeated if and only if the names that are given differ from each other
and from those that were seen before. -/
theorem repeatedName?_eq_none_iff
    {seen : List String}
    {functions : List Func} :
    repeatedName? seen functions = none ↔
      DistinctNames functions ∧
        ∀ function ∈ functions, function.name ∈ seen -> function.name = "" := by
  induction functions generalizing seen with
  | nil => simp [repeatedName?, DistinctNames]
  | cons function rest inductionHypothesis =>
      have apart : (∀ other ∈ rest, other.name = function.name -> other.name = "") ↔
          (function.name ∈ rest.map Func.name -> function.name = "") := by
        rw [List.mem_map]
        constructor
        · rintro unnamed ⟨other, member, same⟩
          exact same ▸ unnamed other member same
        · intro unnamed other member same
          exact same.trans (unnamed ⟨other, member, same⟩)
      rw [repeatedName?_cons, distinctNames_cons, List.forall_mem_cons]
      split
      · rename_i again
        simp [again]
      · rename_i fresh
        rw [not_and_or, not_ne_iff] at fresh
        have unnamed : function.name ∈ seen -> function.name = "" := fun member =>
          fresh.resolve_right (not_not_intro member)
        simp only [inductionHypothesis, List.mem_cons, or_imp, imp_and, forall_and, apart]
        rw [and_left_comm, and_assoc, and_iff_right unnamed]

theorem repeatedName?_nil_eq_none_iff {functions : List Func} :
    repeatedName? [] functions = none ↔ DistinctNames functions := by
  simp [repeatedName?_eq_none_iff]

/-- The repeated name is that of the first function whose name was seen before. -/
theorem repeatedName?_eq_some_iff
    {seen : List String}
    {functions : List Func}
    {name : String} :
    repeatedName? seen functions = some name ↔
      ∃ index function, functions[index]? = some function ∧ function.name = name ∧ name ≠ "" ∧
        name ∈ (functions.take index).map Func.name ++ seen ∧
        repeatedName? seen (functions.take index) = none := by
  induction functions generalizing seen with
  | nil => simp [repeatedName?]
  | cons first rest inductionHypothesis =>
      rw [repeatedName?_cons]
      split
      · rename_i again
        rw [Option.some.injEq]
        constructor
        · rintro rfl
          exact ⟨0, first, rfl, rfl, again.1, again.2, rfl⟩
        · rintro ⟨_ | index, function, atIndex, rfl, -, -, fresh⟩
          · obtain rfl := Option.some.inj atIndex
            rfl
          · rw [List.take_succ_cons, repeatedName?_cons, if_pos again] at fresh
            contradiction
      · rename_i notAgain
        rw [inductionHypothesis]
        constructor
        · rintro ⟨index, function, atIndex, named, given, again, fresh⟩
          refine ⟨index + 1, function, atIndex, named, given, ?_, ?_⟩
          · exact List.perm_middle.mem_iff.mp again
          · rw [List.take_succ_cons, repeatedName?_cons, if_neg notAgain, fresh]
        · rintro ⟨_ | index, function, atIndex, rfl, given, again, fresh⟩
          · obtain rfl := Option.some.inj atIndex
            exact absurd ⟨given, again⟩ notAgain
          · rw [List.take_succ_cons, repeatedName?_cons, if_neg notAgain] at fresh
            exact ⟨index, function, atIndex, rfl, given, List.perm_middle.mem_iff.mpr again, fresh⟩

/-! ## Names before instructions -/

theorem toProgram_eq_ok_iff
    {description : Description}
    {program : Program} :
    description.toProgram = .ok program ↔
      repeatedName? [] description.functions = none ∧
        ∃ functions, description.functions.mapM (Func.toFunction description.position?) =
          .ok functions ∧ ⟨description.name, functions⟩ = program := by
  unfold toProgram
  cases repeatedName? [] description.functions with
  | some name => exact ⟨nofun, fun accepted => nomatch accepted.1⟩
  | none =>
      rw [and_iff_right rfl]
      exact bind_pure_eq_ok_iff

/-- A repeated name is found before any instruction is looked at. -/
theorem toProgram_eq_error_iff
    {description : Description}
    {fault : Fault} :
    description.toProgram = .error fault ↔
      (∃ name, repeatedName? [] description.functions = some name ∧
        .repeatedFunction name = fault) ∨
      (repeatedName? [] description.functions = none ∧
        description.functions.mapM (Func.toFunction description.position?) = .error fault) := by
  unfold toProgram
  cases repeatedName? [] description.functions with
  | some name =>
      constructor
      · intro failed
        exact Or.inl ⟨name, rfl, Except.error.inj failed⟩
      · rintro (⟨_, found, rfl⟩ | ⟨absent, -⟩)
        · obtain rfl := Option.some.inj found
          rfl
        · contradiction
  | none =>
      constructor
      · intro failed
        exact Or.inr ⟨rfl, bind_pure_eq_error_iff.mp failed⟩
      · rintro (⟨_, absent, -⟩ | ⟨-, failed⟩)
        · contradiction
        · exact bind_pure_eq_error_iff.mpr failed

end Description
end CtorScan
