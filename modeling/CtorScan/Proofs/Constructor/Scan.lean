import CtorScan.Constructor.Scan
import CtorScan.Proofs.Text.Search
import Mathlib.Data.List.Forall2

/-!
# What scanning a function finds

A site of a function is a block by its number and an instruction by its number
in that block.  Walking through a body visits its sites in increasing order, each
once, and scanning lists exactly the sites that hold calls of constructors: calls
whose target is known and has a name in which the marker occurs.
-/

namespace CtorScan

namespace Function

/-- The instruction at a site of some blocks, if there is one; an absent block
has none. -/
def instructionIn?
    (blocks : List (Option (Block κ)))
    (site : Nat × Nat) : Option (Instruction κ) :=
  (blocks[site.1]?).join.bind fun block => (block.instructions[site.2]?).join

/-- The instruction at a site of a function, if there is one. -/
def instructionAt?
    (function : Function κ)
    (site : Nat × Nat) : Option (Instruction κ) :=
  instructionIn? function.blocks site

/-- The same site after one more block. -/
def laterSite (site : Nat × Nat) : Nat × Nat :=
  (site.1 + 1, site.2)

/-- The sites of some blocks, in order. -/
def sitesOf : List (Option (Block κ)) -> List (Nat × Nat)
  | [] => []
  | none :: rest => (sitesOf rest).map laterSite
  | some block :: rest =>
      (List.range block.instructions.length).map (0, ·) ++ (sitesOf rest).map laterSite

/-- Every site at which there is an instruction is visited. -/
theorem mem_sitesOf_of_instructionIn?
    {blocks : List (Option (Block κ))}
    {number index : Nat}
    {instruction : Instruction κ}
    (found : instructionIn? blocks (number, index) = some instruction) :
    (number, index) ∈ sitesOf blocks := by
  induction blocks generalizing number with
  | nil => simp [instructionIn?] at found
  | cons first rest inductionHypothesis =>
      cases number with
      | zero =>
          cases first with
          | none => simp [instructionIn?] at found
          | some block =>
              simp only [instructionIn?, List.getElem?_cons_zero, Option.join_some,
                Option.bind_some, Option.join_eq_some_iff, List.getElem?_eq_some_iff] at found
              obtain ⟨inBlock, -⟩ := found
              exact List.mem_append_left _ (List.mem_map.mpr ⟨index, by simpa using inBlock, rfl⟩)
      | succ number =>
          have later : laterSite (number, index) ∈ (sitesOf rest).map laterSite :=
            List.mem_map_of_mem (inductionHypothesis (by simpa [instructionIn?] using found))
          cases first with
          | none => exact later
          | some block => exact List.mem_append_right _ later

/-- Sites are visited in increasing order, each once. -/
theorem sitesOf_increasing (blocks : List (Option (Block κ))) :
    (sitesOf blocks).Pairwise (Prod.Lex (· < ·) (· < ·)) := by
  induction blocks with
  | nil => exact List.Pairwise.nil
  | cons first rest inductionHypothesis =>
      have later : ((sitesOf rest).map laterSite).Pairwise (Prod.Lex (· < ·) (· < ·)) := by
        rw [List.pairwise_map]
        apply inductionHypothesis.imp
        intro left right before
        cases before with
        | left _ _ before => exact Prod.Lex.left _ _ (Nat.succ_lt_succ before)
        | right number before => exact Prod.Lex.right _ before
      cases first with
      | none => exact later
      | some block =>
          rw [sitesOf, List.pairwise_append]
          refine ⟨?_, later, ?_⟩
          · rw [List.pairwise_map]
            exact List.pairwise_lt_range.imp fun before => Prod.Lex.right 0 before
          · intro early inBlock late inRest
            obtain ⟨index, -, rfl⟩ := List.mem_map.mp inBlock
            obtain ⟨site, -, rfl⟩ := List.mem_map.mp inRest
            exact Prod.Lex.left _ _ (Nat.succ_pos site.1)

theorem flatMap_eq_map_sitesOf (blocks : List (Option (Block κ))) :
    (blocks.flatMap fun block =>
      match block with
      | none => []
      | some block => block.instructions) =
      (sitesOf blocks).map (instructionIn? blocks) := by
  induction blocks with
  | nil => rfl
  | cons first rest inductionHypothesis =>
      have later :
          ((sitesOf rest).map laterSite).map (instructionIn? (first :: rest)) =
            (sitesOf rest).map (instructionIn? rest) := by
        rw [List.map_map]
        apply List.map_congr_left
        intro site _
        simp [instructionIn?, laterSite]
      rw [List.flatMap_cons, inductionHypothesis]
      cases first with
      | none => rw [sitesOf, later, List.nil_append]
      | some block =>
          rw [sitesOf, List.map_append, later]
          congr 1
          apply List.ext_getElem
          · simp
          · intro index inBlock inRange
            simp [instructionIn?, inBlock]

/-- The instructions of a function are those at its sites. -/
theorem instructions_eq_map_sites (function : Function κ) :
    function.instructions = (sitesOf function.blocks).map function.instructionAt? :=
  flatMap_eq_map_sitesOf function.blocks

end Function

/-! ## Kinds -/

namespace Kind

/-- The kind that declared parameters stand for: none at all, exactly one
pointer, or anything else. -/
def Fits
    (parameters : List Parameter)
    (kind : Kind) : Prop :=
  (parameters = [] ∧ kind = default) ∨
    ((∃ parameter, parameters = [parameter] ∧ parameter.type.pointer = true) ∧ kind = copy) ∨
    (parameters ≠ [] ∧
      (∀ parameter, parameters = [parameter] -> parameter.type.pointer = false) ∧
      kind = parameterized)

theorem fits_ofParameters (parameters : List Parameter) :
    Fits parameters (ofParameters parameters) := by
  match parameters with
  | [] => exact Or.inl ⟨rfl, rfl⟩
  | [parameter] =>
      cases pointer : parameter.type.pointer with
      | true => exact Or.inr (Or.inl ⟨⟨parameter, rfl, pointer⟩, by simp [ofParameters, pointer]⟩)
      | false =>
          refine Or.inr (Or.inr ⟨by simp, ?_, by simp [ofParameters, pointer]⟩)
          intro other same
          obtain rfl := List.singleton_inj.mp same
          exact pointer
  | first :: second :: rest => exact Or.inr (Or.inr ⟨by simp, by simp, rfl⟩)

/-- A kind that fits some parameters has a name, and so can be written. -/
theorem Fits.hasName
    {parameters : List Parameter}
    {kind : Kind}
    (fits : Fits parameters kind) :
    ∃ name, kind.shortName? = some name := by
  rcases fits with ⟨-, rfl⟩ | ⟨-, rfl⟩ | ⟨-, -, rfl⟩
  · exact ⟨"default", rfl⟩
  · exact ⟨"copy", rfl⟩
  · exact ⟨"parameterized", rfl⟩

theorem Fits.mem_named
    {parameters : List Parameter}
    {kind : Kind}
    (fits : Fits parameters kind) :
    kind ∈ named := by
  rcases fits with ⟨-, rfl⟩ | ⟨-, rfl⟩ | ⟨-, -, rfl⟩ <;> simp [named]

end Kind

/-! ## Records -/

namespace Marker

/-- The name is one of a constructor: the marker that is given occurs in it, or the one of
complete object constructors if the empty one is given. -/
def IsConstructorName (marker name : String) : Prop :=
  name ≠ "" ∧ ∃ before after, name = before ++ (if marker = "" then "C1" else marker) ++ after

/-- The call is one of a constructor: its target is known and has the name of one. -/
def Selects
    (marker : String)
    (call : Call Signature)
    (callee : Signature) : Prop :=
  call.callee = some callee ∧ IsConstructorName marker callee.name

theorem isConstructorName_iff
    (marker name : String) :
    IsConstructorName marker name ↔ name ≠ "" ∧ isIn marker name = true :=
  and_congr_right' (Text.occursIn_toList_iff (effective marker) name).symm

instance (marker : String) : DecidablePred (IsConstructorName marker) := fun name =>
  decidable_of_iff' _ (isConstructorName_iff marker name)

/-- What a record says about a call of a constructor. -/
structure Describes
    (holder : String)
    (call : Call Signature)
    (target : Signature)
    (record : Record) : Prop where
  /-- It names the function that holds the call. -/
  caller : record.caller = holder
  /-- It names the function that is called. -/
  callee : record.callee = target.name
  /-- It is at the place of the call. -/
  position : record.position = call.position
  /-- Its kind is decided by the parameters that the called function declares. -/
  kind : Kind.Fits target.parameters record.kind

/-- There is a record of an instruction exactly when it is a call of a
constructor, and then the record describes it. -/
theorem record?_eq_some
    {marker caller : String}
    {instruction : Option (Instruction Signature)}
    {record : Record}
    (found : record? marker caller instruction = some record) :
    ∃ call callee, instruction = some (.call call) ∧ Selects marker call callee ∧
      Describes caller call callee record := by
  unfold record? at found
  split at found
  · rename_i callee arguments position
    split at found
    · rename_i selected
      obtain rfl := Option.some.inj found
      exact ⟨_, callee, rfl, ⟨rfl, (isConstructorName_iff marker callee.name).mpr selected⟩,
        ⟨rfl, rfl, rfl, Kind.fits_ofParameters callee.parameters⟩⟩
    · contradiction
  · contradiction

/-- Scanning gives records of kinds that have names. -/
theorem kind_mem_named_of_mem_scan
    {marker : String}
    {function : Function Signature}
    {record : Record}
    (member : record ∈ scan marker (some function)) :
    record.kind ∈ Kind.named := by
  obtain ⟨instruction, -, found⟩ := List.mem_filterMap.mp member
  obtain ⟨call, callee, -, -, describes⟩ := record?_eq_some found
  exact describes.kind.mem_named

theorem record?_isSome_of_selects
    {marker : String}
    (caller : String)
    {call : Call Signature}
    {callee : Signature}
    (selects : Selects marker call callee) :
    (record? marker caller (some (.call call))).isSome = true := by
  obtain ⟨target, arguments, position⟩ := call
  obtain ⟨rfl, named⟩ := selects
  simp [record?, (isConstructorName_iff marker callee.name).mp named]

/-- The values that a partial function gives on a list stand for its elements on
which it is defined, in order. -/
theorem forall₂_filter_filterMap
    (f : α -> Option β)
    (list : List α) :
    List.Forall₂ (fun a b => f a = some b)
      (list.filter fun a => (f a).isSome) (list.filterMap f) := by
  induction list with
  | nil => exact List.Forall₂.nil
  | cons a rest inductionHypothesis =>
      cases defined : f a with
      | none => simpa [defined] using inductionHypothesis
      | some b => simpa [defined] using inductionHypothesis

/-- Scanning a function gives one record for each of its constructor calls, in
the order of the body, and nothing else: block order first, instruction order
within a block.  Every record describes its call, and its kind can be written. -/
theorem scan_lists_constructor_calls
    (marker : String)
    (function : Option (Function Signature)) :
    ∃ sites : List (Nat × Nat),
      sites.Pairwise (Prod.Lex (· < ·) (· < ·)) ∧
      (∀ site, site ∈ sites ↔
        ∃ scanned call callee, function = some scanned ∧
          scanned.instructionAt? site = some (.call call) ∧ Selects marker call callee) ∧
      List.Forall₂
        (fun site record =>
          ∃ scanned call callee, function = some scanned ∧
            scanned.instructionAt? site = some (.call call) ∧ Selects marker call callee ∧
            Describes scanned.name call callee record)
        sites (scan marker function) ∧
      ∀ record ∈ scan marker function, ∃ name, record.kind.shortName? = some name := by
  cases function with
  | none => exact ⟨[], List.Pairwise.nil, by simp, List.Forall₂.nil, by simp [scan]⟩
  | some function =>
      let recordAt? := fun site => record? marker function.name (function.instructionAt? site)
      let sites := Function.sitesOf function.blocks
      have scanned : scan marker (some function) = sites.filterMap recordAt? := by
        rw [scan, function.instructions_eq_map_sites, List.filterMap_map]
        rfl
      refine ⟨sites.filter fun site => (recordAt? site).isSome,
        (Function.sitesOf_increasing function.blocks).filter _, ?_, ?_, ?_⟩
      · intro site
        rw [List.mem_filter]
        constructor
        · rintro ⟨-, found⟩
          obtain ⟨record, found⟩ := Option.isSome_iff_exists.mp found
          obtain ⟨call, callee, instruction, selects, -⟩ := record?_eq_some found
          exact ⟨function, call, callee, rfl, instruction, selects⟩
        · rintro ⟨same, call, callee, equal, instruction, selects⟩
          obtain rfl := Option.some.inj equal
          refine ⟨Function.mem_sitesOf_of_instructionIn? instruction, ?_⟩
          simp only [recordAt?, instruction]
          exact record?_isSome_of_selects function.name selects
      · rw [scanned]
        apply (forall₂_filter_filterMap recordAt? sites).imp
        intro site record found
        obtain ⟨call, callee, instruction, selects, describes⟩ := record?_eq_some found
        exact ⟨function, call, callee, rfl, instruction, selects, describes⟩
      · intro record member
        rw [scanned, List.mem_filterMap] at member
        obtain ⟨site, -, found⟩ := member
        obtain ⟨call, callee, -, -, describes⟩ := record?_eq_some found
        exact describes.kind.hasName

end Marker
end CtorScan
