import CtorScan.Proofs.Assembly.Correspondence
import CtorScan.Proofs.Constructor.Scan
import CtorScan.Proofs.Constructor.Targets

/-!
# Scans of listings

A scan of the program of a listing finds one constructor call for each call that names a
constructor of the listing, in order, and nothing in the instructions that end blocks.  The
kind of the constructor follows from the types of the parameters as they are written.
-/

namespace CtorScan
namespace Assembly

/-! ## Calls as they are written -/

/-- The function of the listing that an operand names. -/
def Operand.functionAmong?
    (functions : List WrittenFunction) : Operand -> Option WrittenFunction
  | .globalRef ident => functions.find? fun function => function.header.name = ident
  | _ => none

/-- The function of the listing that an instruction calls, if it is a call and names one. -/
def Step.called?
    (functions : List WrittenFunction)
    (step : Step) : Option WrittenFunction :=
  if step.operation = "call" then
    step.target.bind fun target => target.callee.functionAmong? functions
  else
    none

/-- A call that names a function of the listing. -/
structure WrittenCall where
  /-- The function that holds the call. -/
  caller : WrittenFunction
  /-- The function that it names. -/
  callee : WrittenFunction

/-- The kind of a constructor by its parameters: none at all, exactly one that stands for a
pointer, or anything else. -/
inductive WrittenFunction.IsOfKind
    (definitions : Definitions)
    (function : WrittenFunction) : Kind -> Prop where
  | default
      (nothing : function.header.parameters = []) :
      IsOfKind definitions function .default
  | copy (type : Ty) (name : Option Ident)
      (only : function.header.parameters = [(type, name)])
      (pointer : type.StandsForPointer definitions) :
      IsOfKind definitions function .copy
  | parameterized
      (something : function.header.parameters ≠ [])
      (other : ∀ type name, function.header.parameters = [(type, name)] ->
        ¬ type.StandsForPointer definitions) :
      IsOfKind definitions function .parameterized

namespace WrittenCall

/-- The called function has the name of a constructor. -/
def IsOfConstructor
    (marker : String)
    (call : WrittenCall) : Prop :=
  Marker.IsConstructorName marker call.callee.name

instance (marker : String) : DecidablePred (IsOfConstructor marker) := fun call =>
  inferInstanceAs (Decidable (Marker.IsConstructorName marker call.callee.name))

/-- What a scan notes about a call. -/
structure NotedAs
    (definitions : Definitions)
    (call : WrittenCall)
    (record : Record) : Prop where
  /-- The name of the function that holds it. -/
  caller : record.caller = call.caller.name
  /-- The name of the function that it names. -/
  callee : record.callee = call.callee.name
  /-- The kind of that function. -/
  kind : call.callee.IsOfKind definitions record.kind
  /-- There are no places in listings. -/
  position : record.position = 0

end WrittenCall

/-- The calls in the body of a function that name functions of the listing, in order.
Instructions that end blocks are not among them. -/
def WrittenFunction.calls
    (functions : List WrittenFunction)
    (function : WrittenFunction) : List WrittenCall :=
  (function.blocks.flatMap WrittenBlock.steps).filterMap fun step =>
    (step.called? functions).map (WrittenCall.mk function)

/-- The constructor calls that are written in some functions, in order. -/
def constructorCalls
    (marker : String)
    (functions : List WrittenFunction) : List WrittenCall :=
  (functions.flatMap (WrittenFunction.calls functions)).filter fun call =>
    call.IsOfConstructor marker

section Scanning

variable {functions : List WrittenFunction} {scope : Scope} {locals : Locals} {program : Program}

/-! ## What a scan finds -/

/-- The parameters of the program decide the kind as those that are written do. -/
theorem WrittenFunction.DeclaredAs.isOfKind
    {definitions : Definitions}
    {written : WrittenFunction}
    {signature : Signature}
    (declared : written.DeclaredAs definitions signature) :
    written.IsOfKind definitions (Kind.ofParameters signature.parameters) := by
  have each := declared.parameters
  generalize signature.parameters = parameters at each ⊢
  generalize equal : written.header.parameters = types at each
  cases each with
  | nil => exact .default equal
  | @cons type parameter _ _ first others =>
      cases others with
      | nil =>
          by_cases pointer : type.1.StandsForPointer definitions
          · rw [Kind.ofParameters, if_pos (first.type.pointer.mpr pointer)]
            exact .copy _ _ equal pointer
          · rw [Kind.ofParameters, if_neg (mt first.type.pointer.mp pointer)]
            refine .parameterized (by simp [equal]) fun other name same => ?_
            rw [equal, List.singleton_inj] at same
            rwa [same] at pointer
      | cons _ _ => exact .parameterized (by simp [equal]) (by simp [equal])

theorem rel_getElem?
    {related : α -> β -> Prop}
    {first : List α}
    {second : List β}
    (each : List.Forall₂ related first second)
    (index : Nat) :
    Option.Rel related first[index]? second[index]? := by
  induction each generalizing index with
  | nil => exact .none
  | cons own _ inductionHypothesis =>
      cases index with
      | zero => exact .some own
      | succ index => simpa using inductionHypothesis index

/-- The functions of the program declare what those of the listing declare. -/
theorem rel_signature?
    (becomes : List.Forall₂ (WrittenFunction.Becomes functions scope) functions program.functions)
    (index : Nat) :
    Option.Rel (WrittenFunction.DeclaredAs scope.definitions) functions[index]?
      (program.signature? index) := by
  have signatures : List.Forall₂ (WrittenFunction.DeclaredAs scope.definitions) functions
      (program.functions.map Function.toSignature) := by
    rw [List.forall₂_map_right_iff]
    exact becomes.imp fun _ _ each => each.signature
  rw [Program.signature?, ← List.getElem?_map]
  exact rel_getElem? signatures index

/-- A position at which a call refers to a function is one at which the named function
stands. -/
theorem Operand.functionAmong?_eq
    (distinct : (functions.map fun function => function.header.name).Nodup)
    {operand : Operand}
    {callee : Option Nat}
    (refers : ∀ index, callee = some index ↔ operand.IsFunctionAt functions index) :
    operand.functionAmong? functions = callee.bind fun index => functions[index]? := by
  cases callee with
  | none =>
      have nowhere : ∀ index, ¬ operand.IsFunctionAt functions index := fun index found =>
        nomatch (refers index).mpr found
      cases operand with
      | globalRef ident =>
          rw [Operand.functionAmong?, Option.bind_none, List.find?_eq_none]
          intro function member same
          obtain ⟨index, found⟩ := List.mem_iff_getElem?.mp member
          exact nowhere index ⟨function, found, by simpa using Eq.symm (of_decide_eq_true same)⟩
      | _ => rfl
  | some index =>
      obtain ⟨function, found, rfl⟩ := (refers index).mp rfl
      have member := List.mem_of_getElem? found
      rw [Operand.functionAmong?, Option.bind_some, found]
      cases answer : functions.find? fun other => other.header.name = function.header.name with
      | none => simpa using List.find?_eq_none.mp answer function member
      | some other =>
          have same : other.header.name = function.header.name := by
            simpa using List.find?_some answer
          rw [List.inj_on_of_nodup_map distinct (List.mem_of_find?_eq_some answer) member same]


/-- A call is noted exactly if it names a constructor. -/
theorem rel_record?
    (distinct : (functions.map fun function => function.header.name).Nodup)
    (becomes : List.Forall₂ (WrittenFunction.Becomes functions scope) functions program.functions)
    (marker : String)
    (caller : WrittenFunction)
    {step : Step}
    {instruction : Instruction Nat}
    (kept : step.Becomes functions scope locals instruction) :
    Option.Rel (WrittenCall.NotedAs scope.definitions)
      (((step.called? functions).map (WrittenCall.mk caller)).filter
        fun call => call.IsOfConstructor marker)
      (Marker.record? marker caller.name
        (some (instruction.mapCallee program.signature?))) := by
  cases kept with
  | other noCall =>
      rw [Step.called?, if_neg noCall]
      exact .none
  | call target call isCall named callee arguments position =>
      rw [Step.called?, if_pos isCall, named, Option.bind_some,
        Operand.functionAmong?_eq distinct callee, Instruction.mapCallee, Call.mapCallee, position]
      cases call.callee with
      | none => exact .none
      | some index =>
          have related := rel_signature? becomes index
          rw [Option.bind_some, Option.bind_some]
          generalize functions[index]? = written? at related ⊢
          generalize program.signature? index = signature? at related ⊢
          cases related with
          | none => exact .none
          | @some written signature declared =>
              have condition : WrittenCall.IsOfConstructor marker ⟨caller, written⟩ ↔
                  signature.name ≠ "" ∧ Marker.isIn marker signature.name = true := by
                rw [WrittenCall.IsOfConstructor, ← declared.name, Marker.isConstructorName_iff]
              rw [Marker.record?, Option.map_some, Option.filter_some]
              by_cases taken : WrittenCall.IsOfConstructor marker ⟨caller, written⟩
              · rw [if_pos (decide_eq_true taken), if_pos (condition.mp taken)]
                exact .some ⟨rfl, declared.name, declared.isOfKind, rfl⟩
              · rw [if_neg (mt of_decide_eq_true taken), if_neg (mt condition.mpr taken)]
                exact .none

/-- What is noted in the blocks of a function is noted of the instructions that are written
in them; the one that ends a block adds nothing. -/
theorem forall₂_filterMap_instructions
    {written : WrittenFunction}
    {function : Function Nat}
    (becomes : written.Becomes functions scope function)
    {related : α -> β -> Prop}
    {noteWritten : Step -> Option α}
    {note : Option (Instruction Nat) -> Option β}
    (noOther : ∀ operation, note (some (.other operation)) = none)
    (alike : ∀ locals step instruction, step.Becomes functions scope locals instruction ->
      Option.Rel related (noteWritten step) (note (some instruction))) :
    List.Forall₂ related ((written.blocks.flatMap WrittenBlock.steps).filterMap noteWritten)
      (function.instructions.filterMap note) := by
  have blocks := becomes.blocks
  unfold Function.instructions
  rw [List.filterMap_flatMap, List.filterMap_flatMap]
  refine List.rel_flatMap blocks ?_
  rintro source result ⟨-, -, locals, block, -, rfl, -, instructions, kept, same⟩
  have ended : (block.instructions.filterMap note) = (instructions.map some).filterMap note := by
    rw [same, List.filterMap_append]
    simp [noOther]
  change List.Forall₂ related (source.steps.filterMap noteWritten)
    (block.instructions.filterMap note)
  rw [ended, List.filterMap_map]
  exact List.rel_filterMap (fun _ _ each => alike locals _ _ each) kept

/-- A scan of a function notes the constructor calls that are written in it. -/
theorem forall₂_scan
    (distinct : (functions.map fun function => function.header.name).Nodup)
    (becomes : List.Forall₂ (WrittenFunction.Becomes functions scope) functions program.functions)
    (marker : String)
    {written : WrittenFunction}
    {function : Function Nat}
    (kept : written.Becomes functions scope function) :
    List.Forall₂ (WrittenCall.NotedAs scope.definitions)
      ((written.calls functions).filter fun call => call.IsOfConstructor marker)
      (Marker.scan marker (some (function.mapCallee program.signature?))) := by
  rw [Marker.scan, Function.instructions_mapCallee, List.filterMap_map, WrittenFunction.calls,
    List.filter_filterMap]
  apply forall₂_filterMap_instructions kept
  · intro operation
    rfl
  · intro locals step instruction stepKept
    have name : (function.mapCallee program.signature?).name = written.name := kept.signature.name
    rw [name]
    exact rel_record? distinct becomes marker written stepKept

/-- A scan of the program notes the constructor calls that are written in the listing. -/
theorem forall₂_scanProgram
    (distinct : (functions.map fun function => function.header.name).Nodup)
    (becomes : List.Forall₂ (WrittenFunction.Becomes functions scope) functions program.functions)
    (marker : String) :
    List.Forall₂ (WrittenCall.NotedAs scope.definitions) (constructorCalls marker functions)
      (Marker.scanProgram marker program) := by
  rw [Marker.scanProgram, Program.resolved, constructorCalls, List.filter_flatMap,
    List.flatMap_map]
  exact List.rel_flatMap becomes fun _ _ kept => forall₂_scan distinct becomes marker kept

end Scanning

/-! ## The program of a listing -/

namespace Module

/-- The program of a listing has its functions with their parameters, blocks and instructions
in order, in which calls, and only calls, stay calls and refer to the functions that they
name.  So a scan notes the constructor calls that are written, in order, and nothing else. -/
theorem program_keeps_listing
    {text : String}
    {module : Module}
    (read : ofText? text = some module) :
    ∃ entities scope, Listing.entities? text = some entities ∧
      Resolve.scope? entities = some scope ∧
      List.Forall₂ (WrittenFunction.Becomes (writtenFunctions entities) scope)
        (writtenFunctions entities) module.toProgram.functions ∧
      ∀ marker, List.Forall₂ (WrittenCall.NotedAs scope.definitions)
        (constructorCalls marker (writtenFunctions entities))
        (Marker.scanProgram marker module.toProgram) := by
  simp only [ofText?, Option.bind_eq_bind, Option.bind_eq_some_iff] at read
  obtain ⟨entities, listed, scope, resolved, parts, checked, same⟩ := read
  obtain rfl := Option.some.inj same
  have knows := Resolve.knows_of_scope? resolved
  have becomes : List.Forall₂ (WrittenFunction.Becomes (writtenFunctions entities) scope)
      (writtenFunctions entities) (parts.flatten.map (function scope.definitions)) :=
    knows.becomes_of_entities (Listing.isComplete_of_entities? listed)
      (Resolve.forall₂_of_mapM checked)
  exact ⟨entities, scope, listed, resolved, becomes, forall₂_scanProgram knows.distinct becomes⟩

/-- A function without a name that calls constructors before they are declared, a second name
of one and a value, and that ends a block by invoking one. -/
def mixedListing : String :=
  "%P = type i8*\n@BC1 = alias void (), void ()* @AC1\ndefine void @0(void ()* %f, i8) \x7b\n" ++
    "call void @AC1()\ncall void @BC1()\ncall void %f()\ncall void @CC1(%P null)\n" ++
    "invoke void @AC1() to label %a unwind label %b\na:\nret void\nb:\n" ++
    "%x = landingpad i32 cleanup\nret void\n\x7d\ndeclare void @AC1()\n" ++
    "declare void @CC1(%P, ...)\n"

/-- The functions of its program. -/
def mixedFunctions : List (Function Nat) :=
  [{ name := ""
     parameters := [⟨"f", "void ()*", true⟩, ⟨"", "i8", false⟩]
     variadic := false
     blocks := [
       some ⟨"", [some (.call ⟨some 1, [], 0⟩), some (.call ⟨none, [], 0⟩),
         some (.call ⟨none, [], 0⟩), some (.call ⟨some 2, [⟨"null", "%P", true⟩], 0⟩),
         some (.other "invoke")]⟩,
       some ⟨"a", [some (.other "ret")]⟩,
       some ⟨"b", [some (.other "landingpad"), some (.other "ret")]⟩] },
    { name := "AC1", parameters := [], variadic := false, blocks := [] },
    { name := "CC1", parameters := [⟨"", "%P", true⟩], variadic := true, blocks := [] }]

theorem program_keeps_listing_mixed :
    ∃ entities scope module, ofText? mixedListing = some module ∧
      Listing.entities? mixedListing = some entities ∧ Resolve.scope? entities = some scope ∧
      module.toProgram.functions = mixedFunctions ∧
      List.Forall₂ (WrittenFunction.Becomes (writtenFunctions entities) scope)
        (writtenFunctions entities) mixedFunctions ∧
      List.Forall₂ (WrittenCall.NotedAs scope.definitions)
        (constructorCalls "" (writtenFunctions entities))
        [⟨"", "AC1", .default, 0⟩, ⟨"", "CC1", .copy, 0⟩] := by
  have lowered : (ofText? mixedListing).map
      (fun module => (module.toProgram.functions, Marker.scanProgram "" module.toProgram)) =
        some (mixedFunctions, [⟨"", "AC1", .default, 0⟩, ⟨"", "CC1", .copy, 0⟩]) := by
    decide +kernel
  obtain ⟨module, read, both⟩ := Option.map_eq_some_iff.mp lowered
  obtain ⟨same, scanned⟩ := Prod.mk.inj both
  obtain ⟨entities, scope, listed, resolved, becomes, calls⟩ := program_keeps_listing read
  exact ⟨entities, scope, module, read, listed, resolved, same, same ▸ becomes,
    scanned ▸ calls ""⟩

end Module
end Assembly
end CtorScan
