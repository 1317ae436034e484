import CtorScan.Proofs.Constructor.Targets
import Mathlib.Logic.Relation

/-!
# Programs that resemble each other

The outline of a function is its name, whether it has a body, the shape of its declared
parameters, and its calls of functions with names, each with its place.  Programs resemble
each other when they have the same name and the same outlines.  A scan sees nothing but
outlines, so resembling programs are scanned alike.

Many changes of a program lead to one that resembles it: changes of arguments, of the
names and types of parameters, of the names and boundaries of blocks, and of everything
in a body that is no call of a function with a name.
-/

namespace CtorScan

/-! ## Parameters -/

/-- What declared parameters look like from afar. -/
inductive Shape where
  /-- There are none. -/
  | empty
  /-- There is exactly one, a pointer. -/
  | pointer
  /-- There is anything else. -/
  | other
deriving DecidableEq

namespace Shape

/-- The shape of declared parameters. -/
def ofParameters (parameters : List Parameter) : Shape :=
  if parameters = [] then .empty
  else if parameters.map (fun parameter => parameter.type.pointer) = [true] then .pointer
  else .other

/-- The kind of constructors whose parameters have the shape. -/
def kind : Shape -> Kind
  | .empty => .default
  | .pointer => .copy
  | .other => .parameterized

/-- The shape of its parameters decides the kind of a constructor. -/
theorem kind_ofParameters (parameters : List Parameter) :
    Kind.ofParameters parameters = (ofParameters parameters).kind := by
  match parameters with
  | [] => rfl
  | [parameter] =>
      cases pointer : parameter.type.pointer <;>
        simp [Kind.ofParameters, ofParameters, kind, pointer]
  | first :: second :: rest => simp [Kind.ofParameters, ofParameters, kind]

/-- The shape of parameters depends on which of them are pointers. -/
theorem ofParameters_eq_of_pointers_eq
    {first second : List Parameter}
    (pointers : first.map (fun parameter => parameter.type.pointer) =
      second.map fun parameter => parameter.type.pointer) :
    ofParameters first = ofParameters second := by
  have none : first = [] ↔ second = [] := by
    rw [← List.map_eq_nil_iff, pointers, List.map_eq_nil_iff]
  rw [ofParameters, ofParameters, pointers]
  simp only [none]

end Shape

/-! ## Outlines -/

/-- What a run may learn about a function. -/
structure Outline where
  /-- The name of the function. -/
  name : String
  /-- Whether it has no body. -/
  isDeclaration : Bool
  /-- The shape of its parameters. -/
  shape : Shape
  /-- Its calls of functions with names, in the order of the body: the position of the
  called function and the place of the call. -/
  calls : List (Nat × Int)
deriving DecidableEq

namespace Outline

/-- What a scan sees of a call of the function at a place. -/
def seen?
    (position : Int)
    (callee : Outline) : Option (String × Kind × Int) :=
  if callee.name = "" then none else some (callee.name, callee.shape.kind, position)

/-- What a scan sees of a call, given the outlines of all functions. -/
def seenCall?
    (outlines : List Outline)
    (call : Nat × Int) : Option (String × Kind × Int) :=
  (outlines[call.1]?).bind (seen? call.2)

/-- What a scan of the function finds, given the outlines of all functions. -/
def records
    (outlines : List Outline)
    (marker : String)
    (outline : Outline) : List Record :=
  (outline.calls.filterMap (seenCall? outlines)).filterMap (Marker.recordOf? marker outline.name)

end Outline

namespace Program

/-- The function at a position is there and has a name. -/
def isNamed
    (program : Program)
    (index : Nat) : Bool :=
  (program.functions[index]?).any fun callee => callee.name ≠ ""

/-- The position of the called function and the place of the call, if the instruction is
a call of a function with a name. -/
def namedCall?
    (program : Program) : Option (Instruction Nat) -> Option (Nat × Int)
  | some (.call ⟨some index, _, position⟩) =>
      if program.isNamed index then some (index, position) else none
  | _ => none

/-- The calls of functions with names in a function, in the order of its body. -/
def namedCalls
    (program : Program)
    (function : Function Nat) : List (Nat × Int) :=
  function.instructions.filterMap program.namedCall?

/-- The outline of a function of the program. -/
def outline
    (program : Program)
    (function : Function Nat) : Outline where
  name := function.name
  isDeclaration := function.isDeclaration
  shape := .ofParameters function.parameters
  calls := program.namedCalls function

/-- The outlines of the functions, in order. -/
def outlines (program : Program) : List Outline :=
  program.functions.map program.outline

/-- Two programs have the same name and as many functions.  At every position the
functions have the same name, both have a body or neither has one, their parameters have
the same shape, and they call the same functions with names at the same places, in the
same order. -/
structure Resembles (first second : Program) : Prop where
  /-- The names are the same. -/
  name : first.name = second.name
  /-- The functions agree one by one. -/
  outlines : first.outlines = second.outlines

/-! ## Scanning outlines -/

theorem target?_mapCallee
    (program : Program)
    (instruction : Option (Instruction Nat)) :
    Marker.target? (instruction.map (Instruction.mapCallee program.signature?)) =
      (program.namedCall? instruction).bind (Outline.seenCall? program.outlines) := by
  match instruction with
  | none => rfl
  | some (.other operation) => rfl
  | some (.call ⟨none, arguments, position⟩) => rfl
  | some (.call ⟨some index, arguments, position⟩) =>
      have reading : Marker.target? ((some (.call ⟨some index, arguments, position⟩)).map
          (Instruction.mapCallee program.signature?)) =
            (program.signature? index).bind (Marker.seen? position) := rfl
      rw [reading, namedCall?, isNamed, signature?]
      cases found : program.functions[index]? with
      | none => rfl
      | some callee =>
          by_cases unnamed : callee.name = "" <;>
            simp [Marker.seen?, Outline.seenCall?, outlines, outline, Outline.seen?, found, unnamed,
              Shape.kind_ofParameters]

/-- A scan of a function sees its outline and those of the functions it calls. -/
theorem scan_mapCallee
    (program : Program)
    (marker : String)
    (function : Function Nat) :
    Marker.scan marker (some (function.mapCallee program.signature?)) =
      (program.outline function).records program.outlines marker := by
  have seen : (Marker.target? ∘ Option.map (Instruction.mapCallee program.signature?)) =
      fun instruction =>
        (program.namedCall? instruction).bind (Outline.seenCall? program.outlines) :=
    funext program.target?_mapCallee
  rw [Marker.scan_eq_filterMap_targets, Function.instructions_mapCallee, List.filterMap_map, seen,
    ← List.filterMap_filterMap]
  rfl

/-! ## Changes that leave outlines as they are -/

theorem Resembles.refl (program : Program) : program.Resembles program :=
  ⟨rfl, rfl⟩

theorem Resembles.symm
    {first second : Program}
    (resembles : first.Resembles second) :
    second.Resembles first :=
  ⟨resembles.name.symm, resembles.outlines.symm⟩

theorem Resembles.trans
    {first second third : Program}
    (early : first.Resembles second)
    (late : second.Resembles third) :
    first.Resembles third :=
  ⟨early.name.trans late.name, early.outlines.trans late.outlines⟩

/-- An instruction that calls no function with a name. -/
inductive Silent (program : Program) : Option (Instruction Nat) -> Prop
  /-- There is no instruction. -/
  | absent : Silent program none
  /-- It is no call. -/
  | other (operation : String) : Silent program (some (.other operation))
  /-- It is not known what it calls. -/
  | unresolved (arguments : List Argument) (position : Int) :
      Silent program (some (.call ⟨none, arguments, position⟩))
  /-- The function that it calls has no name. -/
  | anonymous
      {index : Nat}
      {callee : Function Nat}
      (found : program.functions[index]? = some callee)
      (unnamed : callee.name = "")
      (arguments : List Argument)
      (position : Int) :
      Silent program (some (.call ⟨some index, arguments, position⟩))

/-- A change of a body. -/
inductive BodyEdit
    (program : Program) : List (Option (Block Nat)) -> List (Option (Block Nat)) -> Prop
  /-- A call gets other arguments. -/
  | arguments
      (early late : List (Option (Block Nat)))
      (name : String)
      (before after : List (Option (Instruction Nat)))
      (callee : Option Nat)
      (position : Int)
      (first second : List Argument) :
      BodyEdit program
        (early ++ some ⟨name, before ++ some (.call ⟨callee, first, position⟩) :: after⟩ :: late)
        (early ++ some ⟨name, before ++ some (.call ⟨callee, second, position⟩) :: after⟩ :: late)
  /-- An instruction is added that calls no function with a name. -/
  | instruction
      (early late : List (Option (Block Nat)))
      (name : String)
      (before after : List (Option (Instruction Nat)))
      {added : Option (Instruction Nat)}
      (silent : program.Silent added) :
      BodyEdit program
        (early ++ some ⟨name, before ++ after⟩ :: late)
        (early ++ some ⟨name, before ++ added :: after⟩ :: late)
  /-- A block gets another name. -/
  | rename
      (early late : List (Option (Block Nat)))
      (first second : String)
      (instructions : List (Option (Instruction Nat))) :
      BodyEdit program
        (early ++ some ⟨first, instructions⟩ :: late)
        (early ++ some ⟨second, instructions⟩ :: late)
  /-- A block is cut in two. -/
  | cut
      (early late : List (Option (Block Nat)))
      (name first second : String)
      (before after : List (Option (Instruction Nat))) :
      BodyEdit program
        (early ++ some ⟨name, before ++ after⟩ :: late)
        (early ++ some ⟨first, before⟩ :: some ⟨second, after⟩ :: late)
  /-- An absent block is added to a body. -/
  | absentBlock
      (early late : List (Option (Block Nat)))
      (body : early ++ late ≠ []) :
      BodyEdit program (early ++ late) (early ++ none :: late)
  /-- An empty block is added to a body. -/
  | emptyBlock
      (early late : List (Option (Block Nat)))
      (name : String)
      (body : early ++ late ≠ []) :
      BodyEdit program (early ++ late) (early ++ some ⟨name, []⟩ :: late)

/-- A change of a function. -/
inductive FunctionEdit (program : Program) : Function Nat -> Function Nat -> Prop
  /-- Parameters get other names and other types, but pointers stay pointers and nothing
  else becomes one. -/
  | parameters
      (function : Function Nat)
      (parameters : List Parameter)
      (pointers : parameters.map (fun parameter => parameter.type.pointer) =
        function.parameters.map fun parameter => parameter.type.pointer) :
      FunctionEdit program function { function with parameters := parameters }
  /-- More arguments may follow the declared ones, or no longer so. -/
  | variadic (function : Function Nat) (variadic : Bool) :
      FunctionEdit program function { function with variadic := variadic }
  /-- The body changes. -/
  | body
      (function : Function Nat)
      {blocks : List (Option (Block Nat))}
      (edit : program.BodyEdit function.blocks blocks) :
      FunctionEdit program function { function with blocks := blocks }

/-- A change of one function of a program. -/
inductive Edit : Program -> Program -> Prop
  | function
      (name : String)
      (early late : List (Function Nat))
      {own other : Function Nat}
      (edit : FunctionEdit ⟨name, early ++ own :: late⟩ own other) :
      Edit ⟨name, early ++ own :: late⟩ ⟨name, early ++ other :: late⟩

theorem Silent.namedCall?_eq_none
    {program : Program}
    {instruction : Option (Instruction Nat)}
    (silent : program.Silent instruction) :
    program.namedCall? instruction = none := by
  cases silent with
  | absent => rfl
  | other operation => rfl
  | unresolved arguments position => rfl
  | anonymous found unnamed arguments position => simp [namedCall?, isNamed, found, unnamed]

theorem namedCall?_call
    (program : Program)
    (callee : Option Nat)
    (first second : List Argument)
    (position : Int) :
    program.namedCall? (some (.call ⟨callee, first, position⟩)) =
      program.namedCall? (some (.call ⟨callee, second, position⟩)) := by
  cases callee <;> rfl

/-- Only bodies are changed, and they stay bodies. -/
theorem BodyEdit.ne_nil
    {program : Program}
    {first second : List (Option (Block Nat))}
    (edit : program.BodyEdit first second) :
    first ≠ [] ∧ second ≠ [] := by
  cases edit with
  | absentBlock early late body => exact ⟨body, by simp⟩
  | emptyBlock early late name body => exact ⟨body, by simp⟩
  | _ => simp

theorem BodyEdit.namedCalls_eq
    {program : Program}
    {first second : List (Option (Block Nat))}
    (edit : program.BodyEdit first second)
    (signature : Signature) :
    program.namedCalls ⟨signature, first⟩ = program.namedCalls ⟨signature, second⟩ := by
  unfold namedCalls Function.instructions
  cases edit with
  | arguments early late name before after callee position first second =>
      simp [List.filterMap_cons, program.namedCall?_call callee first second]
  | instruction early late name before after silent => simp [silent.namedCall?_eq_none]
  | rename early late first second instructions => simp
  | cut early late name first second before after => simp
  | absentBlock early late body => simp
  | emptyBlock early late name body => simp

theorem FunctionEdit.outline_eq
    {program : Program}
    {own other : Function Nat}
    (edit : program.FunctionEdit own other) :
    program.outline own = program.outline other := by
  cases edit with
  | parameters parameters pointers =>
      have shape := Shape.ofParameters_eq_of_pointers_eq pointers
      simp only [outline, shape]
      rfl
  | variadic variadic => rfl
  | @body blocks edit =>
      obtain ⟨signature, ownBlocks⟩ := own
      obtain ⟨ownBody, otherBody⟩ := edit.ne_nil
      have declarations : (⟨signature, ownBlocks⟩ : Function Nat).isDeclaration =
          (⟨signature, blocks⟩ : Function Nat).isDeclaration := by
        rw [Function.isDeclaration, Function.isDeclaration, List.isEmpty_eq_false_iff.mpr ownBody,
          List.isEmpty_eq_false_iff.mpr otherBody]
      simp only [outline, declarations, edit.namedCalls_eq signature]

/-- Which functions have names is seen in the outlines. -/
theorem isNamed_eq
    (program : Program)
    (index : Nat) :
    program.isNamed index =
      ((program.functions.map fun function => function.name)[index]?).any
        fun name => name ≠ "" := by
  rw [List.getElem?_map, Option.any_map]
  rfl

/-- An outline depends on the program only by the names of its functions. -/
theorem outline_congr
    {first second : Program}
    (names : (first.functions.map fun function => function.name) =
      second.functions.map fun function => function.name) :
    first.outline = second.outline := by
  have named : first.isNamed = second.isNamed := by
    funext index
    rw [isNamed_eq, isNamed_eq, names]
  have calls : first.namedCall? = second.namedCall? := by
    funext instruction
    match instruction with
    | none => rfl
    | some (.other operation) => rfl
    | some (.call ⟨none, arguments, position⟩) => rfl
    | some (.call ⟨some index, arguments, position⟩) => simp only [namedCall?, named]
  funext function
  simp only [outline, namedCalls, calls]

/-- A change of one function leads to a program that resembles the first. -/
theorem Edit.resembles
    {first second : Program}
    (edit : Edit first second) :
    first.Resembles second := by
  cases edit with
  | @function name early late own other edit =>
      have same := edit.outline_eq
      have sameName : own.name = other.name := congrArg Outline.name same
      refine ⟨rfl, ?_⟩
      rw [outlines, outlines, @outline_congr ⟨name, early ++ other :: late⟩
        ⟨name, early ++ own :: late⟩ (by simp [sameName])]
      simp [same]

/-- Changes in any number, made or undone, lead to programs that resemble each other. -/
theorem resembles_of_edits
    {first second : Program}
    (edits : Relation.EqvGen Edit first second) :
    first.Resembles second := by
  induction edits with
  | rel _ _ edit => exact edit.resembles
  | refl program => exact .refl program
  | symm _ _ _ inductionHypothesis => exact inductionHypothesis.symm
  | trans _ _ _ _ _ early late => exact early.trans late

end Program
end CtorScan
