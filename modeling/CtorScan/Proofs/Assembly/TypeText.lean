import CtorScan.Assembly.Ty
import CtorScan.Program.Description
import CtorScan.Proofs.Text.Trim
import Mathlib.Data.List.Infix

/-!
# Pointer types in writing

A description knows a type by its written form only, and calls it a pointer type by the way
it ends.  The written form of a type ends in an asterisk if and only if the type itself is
one of pointers.  A defined name is a pointer type as well if its definition leads to one,
and this is what the written form does not show.
-/

namespace CtorScan
namespace Assembly

/-! ## Beginnings and ends -/

/-- How written types begin: not with a blank, and with one `p` only if another one
follows. -/
def Begins (text : List Char) : Prop :=
  (∃ c rest, text = c :: rest ∧ Text.isBlank c = false ∧ c ≠ 'p') ∨
    ∃ rest, text = 'p' :: 'p' :: rest

/-- The text ends in a character that is not blank and is of some kind. -/
def EndsIn
    (allowed : Char -> Prop)
    (text : List Char) : Prop :=
  ∃ before c, text = before ++ [c] ∧ Text.isBlank c = false ∧ allowed c

theorem Begins.append
    {text : List Char}
    (begins : Begins text)
    (more : List Char) :
    Begins (text ++ more) := by
  rcases begins with ⟨c, rest, rfl, visible, other⟩ | ⟨rest, rfl⟩
  · exact Or.inl ⟨c, rest ++ more, rfl, visible, other⟩
  · exact Or.inr ⟨rest ++ more, rfl⟩

/-- The word for pointers begins with one `p`. -/
theorem Begins.not_prefix
    {text : List Char}
    (begins : Begins text)
    (word : List Char) :
    ¬ 'p' :: 't' :: word <+: text := by
  rintro ⟨more, rfl⟩
  rcases begins with ⟨c, rest, equal, -, other⟩ | ⟨rest, equal⟩
  · exact other (List.cons.inj equal).1.symm
  · have second := (List.cons.inj (List.cons.inj equal).2).1
    exact absurd second (by decide)

variable {allowed : Char -> Prop}

theorem EndsIn.of_append
    {text : List Char}
    (ends : EndsIn allowed text)
    (more : List Char) :
    EndsIn allowed (more ++ text) := by
  obtain ⟨before, c, rfl, visible, isAllowed⟩ := ends
  exact ⟨more ++ before, c, by simp, visible, isAllowed⟩

theorem endsIn_of_getLast?
    {text : List Char}
    {c : Char}
    (last : text.getLast? = some c)
    (visible : Text.isBlank c = false)
    (isAllowed : allowed c) :
    EndsIn allowed text := by
  obtain ⟨before, rfl⟩ := List.getLast?_eq_some_iff.mp last
  exact ⟨before, c, rfl, visible, isAllowed⟩

theorem endsIn_of_forall_mem
    {text : List Char}
    (nonempty : text ≠ [])
    (each : ∀ c ∈ text, Text.isBlank c = false ∧ allowed c) :
    EndsIn allowed text := by
  have last := each (text.getLast nonempty) (List.getLast_mem nonempty)
  exact endsIn_of_getLast? (List.getLast?_eq_some_getLast nonempty) last.1 last.2

theorem solid_of_begins
    {text : List Char}
    (begins : Begins text)
    (ends : EndsIn allowed text) :
    Text.Solid text where
  starts := by
    rcases begins with ⟨c, rest, equal, visible, -⟩ | ⟨rest, equal⟩
    · exact ⟨c, rest, equal, visible⟩
    · exact ⟨'p', 'p' :: rest, equal, by decide⟩
  ends := by
    obtain ⟨before, c, equal, visible, -⟩ := ends
    exact ⟨before, c, equal, visible⟩

/-- Of a text that begins like a written type, the end decides whether it is taken for a
pointer type, whatever blanks are around it. -/
theorem isPointerText_eq
    {early text late : String}
    (blankEarly : Text.Blank early.toList)
    (blankLate : Text.Blank late.toList)
    (begins : Begins text.toList)
    (ends : EndsIn allowed text.toList) :
    Description.isPointerText (early ++ text ++ late) = (text.toList.getLast? == some '*') := by
  have trimmed : Text.trim (early ++ text ++ late).toList = text.toList := by
    simpa using Text.trim_surrounded blankEarly (solid_of_begins begins ends) blankLate
  have notWord : text.toList ≠ "ptr".toList := by
    intro equal
    exact begins.not_prefix ['r'] ⟨[], equal.symm⟩
  have notSpaced : ("ptr addrspace(".toList.isPrefixOf text.toList) = false := by
    rw [Bool.eq_false_iff]
    intro starts
    exact begins.not_prefix _ (List.isPrefixOf_iff_prefix.mp starts)
  simp only [Description.isPointerText, trimmed, notSpaced, beq_eq_false_iff_ne.mpr notWord,
    Bool.false_or]

/-! ## Names and numbers -/

theorem toNat_of_isNameChar
    {c : Char}
    (nameChar : isNameChar c = true) :
    0x20 < c.toNat ∧ c.toNat < 0x80 := by
  have letters : c.isAlpha =
      (decide (c.val ≥ 65 ∧ c.val ≤ 90) || (c.val ≥ 97 && c.val ≤ 122)) := rfl
  simp only [isNameChar, isNameLetter, letters, Char.isDigit, Bool.or_eq_true, Bool.and_eq_true,
    decide_eq_true_eq, beq_iff_eq, ge_iff_le, UInt32.le_iff_toNat_le] at nameChar
  rcases nameChar with (((((upper | lower) | rfl) | rfl) | rfl) | rfl) | digit
  · change 65 ≤ c.toNat ∧ c.toNat ≤ 90 at upper
    omega
  · change 97 ≤ c.toNat ∧ c.toNat ≤ 122 at lower
    omega
  · decide
  · decide
  · decide
  · decide
  · change 48 ≤ c.toNat ∧ c.toNat ≤ 57 at digit
    omega

theorem endsIn_of_isNameChar
    {text : List Char}
    (nonempty : text ≠ [])
    (each : ∀ c ∈ text, isNameChar c = true) :
    EndsIn (· ≠ '*') text := by
  refine endsIn_of_forall_mem nonempty fun c member => ?_
  have nameChar := each c member
  have codes := toNat_of_isNameChar nameChar
  refine ⟨Text.isBlank_eq_false codes.1 codes.2, ?_⟩
  rintro rfl
  exact absurd nameChar (by decide)

theorem endsIn_number (number : Nat) :
    EndsIn (· ≠ '*') (toString number).toList := by
  rw [Nat.toString_eq_repr, Nat.toList_repr]
  refine endsIn_of_isNameChar Nat.toDigits_ne_nil fun c member => ?_
  have digit := Nat.isDigit_of_mem_toDigits (by decide) (by decide) member
  rw [isNameChar, digit, Bool.or_true]

/-- A name is written in quotes if there is anything in it that could be mistaken. -/
theorem endsIn_writtenName
    {name : String}
    (nonempty : name ≠ "") :
    EndsIn (· ≠ '*') (writtenName name).toList := by
  unfold writtenName
  split
  · rename_i bare
    refine endsIn_of_isNameChar ?_ (List.all_eq_true.mp bare)
    rwa [ne_eq, String.toList_eq_nil_iff]
  · rw [quotedBytes, String.toList_ofList]
    exact ⟨_, '"', rfl, by decide, by decide⟩

/-! ## Written types -/

namespace Ty

/-- The type is one of pointers by its own form. -/
def IsPointer (type : Ty) : Prop :=
  ∃ target space, type = .pointer target space

theorem text_struct_packed (fields : List Ty) :
    (Ty.struct true fields).text = "<" ++ (Ty.struct false fields).text ++ ">" := by
  simp [text]

theorem text_struct_plain (fields : List Ty) :
    ∃ inner, (Ty.struct false fields).text.toList = '\x7b' :: (inner ++ ['\x7d']) := by
  rw [text]
  cases fields with
  | nil => exact ⟨[], rfl⟩
  | cons first rest =>
      refine ⟨' ' :: ((", ".intercalate (texts (first :: rest))).toList ++ [' ']), ?_⟩
      simp

/-- No written type begins like the word for pointers.  A type that begins with another
type begins like that one. -/
theorem begins_text : (type : Ty) -> Begins type.text.toList
  | .void => Or.inl ⟨_, _, rfl, by decide, by decide⟩
  | .float format => by
      rw [text]
      cases format with
      | paired => exact Or.inr ⟨_, rfl⟩
      | _ => exact Or.inl ⟨_, _, rfl, by decide, by decide⟩
  | .plain type => by
      rw [text]
      cases type <;> exact Or.inl ⟨_, _, rfl, by decide, by decide⟩
  | .pointer target space => by
      rw [text]
      simp only [String.toList_append, List.append_assoc]
      exact (begins_text target).append _
  | .function result parameters variadic => by
      rw [text]
      simp only [String.toList_append, List.append_assoc]
      exact (begins_text result).append _
  | .struct false fields => by
      obtain ⟨inner, written⟩ := text_struct_plain fields
      exact Or.inl ⟨_, _, written, by decide, by decide⟩
  | .struct true fields => by
      rw [text_struct_packed]
      simp only [String.toList_append, List.append_assoc]
      exact Or.inl ⟨_, _, rfl, by decide, by decide⟩
  | .int bits => by
      rw [text, String.toList_append]
      exact Or.inl ⟨_, _, rfl, by decide, by decide⟩
  | .array length element => by
      rw [text]
      simp only [String.toList_append, List.append_assoc]
      exact Or.inl ⟨_, _, rfl, by decide, by decide⟩
  | .vector scalable length element => by
      rw [text]
      simp only [String.toList_append, List.append_assoc]
      exact Or.inl ⟨_, _, rfl, by decide, by decide⟩
  | .named (.name text) => by
      rw [Ty.text, String.toList_append]
      exact Or.inl ⟨_, _, rfl, by decide, by decide⟩
  | .named (.number value) => by
      rw [text, String.toList_append]
      exact Or.inl ⟨_, _, rfl, by decide, by decide⟩

/-- What is not a type of pointers by its own form ends in something else than an
asterisk, even if there are pointers inside of it. -/
theorem endsIn_text
    {type : Ty}
    (other : ¬ type.IsPointer) :
    EndsIn (· ≠ '*') type.text.toList := by
  cases type with
  | pointer target space => exact absurd ⟨target, space, rfl⟩ other
  | void => exact endsIn_of_getLast? rfl (by decide) (by decide)
  | int bits =>
      rw [text, String.toList_append]
      exact (endsIn_number bits).of_append _
  | float format =>
      rw [text]
      cases format <;> exact endsIn_of_getLast? rfl (by decide) (by decide)
  | plain type =>
      rw [text]
      cases type <;> exact endsIn_of_getLast? rfl (by decide) (by decide)
  | array length element =>
      rw [text, String.toList_append]
      exact ⟨_, ']', rfl, by decide, by decide⟩
  | vector scalable length element =>
      rw [text, String.toList_append]
      exact ⟨_, '>', rfl, by decide, by decide⟩
  | struct packed fields =>
      cases packed with
      | false =>
          obtain ⟨inner, written⟩ := text_struct_plain fields
          rw [written, ← List.cons_append]
          exact ⟨_, '\x7d', rfl, by decide, by decide⟩
      | true =>
          rw [text_struct_packed, String.toList_append]
          exact ⟨_, '>', rfl, by decide, by decide⟩
  | function result parameters variadic =>
      rw [text, String.toList_append]
      exact ⟨_, ')', rfl, by decide, by decide⟩
  | named name =>
      cases name with
      | number value =>
          rw [text, String.toList_append]
          exact (endsIn_number value).of_append _
      | name text =>
          rw [Ty.text, String.toList_append]
          by_cases nonempty : text = ""
          · subst nonempty
            exact endsIn_of_getLast? rfl (by decide) (by decide)
          · exact (endsIn_writtenName nonempty).of_append _

theorem endsIn_text_pointer
    (target : Ty)
    (space : Nat) :
    EndsIn (· = '*') (Ty.pointer target space).text.toList := by
  rw [text, String.toList_append]
  exact ⟨_, '*', rfl, by decide, rfl⟩

/-- A written type is taken for a pointer type if and only if it is one by its own form. -/
theorem isPointerText_text_iff
    (type : Ty)
    {early late : String}
    (blankEarly : Text.Blank early.toList)
    (blankLate : Text.Blank late.toList) :
    Description.isPointerText (early ++ type.text ++ late) = true ↔ type.IsPointer := by
  by_cases pointer : type.IsPointer
  · obtain ⟨target, space, rfl⟩ := pointer
    have ends := endsIn_text_pointer target space
    rw [isPointerText_eq blankEarly blankLate (begins_text _) ends, beq_iff_eq]
    obtain ⟨before, c, equal, -, rfl⟩ := ends
    simp [equal, IsPointer]
  · have ends := endsIn_text pointer
    rw [isPointerText_eq blankEarly blankLate (begins_text _) ends, beq_iff_eq]
    obtain ⟨before, c, equal, -, other⟩ := ends
    simp [equal, pointer, other]

/-! ## Defined names -/

/-- What a name is defined as, if that is known. -/
def definitionOf?
    (definitions : Definitions)
    (name : Ident) : Option Ty :=
  (definitions.find? fun entry => entry.1 = name).bind Prod.snd

/-- From a name, definitions lead over some names to a pointer type. -/
inductive Trail (definitions : Definitions) : List Ident -> Ident -> Prop where
  /-- The name is defined as a pointer type. -/
  | direct
      {name : Ident}
      {target : Ty}
      {space : Nat}
      (defined : definitionOf? definitions name = some (.pointer target space)) :
      Trail definitions [name] name
  /-- The name is defined as another one, from which they lead there. -/
  | through
      {name other : Ident}
      {names : List Ident}
      (defined : definitionOf? definitions name = some (.named other))
      (trail : Trail definitions names other) :
      Trail definitions (name :: names) name

/-- The type is another name of a pointer type. -/
def IsPointerAlias
    (definitions : Definitions)
    (type : Ty) : Prop :=
  ∃ name names, type = .named name ∧ Trail definitions names name

variable {definitions : Definitions}

theorem expandUpTo_named
    (bound : Nat)
    (name : Ident) :
    expandUpTo definitions (bound + 1) (.named name) =
      match definitionOf? definitions name with
      | some type => expandUpTo definitions bound type
      | none => .named name := by
  rw [expandUpTo, definitionOf?]
  cases definitions.find? fun entry => entry.1 = name with
  | none => rfl
  | some entry =>
      obtain ⟨own, type⟩ := entry
      cases type <;> rfl

/-- What is no name stands for itself. -/
theorem expandUpTo_of_not_named
    {type : Ty}
    (other : ∀ name, type ≠ .named name)
    (bound : Nat) :
    expandUpTo definitions bound type = type := by
  cases bound with
  | zero => rw [expandUpTo]
  | succ bound =>
      rw [expandUpTo]
      · exact Nat.succ_ne_zero bound
      · exact fun _ name _ equal => other name equal

theorem exists_trail_of_expandUpTo
    {bound : Nat}
    {name : Ident}
    (pointer : (expandUpTo definitions bound (.named name)).IsPointer) :
    ∃ names, Trail definitions names name := by
  induction bound generalizing name with
  | zero =>
      obtain ⟨target, space, equal⟩ := pointer
      simp [expandUpTo] at equal
  | succ bound inductionHypothesis =>
      rw [expandUpTo_named] at pointer
      cases defined : definitionOf? definitions name with
      | none =>
          obtain ⟨target, space, equal⟩ := pointer
          simp [defined] at equal
      | some type =>
          simp only [defined] at pointer
          by_cases named : ∃ other, type = .named other
          · obtain ⟨other, rfl⟩ := named
            obtain ⟨names, trail⟩ := inductionHypothesis pointer
            exact ⟨name :: names, .through defined trail⟩
          · rw [expandUpTo_of_not_named (by simpa using named)] at pointer
            obtain ⟨target, space, rfl⟩ := pointer
            exact ⟨[name], .direct defined⟩

namespace Trail

variable {names others : List Ident} {name : Ident}

/-- There is only one way to go. -/
theorem unique
    (trail : Trail definitions names name)
    (other : Trail definitions others name) :
    names = others := by
  induction trail generalizing others with
  | direct defined =>
      cases other with
      | direct => rfl
      | through otherwise => rw [defined] at otherwise; cases otherwise
  | through defined _ inductionHypothesis =>
      cases other with
      | direct otherwise => rw [defined] at otherwise; cases otherwise
      | through again rest =>
          rw [defined] at again
          cases again
          rw [inductionHypothesis rest]

theorem mem_map_fst_of_definitionOf?
    {type : Ty}
    (defined : definitionOf? definitions name = some type) :
    name ∈ definitions.map Prod.fst := by
  obtain ⟨entry, found, -⟩ := Option.bind_eq_some_iff.mp defined
  have own : entry.1 = name := by simpa using List.find?_some found
  exact List.mem_map.mpr ⟨entry, List.mem_of_find?_eq_some found, own⟩

theorem subset (trail : Trail definitions names name) :
    names ⊆ definitions.map Prod.fst := by
  induction trail with
  | direct defined => simpa using mem_map_fst_of_definitionOf? defined
  | through defined _ inductionHypothesis =>
      exact List.cons_subset.mpr ⟨mem_map_fst_of_definitionOf? defined, inductionHypothesis⟩

/-- From each name on the trail, the rest of the trail goes on. -/
theorem exists_suffix_of_mem
    (trail : Trail definitions names name)
    {other : Ident}
    (member : other ∈ names) :
    ∃ rest, rest <:+ names ∧ Trail definitions rest other := by
  induction trail with
  | direct defined =>
      obtain rfl := List.mem_singleton.mp member
      exact ⟨_, List.suffix_rfl, .direct defined⟩
  | through defined trail inductionHypothesis =>
      rcases List.mem_cons.mp member with rfl | later
      · exact ⟨_, List.suffix_rfl, .through defined trail⟩
      · obtain ⟨rest, isSuffix, goesOn⟩ := inductionHypothesis later
        exact ⟨rest, isSuffix.trans (List.suffix_cons _ _), goesOn⟩

/-- No name is met twice, since the way from it would be longer than itself. -/
theorem nodup (trail : Trail definitions names name) :
    names.Nodup := by
  induction trail with
  | direct => simp
  | through defined trail inductionHypothesis =>
      refine List.nodup_cons.mpr ⟨?_, inductionHypothesis⟩
      intro again
      obtain ⟨rest, isSuffix, goesOn⟩ := trail.exists_suffix_of_mem again
      have same := goesOn.unique (.through defined trail)
      have shorter := isSuffix.length_le
      rw [same, List.length_cons] at shorter
      omega

theorem length_le (trail : Trail definitions names name) :
    names.length ≤ definitions.length := by
  simpa using trail.nodup.length_le_of_subset trail.subset

theorem isPointer_expandUpTo
    (trail : Trail definitions names name)
    {bound : Nat}
    (enough : names.length ≤ bound) :
    (expandUpTo definitions bound (.named name)).IsPointer := by
  induction trail generalizing bound with
  | direct defined =>
      obtain ⟨more, rfl⟩ := Nat.exists_eq_add_of_lt enough
      rw [expandUpTo_named, defined]
      exact ⟨_, _, expandUpTo_of_not_named (by simp) _⟩
  | through defined _ inductionHypothesis =>
      obtain ⟨more, rfl⟩ := Nat.exists_eq_add_of_lt enough
      rw [expandUpTo_named, defined]
      exact inductionHypothesis (by omega)

end Trail

/-- A type is one of pointers by its own form, or it is another name of one.  There are
enough steps for every trail, since it meets each defined name once at most. -/
theorem isPointer_iff (type : Ty) :
    type.isPointer definitions = true ↔ type.IsPointer ∨ type.IsPointerAlias definitions := by
  have expanded : type.isPointer definitions = true ↔ (type.expand definitions).IsPointer := by
    unfold isPointer IsPointer
    cases type.expand definitions <;> simp
  rw [expanded, expand]
  by_cases named : ∃ name, type = .named name
  · obtain ⟨name, rfl⟩ := named
    constructor
    · intro pointer
      obtain ⟨names, trail⟩ := exists_trail_of_expandUpTo pointer
      exact Or.inr ⟨name, names, rfl, trail⟩
    · rintro (⟨_, _, equal⟩ | ⟨_, names, equal, trail⟩)
      · contradiction
      · cases equal
        exact trail.isPointer_expandUpTo (Nat.le_succ_of_le trail.length_le)
  · rw [expandUpTo_of_not_named (by simpa using named)]
    refine (or_iff_left ?_).symm
    rintro ⟨name, _, rfl, _⟩
    exact named ⟨name, rfl⟩

/-- The test on the written form of a type and the test on its structure agree.  A
parameter that is described by the written form, with whatever blanks around it and
without a word about pointers, is a pointer if and only if the type is one, with one
exception: of a name that is defined as a pointer type the written form shows nothing. -/
theorem written_and_structural_pointers_agree
    (definitions : Definitions)
    (type : Ty)
    (name : String)
    {early late : String}
    (blankEarly : Text.Blank early.toList)
    (blankLate : Text.Blank late.toList) :
    let structural := type.toTypeText definitions
    let described := Description.Param.toParameter ⟨name, early ++ structural.text ++ late, none⟩
    (¬ type.IsPointerAlias definitions -> described.type.pointer = structural.pointer) ∧
      (type.IsPointerAlias definitions ->
        described.type.pointer = false ∧ structural.pointer = true) := by
  intro structural described
  have written : described.type.pointer = true ↔ type.IsPointer :=
    isPointerText_text_iff type blankEarly blankLate
  have whole : structural.pointer = true ↔ _ := isPointer_iff type
  constructor
  · intro noAlias
    rw [Bool.eq_iff_iff, written, whole, or_iff_left noAlias]
  · intro isAlias
    refine ⟨?_, whole.mpr (Or.inr isAlias)⟩
    obtain ⟨name, _, rfl, _⟩ := isAlias
    rw [Bool.eq_false_iff, ne_eq, written]
    rintro ⟨_, _, equal⟩
    contradiction

/-- A name that is defined as another one, which is defined as a pointer type. -/
def sampleDefinitions : Definitions :=
  [(.name "P*", some (.pointer (.struct true [.named (.name "Q")]) 3)),
    (.name "Q", some (.named (.name "P*")))]

/-- Pointers to what the name stands for are known by their written form, the name is not. -/
theorem written_and_structural_pointers_agree_sample :
    let pointer := (Ty.pointer (.named (.name "P*")) 3).toTypeText sampleDefinitions
    let name := (Ty.named (.name "Q")).toTypeText sampleDefinitions
    (pointer.text = "%\"P*\" addrspace(3)*" ∧ pointer.pointer = true ∧
        (Description.Param.toParameter
          ⟨"x", " " ++ pointer.text ++ "\t\n", none⟩).type.pointer = true) ∧
      name.text = "%Q" ∧ name.pointer = true ∧
        (Description.Param.toParameter
          ⟨"y", "" ++ name.text ++ "", none⟩).type.pointer = false := by
  have blank : Text.Blank " ".toList ∧ Text.Blank "\t\n".toList ∧ Text.Blank "".toList := by
    simp [Text.Blank, Text.isBlank]
  have noAlias : ¬ (Ty.pointer (.named (.name "P*")) 3).IsPointerAlias sampleDefinitions := by
    rintro ⟨_, _, equal, _⟩
    contradiction
  have isAlias : (Ty.named (.name "Q")).IsPointerAlias sampleDefinitions :=
    ⟨_, _, rfl, .through rfl (.direct rfl)⟩
  have agree := (written_and_structural_pointers_agree sampleDefinitions _ "x" blank.1
    blank.2.1).1 noAlias
  have differ := (written_and_structural_pointers_agree sampleDefinitions _ "y" blank.2.2
    blank.2.2).2 isAlias
  exact ⟨⟨by decide, rfl, agree⟩, by decide, differ.2, differ.1⟩

end Ty
end Assembly
end CtorScan
