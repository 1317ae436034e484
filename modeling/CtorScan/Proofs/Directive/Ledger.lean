import CtorScan.Directive.Ledger
import Mathlib.Data.List.Nodup
import Mathlib.Data.List.Pairwise

/-!
# What a ledger remembers

Asking a ledger whether findings are suppressed changes only what its directives were
of use for.  So the directive that a finding is credited to can be read off the ledger
before anything was asked, and what a directive was of use for afterwards is told by the
findings that are credited to it.
-/

namespace CtorScan

/-! ## Entries by key -/

/-- An entry that is put under a key takes the place of those that were there. -/
theorem lookup_insert
    {α β : Type}
    [BEq α] [LawfulBEq α] [DecidableEq α]
    (entries : List (α × β))
    (key : α)
    (value : β)
    (other : α) :
    ((key, value) :: entries.filter fun entry => entry.1 ≠ key).lookup other =
      if other = key then some value else entries.lookup other := by
  by_cases here : other = key
  · simp [here]
  · have elsewhere : (other == key) = false := by simpa using here
    rw [List.lookup_cons, elsewhere, if_neg here]
    induction entries with
    | nil => rfl
    | cons first rest inductionHypothesis =>
        obtain ⟨own, ownValue⟩ := first
        by_cases isKey : own = key
        · have notOwn : (other == own) = false := by simpa [isKey] using here
          simpa [isKey, List.lookup_cons, notOwn, elsewhere] using inductionHypothesis
        · by_cases isOwn : other = own
          · simp [isKey, isOwn]
          · have notOwn : (other == own) = false := by simpa using isOwn
            simpa [isKey, List.lookup_cons, notOwn] using inductionHypothesis

theorem nodup_map_of_increasing
    {α : Type}
    {place : α -> Nat}
    {entries : List α}
    (increasing : entries.Pairwise fun early late => place early < place late) :
    (entries.map place).Nodup := by
  rw [List.Nodup, List.pairwise_map]
  exact increasing.imp Nat.ne_of_lt

/-- Of entries in the order of their places, a search from the end finds the one with the
largest place that passes the test. -/
theorem find?_reverse_eq_some_iff
    {α : Type}
    {place : α -> Nat}
    {entries : List α}
    (increasing : entries.Pairwise fun early late => place early < place late)
    {test : α -> Bool}
    {entry : α} :
    entries.reverse.find? test = some entry ↔
      entry ∈ entries ∧ test entry = true ∧
        ∀ other ∈ entries, test other = true -> place other ≤ place entry := by
  have largest : ∀ found, entries.reverse.find? test = some found ->
      ∀ other ∈ entries, test other = true -> place other ≤ place found := by
    intro found search other member passes
    obtain ⟨-, before, after, split, unmet⟩ := List.find?_eq_some_iff_append.mp search
    have decreasing := List.pairwise_reverse.mpr increasing
    rw [split, List.pairwise_append, List.pairwise_cons] at decreasing
    rw [← List.mem_reverse, split, List.mem_append, List.mem_cons] at member
    rcases member with inBefore | rfl | inAfter
    · have missed := unmet other inBefore
      simp [passes] at missed
    · exact Nat.le_refl _
    · exact Nat.le_of_lt (decreasing.2.1.1 other inAfter)
  constructor
  · intro search
    exact ⟨List.mem_reverse.mp (List.mem_of_find?_eq_some search), List.find?_some search,
      largest entry search⟩
  · rintro ⟨member, passes, last⟩
    cases search : entries.reverse.find? test with
    | none =>
        have missed := List.find?_eq_none.mp search entry (List.mem_reverse.mpr member)
        exact absurd passes missed
    | some found =>
        have foundMember := List.mem_reverse.mp (List.mem_of_find?_eq_some search)
        have samePlace := Nat.le_antisymm (last found foundMember (List.find?_some search))
          (largest found search entry member passes)
        rw [List.inj_on_of_nodup_map (nodup_map_of_increasing increasing) foundMember member
          samePlace]

namespace Directive

/-! ## Uses of a directive -/

namespace Entry

/-- The entry after it suppressed findings of some kinds. -/
def useAll
    (entry : Entry)
    (kinds : List String) : Entry :=
  kinds.foldl use entry

theorem mem_used_use
    {entry : Entry}
    {kind other : String} :
    other ∈ (entry.use kind).used ↔ other ∈ entry.used ∨ other = kind := by
  simp only [use]
  split
  · rename_i known
    constructor
    · exact Or.inl
    · rintro (member | rfl)
      · exact member
      · simpa using known
  · simp

@[simp] theorem useAll_position
    (entry : Entry)
    (kinds : List String) :
    (entry.useAll kinds).position = entry.position := by
  induction kinds generalizing entry with
  | nil => rfl
  | cons kind rest inductionHypothesis => exact inductionHypothesis (entry.use kind)

@[simp] theorem useAll_kinds
    (entry : Entry)
    (kinds : List String) :
    (entry.useAll kinds).kinds = entry.kinds := by
  induction kinds generalizing entry with
  | nil => rfl
  | cons kind rest inductionHypothesis => exact inductionHypothesis (entry.use kind)

/-- An entry remembers exactly the kinds it was used for. -/
theorem mem_used_useAll
    {entry : Entry}
    {kinds : List String}
    {kind : String} :
    kind ∈ (entry.useAll kinds).used ↔ kind ∈ entry.used ∨ kind ∈ kinds := by
  induction kinds generalizing entry with
  | nil => simp [useAll]
  | cons first rest inductionHypothesis =>
      have later : kind ∈ ((entry.use first).useAll rest).used ↔ _ := inductionHypothesis
      rw [mem_used_use, or_assoc, ← List.mem_cons] at later
      exact later

end Entry

namespace Ledger

/-! ## Lines with directives -/

/-- No line has two directives. -/
def IsFunctional (ledger : Ledger) : Prop :=
  (ledger.entries.map Prod.fst).Nodup

theorem find?_eq_some_iff
    {ledger : Ledger}
    (functional : ledger.IsFunctional)
    {line : Int}
    {entry : Entry} :
    ledger.find? line = some entry ↔ (line, entry) ∈ ledger.entries := by
  obtain ⟨entries⟩ := ledger
  induction entries with
  | nil => simp [find?]
  | cons first rest inductionHypothesis =>
      obtain ⟨other, firstEntry⟩ := first
      obtain ⟨fresh, others⟩ := List.nodup_cons.mp functional
      have later := inductionHypothesis others
      by_cases here : line = other
      · subst here
        have absent : (line, entry) ∉ rest := by
          intro member
          exact fresh (List.mem_map.mpr ⟨_, member, rfl⟩)
        simp [find?, absent, eq_comm]
      · have elsewhere : (line == other) = false := by simpa using here
        simpa [find?, List.lookup_cons, elsewhere, here] using later

theorem find?_insert
    (ledger : Ledger)
    (line : Int)
    (entry : Entry)
    (other : Int) :
    (ledger.insert line entry).find? other =
      if other = line then some entry else ledger.find? other :=
  lookup_insert ledger.entries line entry other

/-- A directive on the line speaks about the kind, if no line has two of them. -/
theorem suppressesAt_iff
    {ledger : Ledger}
    (functional : ledger.IsFunctional)
    {line : Int}
    {kind : String} :
    ledger.suppressesAt line kind = true ↔
      ∃ entry, (line, entry) ∈ ledger.entries ∧ entry.suppresses kind = true := by
  simp only [suppressesAt, Option.any_eq_true, find?_eq_some_iff functional]

/-! ## Crediting findings -/

/-- The line of the directive that suppresses a finding of a kind on a line: that line
or, failing that, the line before. -/
def credited?
    (ledger : Ledger)
    (line : Int)
    (kind : String) : Option Int :=
  if ledger.suppressesAt line kind then some line
  else if ledger.suppressesAt (line - 1) kind then some (line - 1)
  else none

/-- A finding is credited to a directive that speaks about it: the one on its line or,
if that does not speak about it, the one on the line before. -/
theorem credited?_eq_some_iff
    {ledger : Ledger}
    {line credited : Int}
    {kind : String} :
    ledger.credited? line kind = some credited ↔
      ledger.suppressesAt credited kind = true ∧
        (line = credited ∨
          line = credited + 1 ∧ ledger.suppressesAt (credited + 1) kind = false) := by
  have before : line - 1 = credited ↔ line = credited + 1 := by omega
  rw [credited?]
  split
  · rename_i here
    rw [Option.some.injEq]
    constructor
    · rintro rfl
      exact ⟨here, Or.inl rfl⟩
    · rintro ⟨-, same | ⟨rfl, notHere⟩⟩
      · exact same
      · rw [here] at notHere
        contradiction
  · rename_i notHere
    split
    · rename_i suppressed
      rw [Option.some.injEq, before]
      constructor
      · rintro rfl
        exact ⟨by simpa using suppressed, Or.inr ⟨rfl, by simpa using notHere⟩⟩
      · rintro ⟨onIt, rfl | ⟨justBefore, -⟩⟩
        · contradiction
        · exact justBefore
    · rename_i unsuppressed
      simp only [reduceCtorEq, false_iff]
      rintro ⟨onIt, rfl | ⟨justBefore, -⟩⟩
      · contradiction
      · rw [before.mpr justBefore] at unsuppressed
        contradiction

theorem suppress_eq
    (ledger : Ledger)
    (line : Int)
    (kind : String) :
    ledger.suppress line kind =
      match ledger.credited? line kind with
      | some credited => (true, ledger.use credited kind)
      | none => (false, ledger) := by
  unfold suppress credited?
  split
  · rfl
  · split <;> rfl

/-- The ledger after the directive of each line suppressed findings of some kinds. -/
def credit
    (ledger : Ledger)
    (kinds : Int -> List String) : Ledger :=
  ⟨ledger.entries.map fun other => (other.1, other.2.useAll (kinds other.1))⟩

theorem credit_entries
    (ledger : Ledger)
    (kinds : Int -> List String) :
    (ledger.credit kinds).entries =
      ledger.entries.map fun other => (other.1, other.2.useAll (kinds other.1)) := rfl

theorem use_eq_credit
    (ledger : Ledger)
    (line : Int)
    (kind : String) :
    ledger.use line kind = ledger.credit fun other => if other = line then [kind] else [] := by
  unfold use credit
  congr 1
  apply List.map_congr_left
  intro other _
  by_cases here : other.1 = line <;> simp [here, Entry.useAll]

theorem credit_nothing (ledger : Ledger) :
    (ledger.credit fun _ => []) = ledger := by
  simp [credit, Entry.useAll]

theorem credit_credit
    (ledger : Ledger)
    (first second : Int -> List String) :
    (ledger.credit first).credit second = ledger.credit fun line => first line ++ second line := by
  simp [credit, Entry.useAll, List.foldl_append]

theorem find?_credit
    (ledger : Ledger)
    (kinds : Int -> List String)
    (line : Int) :
    (ledger.credit kinds).find? line =
      (ledger.find? line).map fun entry => entry.useAll (kinds line) := by
  obtain ⟨entries⟩ := ledger
  induction entries with
  | nil => rfl
  | cons first rest inductionHypothesis =>
      obtain ⟨other, entry⟩ := first
      simp only [find?, credit, List.map_cons] at inductionHypothesis ⊢
      by_cases here : line = other
      · simp [here]
      · have elsewhere : (line == other) = false := by simpa using here
        simpa [List.lookup_cons, elsewhere] using inductionHypothesis

/-- Being of use does not change what a directive speaks about. -/
@[simp] theorem suppressesAt_credit
    (ledger : Ledger)
    (kinds : Int -> List String)
    (line : Int)
    (kind : String) :
    (ledger.credit kinds).suppressesAt line kind = ledger.suppressesAt line kind := by
  rw [suppressesAt, suppressesAt, find?_credit, Option.any_map]
  simp [Entry.suppresses]

@[simp] theorem credited?_credit
    (ledger : Ledger)
    (kinds : Int -> List String)
    (line : Int)
    (kind : String) :
    (ledger.credit kinds).credited? line kind = ledger.credited? line kind := by
  simp [credited?]

/-- A finding of a kind on a line. -/
abbrev Query := Int × String

/-- The ledger after some findings. -/
def asked
    (ledger : Ledger)
    (queries : List Query) : Ledger :=
  queries.foldl (fun ledger query => (ledger.suppress query.1 query.2).2) ledger

/-- The kinds of the findings that are credited to the directive of a line. -/
def creditedKinds
    (ledger : Ledger)
    (queries : List Query)
    (line : Int) : List String :=
  (queries.filter fun query => ledger.credited? query.1 query.2 == some line).map Prod.snd

@[simp] theorem creditedKinds_credit
    (ledger : Ledger)
    (kinds : Int -> List String)
    (queries : List Query) :
    (ledger.credit kinds).creditedKinds queries = ledger.creditedKinds queries := by
  funext line
  simp [creditedKinds]

theorem creditedKinds_singleton
    (ledger : Ledger)
    (query : Query)
    (line : Int) :
    ledger.creditedKinds [query] line =
      if ledger.credited? query.1 query.2 = some line then [query.2] else [] := by
  by_cases credited : ledger.credited? query.1 query.2 = some line <;>
    simp [creditedKinds, credited]

theorem creditedKinds_cons
    (ledger : Ledger)
    (query : Query)
    (rest : List Query)
    (line : Int) :
    ledger.creditedKinds (query :: rest) line =
      ledger.creditedKinds [query] line ++ ledger.creditedKinds rest line := by
  rw [creditedKinds, creditedKinds, creditedKinds, ← List.map_append, ← List.filter_append,
    List.singleton_append]

theorem suppress_fst
    (ledger : Ledger)
    (line : Int)
    (kind : String) :
    (ledger.suppress line kind).1 = (ledger.credited? line kind).isSome := by
  rw [suppress_eq]
  cases ledger.credited? line kind <;> rfl

/-- One finding is credited to one directive at most. -/
theorem suppress_snd
    (ledger : Ledger)
    (query : Query) :
    (ledger.suppress query.1 query.2).2 = ledger.credit (ledger.creditedKinds [query]) := by
  have kinds := funext (ledger.creditedKinds_singleton query)
  rw [kinds, suppress_eq]
  cases ledger.credited? query.1 query.2 with
  | none => exact (credit_nothing ledger).symm
  | some credited =>
      simp only [Option.some.injEq]
      rw [use_eq_credit]
      congr 1
      funext other
      simp only [eq_comm]

/-- After some findings, each directive was of use for those credited to it. -/
theorem asked_eq_credit
    (ledger : Ledger)
    (queries : List Query) :
    ledger.asked queries = ledger.credit (ledger.creditedKinds queries) := by
  induction queries generalizing ledger with
  | nil => exact (credit_nothing ledger).symm
  | cons query rest inductionHypothesis =>
      calc
        ledger.asked (query :: rest)
            = (ledger.suppress query.1 query.2).2.asked rest := rfl
        _ = (ledger.credit (ledger.creditedKinds [query])).credit
              (ledger.creditedKinds rest) := by
            rw [suppress_snd, inductionHypothesis, creditedKinds_credit]
        _ = ledger.credit (ledger.creditedKinds (query :: rest)) := by
            rw [credit_credit]
            congr 1
            funext line
            exact (creditedKinds_cons ledger query rest line).symm

/-! ## Directives of comments -/

/-- The directive in a comment, with the line that it counts for. -/
def Comment.stated? (comment : Comment) : Option (Int × Entry) :=
  (ofComment? comment.text).map fun listed =>
    (comment.line, ⟨comment.position, Directive.kinds listed, []⟩)

theorem enter_of_stated?_eq_none
    {comment : Comment}
    (unstated : comment.stated? = none)
    (ledger : Ledger) :
    ledger.enter comment = ledger := by
  have other : ofComment? comment.text = none := by simpa [Comment.stated?] using unstated
  simp [enter, other]

theorem enter_of_stated?_eq_some
    {comment : Comment}
    {line : Int}
    {entry : Entry}
    (stated : comment.stated? = some (line, entry))
    (ledger : Ledger) :
    ledger.enter comment = ledger.insert line entry := by
  obtain ⟨listed, found, equal⟩ := Option.map_eq_some_iff.mp stated
  obtain ⟨rfl, rfl⟩ := Prod.mk.inj equal
  simp [enter, found]

theorem find?_foldl_enter
    (comments : List Comment)
    (ledger : Ledger)
    (line : Int) :
    (comments.foldl enter ledger).find? line =
      (((comments.filterMap Comment.stated?).reverse.find? fun other => other.1 == line).map
        Prod.snd).or (ledger.find? line) := by
  induction comments generalizing ledger with
  | nil => simp
  | cons comment rest inductionHypothesis =>
      rw [List.foldl_cons, inductionHypothesis]
      cases stated : comment.stated? with
      | none => rw [List.filterMap_cons_none stated, enter_of_stated?_eq_none stated]
      | some other =>
          obtain ⟨own, entry⟩ := other
          rw [List.filterMap_cons_some stated, enter_of_stated?_eq_some stated, find?_insert,
            List.reverse_cons, List.find?_append]
          by_cases here : own = line
          · cases (rest.filterMap Comment.stated?).reverse.find? fun other => other.1 == line <;>
              simp [here]
          · have elsewhere : line ≠ own := Ne.symm here
            simp [here, elsewhere]

/-- On a line is the last of its directives. -/
theorem find?_ofComments
    (comments : List Comment)
    (line : Int) :
    (ofComments comments).find? line =
      ((comments.filterMap Comment.stated?).reverse.find? fun other => other.1 == line).map
        Prod.snd := by
  rw [ofComments, find?_foldl_enter]
  exact Option.or_none

theorem entries_insert_of_fresh
    {ledger : Ledger}
    {line : Int}
    (fresh : line ∉ ledger.entries.map Prod.fst)
    (entry : Entry) :
    (ledger.insert line entry).entries = (line, entry) :: ledger.entries := by
  have kept : (ledger.entries.filter fun other => other.1 ≠ line) = ledger.entries := by
    apply List.filter_eq_self.mpr
    intro other member
    have different : other.1 ≠ line := fun same =>
      fresh (List.mem_map.mpr ⟨other, member, same⟩)
    simpa using different
  rw [insert, kept]

/-- Directives on different lines, none of which has one, are all entered. -/
theorem entries_foldl_enter
    {comments : List Comment}
    {ledger : Ledger}
    (distinct : ((comments.filterMap Comment.stated?).reverse ++ ledger.entries).map Prod.fst
      |>.Nodup) :
    (comments.foldl enter ledger).entries =
      (comments.filterMap Comment.stated?).reverse ++ ledger.entries := by
  induction comments generalizing ledger with
  | nil => rfl
  | cons comment rest inductionHypothesis =>
      cases stated : comment.stated? with
      | none =>
          rw [List.filterMap_cons_none stated] at distinct ⊢
          rw [List.foldl_cons, enter_of_stated?_eq_none stated]
          exact inductionHypothesis distinct
      | some other =>
          obtain ⟨line, entry⟩ := other
          rw [List.filterMap_cons_some stated, List.reverse_cons, List.append_assoc,
            List.singleton_append] at distinct ⊢
          have fresh : line ∉ ledger.entries.map Prod.fst := by
            rw [List.map_append, List.map_cons] at distinct
            exact (List.nodup_cons.mp distinct.of_append_right).1
          have inserted := entries_insert_of_fresh fresh entry
          rw [List.foldl_cons, enter_of_stated?_eq_some stated, ← inserted]
          rw [← inserted] at distinct
          exact inductionHypothesis distinct

/-- Each directive of the comments has its entry, if no two are on one line. -/
theorem entries_ofComments
    {comments : List Comment}
    (distinct : ((comments.filterMap Comment.stated?).map Prod.fst).Nodup) :
    (ofComments comments).entries = (comments.filterMap Comment.stated?).reverse := by
  have entered := @entries_foldl_enter comments empty (by simpa [empty] using distinct)
  simpa [ofComments, empty] using entered

/-! ## Directives of no use -/

/-- There is one way to sort directives by their places, if these differ. -/
theorem eq_of_perm_of_increasing
    {sorted expected : List Idle}
    (permuted : sorted.Perm expected)
    (ordered : sorted.Pairwise fun early late => early.position ≤ late.position)
    (increasing : expected.Pairwise fun early late => early.position < late.position) :
    sorted = expected := by
  have distinct := nodup_map_of_increasing increasing
  refine List.Perm.eq_of_pairwise ?_ ordered (increasing.imp Nat.le_of_lt) permuted
  intro first second firstMember secondMember before after
  exact List.inj_on_of_nodup_map distinct (permuted.mem_iff.mp firstMember) secondMember
    (Nat.le_antisymm before after)

/-- The directives of no use are listed by their places, in whatever order the ledger
holds them. -/
theorem idle_eq_of_perm
    {ledger : Ledger}
    {directives : List (Int × Entry)}
    (same : ledger.entries.Perm directives)
    (increasing : directives.Pairwise fun early late => early.2.position < late.2.position) :
    ledger.idle =
      (directives.filter fun other => other.2.isIdle).map fun other =>
        ⟨other.2.position, other.2.idleKinds⟩ := by
  let expected : List Idle :=
    (directives.filter fun other => other.2.isIdle).map fun other =>
      ⟨other.2.position, other.2.idleKinds⟩
  have ordered : expected.Pairwise fun early late => early.position < late.position := by
    rw [List.pairwise_map]
    exact increasing.filter _
  have permuted : ledger.idle.Perm expected :=
    (List.mergeSort_perm _ _).trans ((same.filter _).map _)
  have sorted := @List.pairwise_mergeSort Idle
    (fun left right => decide (left.position ≤ right.position))
    (by simp only [decide_eq_true_eq]; omega)
    (by simp only [Bool.or_eq_true, decide_eq_true_eq]; omega)
    ((ledger.entries.filter fun other => other.2.isIdle).map fun other =>
      Idle.mk other.2.position other.2.idleKinds)
  exact eq_of_perm_of_increasing permuted (by simpa [idle] using sorted) ordered

end Ledger
end Directive
end CtorScan
