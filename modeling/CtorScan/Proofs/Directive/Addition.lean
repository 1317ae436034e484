import CtorScan.Proofs.Directive.History

/-!
# Adding a directive

A directive that is put on a line without one acts on two lines only, its own and the next.
What was suppressed without it is suppressed with it.  On its own line it comes before the
directive of the line before, so that it takes over findings which that one was credited
with; no other directive notices anything, whatever is asked.
-/

namespace CtorScan
namespace Directive

/-- What becomes of a directive beside another one: it keeps its place and its kinds, it is
of use for no kind for which it was not before, and where it is no longer of use, the other
one is. -/
structure Entry.Cedes (other before now : Entry) : Prop where
  /-- The comment is at the same place. -/
  position : now.position = before.position
  /-- It lists the same kinds. -/
  kinds : now.kinds = before.kinds
  /-- It is of use for some of the kinds for which it was of use. -/
  kept : ∀ kind ∈ now.used, kind ∈ before.used
  /-- The other one is of use for the rest of them. -/
  ceded : ∀ kind ∈ before.used, kind ∉ now.used -> kind ∈ other.used

namespace Ledger

/-! ## The directive on a line -/

theorem suppressesAt_insert_self
    (ledger : Ledger)
    (line : Int)
    (entry : Entry)
    (kind : String) :
    (ledger.insert line entry).suppressesAt line kind = entry.suppresses kind := by
  rw [suppressesAt, find?_insert, if_pos rfl, Option.any_some]

theorem suppressesAt_insert_of_ne
    {line other : Int}
    (elsewhere : other ≠ line)
    (ledger : Ledger)
    (entry : Entry)
    (kind : String) :
    (ledger.insert line entry).suppressesAt other kind = ledger.suppressesAt other kind := by
  rw [suppressesAt, find?_insert, if_neg elsewhere, suppressesAt]

theorem suppressesAt_of_free
    {ledger : Ledger}
    {line : Int}
    (free : ledger.find? line = none)
    (kind : String) :
    ledger.suppressesAt line kind = false := by
  rw [suppressesAt, free, Option.any_none]

/-! ## Answers -/

/-- A finding is suppressed on the word of a directive on its line or on the line before. -/
theorem suppress_fst_eq
    (ledger : Ledger)
    (line : Int)
    (kind : String) :
    (ledger.suppress line kind).1 =
      (ledger.suppressesAt line kind || ledger.suppressesAt (line - 1) kind) := by
  rw [suppress_fst, credited?]
  cases ledger.suppressesAt line kind <;> cases ledger.suppressesAt (line - 1) kind <;> rfl

theorem suppress_asked_fst
    (ledger : Ledger)
    (queries : List Query)
    (line : Int)
    (kind : String) :
    ((ledger.asked queries).suppress line kind).1 = (ledger.suppress line kind).1 := by
  rw [asked_eq_credit]
  exact suppress_credit_fst ledger _ (line, kind)

/-- On the line of a new directive and on the next one, it adds its word.  Elsewhere the
answers stay what they were. -/
theorem suppress_insert_fst
    {ledger : Ledger}
    {line : Int}
    (free : ledger.find? line = none)
    (entry : Entry)
    (asked : Int)
    (kind : String) :
    ((ledger.insert line entry).suppress asked kind).1 =
      ((ledger.suppress asked kind).1 ||
        (decide (asked = line ∨ asked = line + 1) && entry.suppresses kind)) := by
  have silent := suppressesAt_of_free free kind
  rw [suppress_fst_eq, suppress_fst_eq]
  by_cases onLine : asked = line
  · subst onLine
    have before : asked - 1 ≠ asked := by omega
    rw [suppressesAt_insert_self, suppressesAt_insert_of_ne before, silent]
    simp [Bool.or_comm]
  · rw [suppressesAt_insert_of_ne onLine]
    by_cases onNext : asked = line + 1
    · have before : asked - 1 = line := by omega
      rw [before, suppressesAt_insert_self, silent]
      simp [onNext]
    · have before : asked - 1 ≠ line := by omega
      rw [suppressesAt_insert_of_ne before]
      simp [onLine, onNext]

/-! ## Credit -/

theorem find?_asked_eq
    (ledger : Ledger)
    (queries : List Query)
    (line : Int) :
    (ledger.asked queries).find? line =
      (ledger.find? line).map fun entry => entry.useAll (ledger.creditedKinds queries line) := by
  rw [asked_eq_credit, find?_credit]

/-- Only the directive of the line before can lose credit to a new one. -/
theorem creditedKinds_insert_of_ne
    {line other : Int}
    (notLine : other ≠ line)
    (notBefore : other ≠ line - 1)
    (ledger : Ledger)
    (entry : Entry)
    (queries : List Query) :
    (ledger.insert line entry).creditedKinds queries other =
      ledger.creditedKinds queries other := by
  have notNext : other + 1 ≠ line := by omega
  unfold creditedKinds
  congr 1
  apply List.filter_congr
  intro query _
  rw [Bool.eq_iff_iff, beq_iff_eq, beq_iff_eq, credited?_eq_some_iff, credited?_eq_some_iff,
    suppressesAt_insert_of_ne notLine, suppressesAt_insert_of_ne notNext]

theorem mem_creditedKinds_insert_self
    {ledger : Ledger}
    {line : Int}
    {entry : Entry}
    {queries : List Query}
    {kind : String}
    (speaks : entry.suppresses kind = true)
    (asked : (line, kind) ∈ queries) :
    kind ∈ (ledger.insert line entry).creditedKinds queries line := by
  rw [mem_creditedKinds_iff, suppressesAt_insert_self]
  exact ⟨speaks, Or.inl asked⟩

/-- The directive of the line before is credited with what it was credited with, except for
findings on the line of the new one about which that one speaks. -/
theorem mem_creditedKinds_insert_before
    {ledger : Ledger}
    {line : Int}
    {entry : Entry}
    {queries : List Query}
    {kind : String} :
    kind ∈ (ledger.insert line entry).creditedKinds queries (line - 1) ↔
      ledger.suppressesAt (line - 1) kind = true ∧
        ((line - 1, kind) ∈ queries ∨ (line, kind) ∈ queries ∧ entry.suppresses kind = false) := by
  have before : line - 1 ≠ line := by omega
  rw [mem_creditedKinds_iff, Int.sub_add_cancel, suppressesAt_insert_self,
    suppressesAt_insert_of_ne before]

/-- The directive of the line before cedes to the new one. -/
theorem cedes_of_insert
    {ledger : Ledger}
    {line : Int}
    (free : ledger.find? line = none)
    (entry before : Entry)
    (queries : List Query) :
    (entry.useAll ((ledger.insert line entry).creditedKinds queries line)).Cedes
      (before.useAll (ledger.creditedKinds queries (line - 1)))
      (before.useAll ((ledger.insert line entry).creditedKinds queries (line - 1))) where
  position := by simp
  kinds := by simp
  kept := by
    intro kind used
    rw [Entry.mem_used_useAll, mem_creditedKinds_insert_before] at used
    rw [Entry.mem_used_useAll, mem_creditedKinds_iff, Int.sub_add_cancel]
    rcases used with already | ⟨speaks, onLine | ⟨onNext, -⟩⟩
    · exact Or.inl already
    · exact Or.inr ⟨speaks, Or.inl onLine⟩
    · exact Or.inr ⟨speaks, Or.inr ⟨onNext, suppressesAt_of_free free kind⟩⟩
  ceded := by
    intro kind used lost
    rw [Entry.mem_used_useAll, mem_creditedKinds_iff, Int.sub_add_cancel] at used
    rw [Entry.mem_used_useAll, mem_creditedKinds_insert_before] at lost
    rcases used with already | ⟨speaks, onLine | ⟨onNext, -⟩⟩
    · exact absurd (Or.inl already) lost
    · exact absurd (Or.inr ⟨speaks, Or.inl onLine⟩) lost
    · have taken : entry.suppresses kind = true := by
        by_contra silent
        exact lost (Or.inr ⟨speaks, Or.inr ⟨onNext, by simpa using silent⟩⟩)
      exact Entry.mem_used_useAll.mpr (Or.inr (mem_creditedKinds_insert_self taken onNext))

/-- Adding a directive on a line without one is local and monotone, whatever was asked.
What is suppressed without it is suppressed with it, and answers differ only for findings
that it speaks about, on its line and on the next one.  The directives of other lines are
the same with it and without it and were of use for the same, except that the one on the
line before may cede some of its kinds to the new one. -/
theorem added_directive_is_local_and_monotone
    {ledger : Ledger}
    {line : Int}
    (free : ledger.find? line = none)
    (entry : Entry)
    (queries : List Query) :
    let without := ledger.asked queries
    let added := (ledger.insert line entry).asked queries
    (∀ asked kind, (without.suppress asked kind).1 = true ->
        (added.suppress asked kind).1 = true) ∧
      (∀ asked kind, (added.suppress asked kind).1 ≠ (without.suppress asked kind).1 ->
        (asked = line ∨ asked = line + 1) ∧ entry.Matches kind) ∧
      (∀ other, other ≠ line -> other ≠ line - 1 -> added.find? other = without.find? other) ∧
      ∃ own, added.find? line = some own ∧ own.position = entry.position ∧
        own.kinds = entry.kinds ∧
        Option.Rel own.Cedes (without.find? (line - 1)) (added.find? (line - 1)) := by
  intro without added
  have answer : ∀ asked kind, (added.suppress asked kind).1 =
      ((without.suppress asked kind).1 ||
        (decide (asked = line ∨ asked = line + 1) && entry.suppresses kind)) := by
    intro asked kind
    rw [suppress_asked_fst, suppress_asked_fst, suppress_insert_fst free]
  refine ⟨?_, ?_, ?_, ?_⟩
  · intro asked kind suppressed
    rw [answer, suppressed, Bool.true_or]
  · intro asked kind differ
    rw [answer] at differ
    cases suppressed : (without.suppress asked kind).1 with
    | true => simp [suppressed] at differ
    | false => simpa [suppressed, Entry.suppresses_iff] using differ
  · intro other notLine notBefore
    rw [find?_asked_eq, find?_asked_eq, find?_insert, if_neg notLine,
      creditedKinds_insert_of_ne notLine notBefore]
  · have here : added.find? line =
        some (entry.useAll ((ledger.insert line entry).creditedKinds queries line)) := by
      rw [find?_asked_eq, find?_insert, if_pos rfl, Option.map_some]
    have before : line - 1 ≠ line := by omega
    refine ⟨_, here, by simp, by simp, ?_⟩
    rw [find?_asked_eq, find?_asked_eq, find?_insert, if_neg before]
    cases ledger.find? (line - 1) with
    | none => exact .none
    | some entryBefore => exact .some (cedes_of_insert free entry entryBefore queries)

/-- A directive for all kinds, with two free lines after it, and one for copies. -/
def sparseLedger : Ledger :=
  ⟨[(4, ⟨40, [], []⟩), (7, ⟨70, ["copy"], []⟩)]⟩

/-- A directive for copies. -/
def copyEntry : Entry := ⟨50, ["copy"], []⟩

/-- Findings on the line of the first directive and on the free lines. -/
def sparseQueries : List Query :=
  [(5, "copy"), (5, "default"), (4, "default"), (6, "copy"), (7, "copy")]

/-- A new directive for copies on the first free line takes copies over from the directive
before it, which stays of use for what it speaks about alone. -/
theorem added_directive_is_local_and_monotone_sample :
    let without := sparseLedger.asked sparseQueries
    let added := (sparseLedger.insert 5 copyEntry).asked sparseQueries
    sparseLedger.find? 5 = none ∧
      without.find? 4 = some ⟨40, [], ["copy", "default"]⟩ ∧
      added.find? 4 = some ⟨40, [], ["default"]⟩ ∧
      (added.suppress 5 "copy").1 = true ∧
      (added.suppress 6 "copy").1 ≠ (without.suppress 6 "copy").1 ∧ copyEntry.Matches "copy" ∧
      added.find? 7 = without.find? 7 ∧
      ∃ own, added.find? 5 = some own ∧ "copy" ∈ own.used := by
  intro without added
  have free : sparseLedger.find? 5 = none := by decide
  have ownBefore : without.find? 4 = some ⟨40, [], ["copy", "default"]⟩ := by decide
  have ownAfter : added.find? 4 = some ⟨40, [], ["default"]⟩ := by decide
  have differ : (added.suppress 6 "copy").1 ≠ (without.suppress 6 "copy").1 := by decide
  obtain ⟨monotone, only, frame, own, found, -, -, cedes⟩ :=
    added_directive_is_local_and_monotone free copyEntry sparseQueries
  refine ⟨free, ownBefore, ownAfter, monotone 5 "copy" (by decide), differ,
    (only 6 "copy" differ).2, frame 7 (by decide) (by decide), own, found, ?_⟩
  have ceded : Option.Rel own.Cedes (without.find? 4) (added.find? 4) := cedes
  rw [ownBefore, ownAfter] at ceded
  cases ceded with
  | some ceded => exact ceded.ceded "copy" (by decide) (by decide)

end Ledger
end Directive
end CtorScan
