import CtorScan.Proofs.Directive.Usage

/-!
# Answers do not depend on history

Asking whether a finding is suppressed also notes what suppressed it.  But nothing that
was noted is ever looked at to answer, and notes are sets: the answer to a query is that of
the ledger before anything was asked, queries in another order leave the same notes behind,
and a query that was asked before adds nothing.
-/

namespace CtorScan
namespace Directive

/-! ## Notes as sets -/

namespace Entry

/-- The same directive, of use for the same kinds in whatever order. -/
structure SameUse (first second : Entry) : Prop where
  /-- The comment is at the same place. -/
  position : first.position = second.position
  /-- It lists the same kinds. -/
  kinds : first.kinds = second.kinds
  /-- It was of use for the same kinds. -/
  used : ∀ kind, kind ∈ first.used ↔ kind ∈ second.used

theorem sameUse_useAll
    (entry : Entry)
    {first second : List String}
    (same : ∀ kind, kind ∈ first ↔ kind ∈ second) :
    (entry.useAll first).SameUse (entry.useAll second) where
  position := by simp
  kinds := by simp
  used kind := by rw [mem_used_useAll, mem_used_useAll, same]

theorem SameUse.idleKinds_eq
    {first second : Entry}
    (same : first.SameUse second) :
    first.idleKinds = second.idleKinds := by
  rw [Entry.idleKinds_eq, Entry.idleKinds_eq, same.kinds]
  simp only [same.used]

theorem SameUse.isIdle_eq
    {first second : Entry}
    (same : first.SameUse second) :
    first.isIdle = second.isIdle := by
  have unused : first.used = [] ↔ second.used = [] := by
    simp only [List.eq_nil_iff_forall_not_mem, same.used]
  rw [Bool.eq_iff_iff, isIdle, isIdle, same.kinds, same.idleKinds_eq]
  split
  · rw [List.isEmpty_iff, List.isEmpty_iff, unused]
  · exact Iff.rfl

theorem use_of_mem
    {entry : Entry}
    {kind : String}
    (known : kind ∈ entry.used) :
    entry.use kind = entry := by
  simp [use, known]

/-- Uses for kinds that are known already leave no trace. -/
theorem useAll_of_subset
    {entry : Entry}
    {kinds : List String}
    (known : ∀ kind ∈ kinds, kind ∈ entry.used) :
    entry.useAll kinds = entry := by
  induction kinds with
  | nil => rfl
  | cons kind rest inductionHypothesis =>
      obtain ⟨here, later⟩ := List.forall_mem_cons.mp known
      rw [useAll, List.foldl_cons, use_of_mem here]
      exact inductionHypothesis later

end Entry

namespace Ledger

/-! ## Answers -/

/-- The answers to queries that are asked one after the other. -/
def answers
    (ledger : Ledger) : List Query -> List Bool
  | [] => []
  | query :: rest =>
      (ledger.suppress query.1 query.2).1 :: (ledger.suppress query.1 query.2).2.answers rest

theorem suppress_credit_fst
    (ledger : Ledger)
    (kinds : Int -> List String)
    (query : Query) :
    ((ledger.credit kinds).suppress query.1 query.2).1 = (ledger.suppress query.1 query.2).1 := by
  rw [suppress_fst, suppress_fst, credited?_credit]

/-- What was noted does not count for answers. -/
theorem answers_credit
    (ledger : Ledger)
    (kinds : Int -> List String)
    (queries : List Query) :
    (ledger.credit kinds).answers queries = ledger.answers queries := by
  induction queries generalizing kinds with
  | nil => rfl
  | cons query rest inductionHypothesis =>
      rw [answers, answers, suppress_credit_fst, suppress_snd, suppress_snd, credit_credit,
        inductionHypothesis, inductionHypothesis]

/-- Every answer is the one that the ledger gives before anything was asked. -/
theorem answers_eq_map
    (ledger : Ledger)
    (queries : List Query) :
    ledger.answers queries = queries.map fun query => (ledger.suppress query.1 query.2).1 := by
  induction queries with
  | nil => rfl
  | cons query rest inductionHypothesis =>
      rw [answers, suppress_snd, answers_credit, inductionHypothesis, List.map_cons]

/-! ## Queries in another order -/

theorem mem_creditedKinds_of_perm
    (ledger : Ledger)
    {queries others : List Query}
    (permuted : queries.Perm others)
    (line : Int)
    (kind : String) :
    kind ∈ ledger.creditedKinds queries line ↔ kind ∈ ledger.creditedKinds others line :=
  ((permuted.filter _).map _).mem_iff

/-- Queries in another order leave the same notes on every line. -/
theorem find?_asked_of_perm
    (ledger : Ledger)
    {queries others : List Query}
    (permuted : queries.Perm others)
    (line : Int) :
    Option.Rel Entry.SameUse ((ledger.asked queries).find? line)
      ((ledger.asked others).find? line) := by
  rw [asked_eq_credit, asked_eq_credit, find?_credit, find?_credit]
  cases ledger.find? line with
  | none => exact .none
  | some entry =>
      exact .some (entry.sameUse_useAll (ledger.mem_creditedKinds_of_perm permuted line))

theorem idleAmong_eq_of_sameUse
    {first second : List (Int × Entry)}
    (same : List.Forall₂ (fun own other => own.2.SameUse other.2) first second) :
    idleAmong first = idleAmong second := by
  induction same with
  | nil => rfl
  | @cons own other _ _ alike _ inductionHypothesis =>
      simp only [idleAmong] at inductionHypothesis ⊢
      rw [List.filter_cons, List.filter_cons, alike.isIdle_eq]
      cases other.2.isIdle with
      | false => simpa using inductionHypothesis
      | true => simp [inductionHypothesis, alike.position, alike.idleKinds_eq]

theorem idleAmong_asked_of_perm
    (ledger : Ledger)
    {queries others : List Query}
    (permuted : queries.Perm others) :
    idleAmong (ledger.asked queries).entries = idleAmong (ledger.asked others).entries := by
  rw [asked_eq_credit, asked_eq_credit, credit_entries, credit_entries]
  apply idleAmong_eq_of_sameUse
  rw [List.forall₂_map_left_iff, List.forall₂_map_right_iff, List.forall₂_same]
  intro other _
  exact other.2.sameUse_useAll (ledger.mem_creditedKinds_of_perm permuted other.1)

/-- Queries in another order leave the same directives of no use. -/
theorem idle_asked_of_perm
    (ledger : Ledger)
    {queries others : List Query}
    (permuted : queries.Perm others) :
    (ledger.asked queries).idle = (ledger.asked others).idle := by
  have same := ledger.idleAmong_asked_of_perm permuted
  unfold idleAmong at same
  rw [idle, idle, same]

/-- A report of the directives of no use: they are gone through in some order and then
sorted by their places in some way. -/
def Lists
    (ledger : Ledger)
    (report : List Idle) : Prop :=
  ∃ enumeration, enumeration.Perm ledger.entries ∧ report.Perm (idleAmong enumeration) ∧
    report.Pairwise fun early late => early.position ≤ late.position

/-- If directives have different places, there is one such report. -/
theorem Ordered.lists_iff
    {ledger : Ledger}
    (ordered : ledger.Ordered)
    {report : List Idle} :
    ledger.Lists report ↔ report = ledger.idle := by
  constructor
  · rintro ⟨enumeration, same, permuted, sorted⟩
    exact ordered.eq_idle_of_sorted same permuted sorted
  · rintro rfl
    exact ⟨ledger.entries, .refl _, ledger.idle_perm_idleAmong,
      ordered.idle_increasing.imp Nat.le_of_lt⟩

/-! ## Queries that were asked before -/

theorem mem_creditedKinds_of_mem
    {ledger : Ledger}
    {queries : List Query}
    {query : Query}
    (member : query ∈ queries)
    {line : Int}
    {kind : String}
    (credited : kind ∈ ledger.creditedKinds [query] line) :
    kind ∈ ledger.creditedKinds queries line := by
  have included : [query] ⊆ queries := by simpa using member
  exact List.map_subset _ (List.filter_subset _ included) credited

/-- A query that was asked before gets the answer it would get first, and changes nothing. -/
theorem suppress_asked_of_mem
    (ledger : Ledger)
    {queries : List Query}
    {query : Query}
    (member : query ∈ queries) :
    (ledger.asked queries).suppress query.1 query.2 =
      ((ledger.suppress query.1 query.2).1, ledger.asked queries) := by
  apply Prod.ext
  · rw [asked_eq_credit, suppress_credit_fst]
  · rw [suppress_snd, asked_eq_credit, creditedKinds_credit]
    simp only [credit, List.map_map]
    congr 1
    apply List.map_congr_left
    intro other _
    have known : ∀ kind ∈ ledger.creditedKinds [query] other.1,
        kind ∈ (other.2.useAll (ledger.creditedKinds queries other.1)).used := by
      intro kind credited
      exact Entry.mem_used_useAll.mpr (Or.inr (mem_creditedKinds_of_mem member credited))
    exact Prod.ext rfl (Entry.useAll_of_subset known)

end Ledger
end Directive

/-! ## Ledgers of files -/

namespace Source.File

open Directive (Entry Idle Ledger)

/-- The answers of the ledger of a file depend on the query alone.  In two sequences of
queries that are permutations of each other, each query gets the answer that it would get
as the first.  Afterwards every line has the same directive, of use for the same kinds, and
the same directives of no use are reported, whatever the order in which they are gone
through and the way of sorting.  A query that was asked before gets the same answer and
changes nothing. -/
theorem answers_do_not_depend_on_history
    {name text : String}
    {base : Nat}
    {file : File}
    (read : ofText? name base text = some file)
    {queries others : List Ledger.Query}
    (permuted : queries.Perm others) :
    let ledger := file.directives
    let fresh := fun query : Ledger.Query => (ledger.suppress query.1 query.2).1
    ledger.answers queries = queries.map fresh ∧
      ledger.answers others = others.map fresh ∧
      (∀ line, Option.Rel Entry.SameUse ((ledger.asked queries).find? line)
        ((ledger.asked others).find? line)) ∧
      (∀ report, (ledger.asked queries).Lists report ↔ report = (ledger.asked others).idle) ∧
      ∀ query ∈ queries,
        (ledger.asked queries).suppress query.1 query.2 = (fresh query, ledger.asked queries) := by
  intro ledger fresh
  have ordered : ledger.Ordered := (sound_of_ofText? read).ordered_directives
  refine ⟨ledger.answers_eq_map queries, ledger.answers_eq_map others,
    ledger.find?_asked_of_perm permuted, ?_, fun _ => ledger.suppress_asked_of_mem⟩
  intro report
  rw [(ordered.asked queries).lists_iff, ledger.idle_asked_of_perm permuted]

/-- The findings of the sample in another order. -/
def reorderedQueries : List Ledger.Query :=
  [(2, "default"), (3, "move"), (2, "copy")]

theorem answers_do_not_depend_on_history_sample :
    sampleQueries.Perm reorderedQueries ∧
      ∃ file, ofText? "p" 1 sampleSource = some file ∧
        file.directives.answers sampleQueries = [true, true, false] ∧
        file.directives.answers reorderedQueries = [false, true, true] ∧
        ((file.directives.asked sampleQueries).find? 2).isSome ∧
        Option.Rel Entry.SameUse ((file.directives.asked sampleQueries).find? 2)
          ((file.directives.asked reorderedQueries).find? 2) ∧
        (file.directives.asked sampleQueries).Lists (file.directives.asked reorderedQueries).idle ∧
        ((file.directives.asked sampleQueries).suppress 2 "copy").2 =
          file.directives.asked sampleQueries := by
  have permuted : sampleQueries.Perm reorderedQueries := by decide
  have evaluated : (ofText? "p" 1 sampleSource).any (fun file =>
      (file.directives.suppress 3 "move").1 && (file.directives.suppress 2 "copy").1 &&
        !(file.directives.suppress 2 "default").1 &&
        ((file.directives.asked sampleQueries).find? 2).isSome) = true := by
    decide +kernel
  simp only [Option.any_eq_true, Bool.and_eq_true, Bool.not_eq_true'] at evaluated
  obtain ⟨file, read, ⟨⟨move, copy⟩, default⟩, onLine⟩ := evaluated
  obtain ⟨answers, others, sameUse, reports, repeated⟩ :=
    answers_do_not_depend_on_history read permuted
  have again : (file.directives.asked sampleQueries).suppress 2 "copy" = _ :=
    repeated (2, "copy") (by decide)
  refine ⟨permuted, file, read, ?_, ?_, onLine, sameUse 2, (reports _).mpr rfl, ?_⟩
  · rw [answers]
    simp [sampleQueries, move, copy, default]
  · rw [others]
    simp [reorderedQueries, move, copy, default]
  · rw [again]

end Source.File
end CtorScan
