import CtorScan.Proofs.Directive.Usage
import CtorScan.Proofs.Source.Directives
import CtorScan.Proofs.Text.Search

/-!
# Every directive has its entry

The ledger of a file has one entry for a line.  A directive takes the place of an earlier one
that is reported at the same line, so directives may get lost.  It takes redirections to bring
two of them to one line: a directive goes up to the end of its line, since a comment between
marks is none.  In a file without redirections no directive is lost.
-/

namespace CtorScan
namespace Source

open Directive (Entry Ledger)

/-! ## Comments that redirect -/

/-- The comment starts like one that redirects the positions of what follows it. -/
def Comment.NamesLine (comment : Comment) : Prop :=
  "//line ".toList <+: comment.text.toList ∨ "/*line ".toList <+: comment.text.toList

instance : DecidablePred Comment.NamesLine := fun comment =>
  inferInstanceAs (Decidable ("//line ".toList <+: comment.text.toList ∨
    "/*line ".toList <+: comment.text.toList))

/-- Leaving out carriage returns keeps the start of a comment that redirects. -/
theorem prefix_commentText_of_directionText?
    {written text : List Char}
    (found : directionText? written = some text) :
    "//line ".toList <+: commentText written ∨ "/*line ".toList <+: commentText written := by
  unfold directionText? at found
  split at found
  · rename_i rest
    have starts := Text.afterStart?_eq_some_iff.mp found
    have shorter : (if rest.getLast? == some '\r' then rest.dropLast else rest) <+: rest := by
      split
      · exact List.dropLast_prefix rest
      · exact List.prefix_rfl
    rw [starts] at shorter
    obtain ⟨others, rfl⟩ := (List.prefix_append _ text).trans shorter
    exact Or.inl ⟨others.filter (· != '\r'), by simp [commentText]⟩
  · rename_i rest
    obtain ⟨others, starts, -⟩ := Option.map_eq_some_iff.mp found
    rw [Text.afterStart?_eq_some_iff.mp starts]
    obtain ⟨tail, equal⟩ := stripBlock_eq_append "/*line ".toList.reverse others
    exact Or.inr ⟨tail, by simpa [commentText, stripBlock] using equal.symm⟩
  · contradiction

namespace Scanned

/-- What was found so far is kept, and positions are not redirected unless some comment that
is found starts like one that redirects. -/
structure LeadsTo (early late : Scanned) : Prop where
  /-- The comments are kept. -/
  comments : early.comments ⊆ late.comments
  /-- The redirections are the same if no comment starts like one. -/
  redirections : (∀ comment ∈ late.comments, ¬comment.NamesLine) ->
    late.chart.redirections = early.chart.redirections

theorem LeadsTo.trans
    {early middle late : Scanned}
    (first : early.LeadsTo middle)
    (second : middle.LeadsTo late) :
    early.LeadsTo late where
  comments := List.Subset.trans first.comments second.comments
  redirections := by
    intro ordinary
    have same := first.redirections fun comment member =>
      ordinary comment (second.comments member)
    rw [second.redirections ordinary, same]

theorem leadsTo_of_addComment?
    {scanned entered : Scanned}
    {startsLine : Bool}
    {offset next : Nat}
    {written : List Char}
    (added : scanned.addComment? startsLine offset next written = some entered) :
    scanned.LeadsTo entered := by
  have comments := (addComment?_eq_some added).1
  refine ⟨by rw [comments]; exact List.subset_cons_self _ _, fun ordinary => ?_⟩
  have undirected : directionText? written = none := by
    rw [Option.eq_none_iff_forall_ne_some]
    intro text found
    rw [comments] at ordinary
    apply ordinary _ List.mem_cons_self
    simpa [Comment.NamesLine] using prefix_commentText_of_directionText? found
  simp only [addComment?, undirected, ite_self] at added
  obtain rfl := Option.some.inj added
  rfl

end Scanned

/-- What was found once leads to all that is found later. -/
theorem scanInvariant_leadsTo (first : Scanned) :
    ScanInvariant fun scanned _ _ => first.LeadsTo scanned where
  -- a token changes neither the comments nor the chart
  token := fun _ _ leads => ⟨leads.comments, leads.redirections⟩
  take := fun _ _ _ leads => leads
  comment := fun _ _ added leads => leads.trans (Scanned.leadsTo_of_addComment? added)

namespace File

/-- A file in which no comment starts like one that redirects has no redirections. -/
theorem redirections_of_ofText?
    {name text : String}
    {base : Nat}
    {file : File}
    (read : ofText? name base text = some file)
    (ordinary : ∀ comment ∈ file.comments, ¬comment.NamesLine) :
    file.chart.redirections = [] := by
  obtain ⟨scanned, cut, comments, chart⟩ := ofText?_eq_some read
  simp only [scanText?] at cut
  obtain ⟨-, cut⟩ := Option.ite_none_right_eq_some.mp cut
  rw [chart]
  obtain ⟨-, leads⟩ := (scanInvariant_leadsTo _).of_scanFrom cut ⟨List.Subset.refl _, fun _ => rfl⟩
  apply leads.redirections
  intro comment member
  apply ordinary
  rw [comments, List.mem_reverse]
  exact member

/-! ## Directives by line -/

/-- The line that a comment is reported at. -/
def reportedLine
    (file : File)
    (comment : Comment) : Nat :=
  (file.chart.positionOf comment.place).line

/-- No later directive of the file is reported at the line of the comment. -/
def LastOnLine
    (file : File)
    (comment : Comment) : Prop :=
  ∀ other ∈ file.comments, (Directive.ofComment? other.text).isSome = true ->
    file.reportedLine other = file.reportedLine comment -> other.place ≤ comment.place

theorem mem_stated?_iff
    {file : File}
    {line : Int}
    {entry : Entry} :
    (line, entry) ∈ (file.comments.map file.entry).filterMap Ledger.Comment.stated? ↔
      ∃ comment ∈ file.comments, ∃ listed,
        Directive.ofComment? comment.text = some listed ∧
          (file.reportedLine comment : Int) = line ∧
          (⟨comment.place, Directive.kinds listed, []⟩ : Entry) = entry := by
  simp only [List.mem_filterMap, List.mem_map, Ledger.Comment.stated?, File.entry, reportedLine,
    exists_exists_and_eq_and, Option.map_eq_some_iff, Prod.mk.injEq]

/-- The ledger of a file holds exactly the directives that are the last ones on their lines. -/
theorem Sound.find?_directives_iff
    {file : File}
    (sound : file.Sound)
    {line : Int}
    {entry : Entry} :
    file.directives.find? line = some entry ↔
      ∃ comment ∈ file.comments, ∃ listed,
        Directive.ofComment? comment.text = some listed ∧ file.LastOnLine comment ∧
          (file.reportedLine comment : Int) = line ∧
          (⟨comment.place, Directive.kinds listed, []⟩ : Entry) = entry := by
  have increasing : (file.comments.map file.entry).Pairwise fun early late =>
      early.position < late.position := by
    rw [List.pairwise_map]
    exact sound.ordered.imp fun ordered => ordered.1
  rw [directives, Ledger.find?_ofComments_eq_some_iff increasing, mem_stated?_iff]
  constructor
  · rintro ⟨⟨comment, member, listed, found, rfl, rfl⟩, last⟩
    refine ⟨comment, member, listed, found, ?_, rfl, rfl⟩
    intro other otherMember isDirective sameLine
    obtain ⟨otherListed, otherFound⟩ := Option.isSome_iff_exists.mp isDirective
    exact last (_, _) (mem_stated?_iff.mpr ⟨other, otherMember, otherListed, otherFound, rfl, rfl⟩)
      (congrArg Int.ofNat sameLine)
  · rintro ⟨comment, member, listed, found, last, rfl, rfl⟩
    refine ⟨⟨comment, member, listed, found, rfl, rfl⟩, ?_⟩
    rintro ⟨otherLine, otherEntry⟩ among sameLine
    obtain ⟨other, otherMember, otherListed, otherFound, rfl, rfl⟩ := mem_stated?_iff.mp among
    exact last other otherMember (Option.isSome_of_eq_some otherFound) (Int.ofNat.inj sameLine)

theorem reportedLine_eq_lineOf
    {file : File}
    (plain : file.chart.redirections = [])
    (comment : Comment) :
    file.reportedLine comment = file.lineOf comment.place := by
  rw [reportedLine, Chart.positionOf_eq_plainPosition plain, Chart.plainPosition_line, lineOf]

theorem mem_stated_of_ofComment?
    {file : File}
    {comment : Comment}
    (member : comment ∈ file.comments)
    {listed : Directive.Listed}
    (found : Directive.ofComment? comment.text = some listed) :
    ⟨file.lineOf comment.place, comment.place, Directive.kinds listed⟩ ∈ file.stated :=
  List.mem_filterMap.mpr ⟨comment, member, by rw [found, Option.map_some]⟩

/-- Without redirections every directive has a line of its own. -/
theorem Sound.lastOnLine_of_plain
    {file : File}
    (sound : file.Sound)
    (plain : file.chart.redirections = [])
    {comment : Comment}
    (member : comment ∈ file.comments)
    {listed : Directive.Listed}
    (found : Directive.ofComment? comment.text = some listed) :
    file.LastOnLine comment := by
  intro other otherMember isDirective sameLine
  obtain ⟨otherListed, otherFound⟩ := Option.isSome_iff_exists.mp isDirective
  rw [reportedLine_eq_lineOf plain, reportedLine_eq_lineOf plain] at sameLine
  have same := sound.stated_eq_of_line_eq (mem_stated_of_ofComment? otherMember otherFound)
    (mem_stated_of_ofComment? member found) sameLine
  exact Nat.le_of_eq (congrArg Stated.place same)

/-! ## Directives and entries -/

/-- In a file without redirections the entries of the ledger are the directives of the file,
each once with its line, place and kinds, and no two on one line; so it is in a file in which
no comment starts like one that redirects.  A comment between marks is never a directive.  In
any file, the comments come in the order of their places, and the entry of a line is that of
the last directive that is reported there. -/
theorem ledger_holds_every_directive
    {name text : String}
    {base : Nat}
    {file : File}
    (read : ofText? name base text = some file) :
    ((∀ comment ∈ file.comments, ¬comment.NamesLine) -> file.chart.redirections = []) ∧
      (file.chart.redirections = [] ->
        file.directives.entries.Perm (file.stated.map Stated.entered) ∧
          (file.directives.entries.map Prod.fst).Nodup ∧
          ∀ {line entry}, file.directives.find? line = some entry ↔
            ∃ comment ∈ file.comments, ∃ listed,
              Directive.ofComment? comment.text = some listed ∧
                (file.lineOf comment.place : Int) = line ∧
                (⟨comment.place, Directive.kinds listed, []⟩ : Entry) = entry) ∧
      (∀ rest, Directive.ofComment? (String.ofList ('/' :: '*' :: rest)) = none) ∧
      (file.comments.Pairwise fun early late => early.place < late.place) ∧
      ∀ {line entry}, file.directives.find? line = some entry ↔
        ∃ comment ∈ file.comments, ∃ listed,
          Directive.ofComment? comment.text = some listed ∧ file.LastOnLine comment ∧
            (file.reportedLine comment : Int) = line ∧
            (⟨comment.place, Directive.kinds listed, []⟩ : Entry) = entry := by
  have sound := sound_of_ofText? read
  refine ⟨redirections_of_ofText? read, fun plain => ⟨?_, ?_, ?_⟩, ?_, ?_, ?_⟩
  · rw [sound.entries_directives plain]
    exact List.reverse_perm _
  · exact sound.directives_isFunctional plain
  · intro line entry
    simp only [sound.find?_directives_iff, reportedLine_eq_lineOf plain]
    constructor
    · rintro ⟨comment, member, listed, found, -, onLine, entered⟩
      exact ⟨comment, member, listed, found, onLine, entered⟩
    · rintro ⟨comment, member, listed, found, onLine, entered⟩
      exact ⟨comment, member, listed, found, sound.lastOnLine_of_plain plain member found, onLine,
        entered⟩
  · intro rest
    simp [Directive.ofComment?, Directive.body?_block]
  · exact sound.ordered.imp fun ordered => ordered.1
  · exact sound.find?_directives_iff

/-- A file with two directives, one of them after a comment between marks that reads like
one. -/
def sampleCrowded : String :=
  "package p\n/*implicitctor:ignore*/ //implicitctor:ignore copy\nvar x = 1 //implicitctor:ignore\n"

/-- The comment between marks leaves the line to the directive after it. -/
theorem ledger_holds_every_directive_sample :
    ∃ file, ofText? "p.go" 1 sampleCrowded = some file ∧
      file.chart.redirections = [] ∧
      file.directives.entries.Perm [(2, ⟨35, ["copy"], []⟩), (3, ⟨72, [], []⟩)] ∧
      file.directives.find? 2 = some ⟨35, ["copy"], []⟩ ∧
      file.directives.find? 1 = none := by
  have evaluated : (ofText? "p.go" 1 sampleCrowded).any (fun file =>
      (file.comments.all fun comment => !decide comment.NamesLine) &&
        file.stated.map Stated.entered = [(2, ⟨35, ["copy"], []⟩), (3, ⟨72, [], []⟩)]) = true := by
    decide +kernel
  simp only [Option.any_eq_true, Bool.and_eq_true, List.all_eq_true, Bool.not_eq_true',
    decide_eq_true_eq, decide_eq_false_iff_not] at evaluated
  obtain ⟨file, read, ordinary, stated⟩ := evaluated
  obtain ⟨unredirected, entered, -, -, -⟩ := ledger_holds_every_directive read
  have plain := unredirected ordinary
  obtain ⟨entries, distinct, -⟩ := entered plain
  rw [stated] at entries
  have found := fun line entry => @Ledger.find?_eq_some_iff file.directives distinct line entry
  refine ⟨file, read, plain, entries, ?_, ?_⟩
  · rw [found, entries.mem_iff]
    simp
  · rw [Option.eq_none_iff_forall_ne_some]
    intro entry
    rw [ne_eq, found, entries.mem_iff]
    simp

end File
end Source
end CtorScan
