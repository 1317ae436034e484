import CtorScan.Proofs.Source.Lexeme
import CtorScan.Proofs.Text.Trim
import CtorScan.Source.File
import Mathlib.Data.List.Pairwise

/-!
# Comments of read files

The files of a package take up places one after the other.  In each of them the
comments come in order, and a comment that is a directive is alone on its line with
what stands before it.
-/

namespace CtorScan

/-! ## Directives are line comments -/

namespace Directive

/-- A comment between marks is no directive. -/
theorem body?_block (rest : List Char) :
    body? ('/' :: '*' :: rest) = none := by
  have unopened : Text.afterStart? ['/', '/'] ('/' :: '*' :: rest) = none := by
    simp [Text.afterStart?, List.isPrefixOf]
  have trimmed := Text.trim_cons (show Text.isBlank '/' = false by decide) ('*' :: rest)
  have wordless : Text.afterStart? word.toList ('/' :: Text.trimEnd ('*' :: rest)) = none := by
    simp [Text.afterStart?, word, List.isPrefixOf]
  simp only [body?, unopened, Option.getD_none, trimmed, wordless]

end Directive

namespace Source

theorem Comment.isLine_of_ofComment?
    {comment : Comment}
    {listed : Directive.Listed}
    (found : Directive.ofComment? comment.text = some listed) :
    comment.IsLine := by
  intro rest block
  simp [Directive.ofComment?, block, Directive.body?_block] at found

/-! ## Files -/

namespace File

/-- The line of a place of the file, counted from one. -/
def lineOf
    (file : File)
    (place : Nat) : Nat :=
  (file.chart.lineAt (place - file.chart.base)).1

/-- The comments of a file are in it and come in order.  After a comment that goes up
to the end of its line the others are on later lines, which are counted from one. -/
structure Sound (file : File) : Prop where
  /-- The comments are in the file. -/
  inside : ∀ comment ∈ file.comments,
    file.chart.base ≤ comment.place ∧ comment.place < file.chart.base + file.chart.size
  /-- Its lines are counted from one. -/
  counted : ∀ place, 0 < file.lineOf place
  /-- They come in order. -/
  ordered : file.comments.Pairwise fun early late =>
    early.place < late.place ∧
      (early.IsLine -> file.lineOf early.place < file.lineOf late.place)

theorem Sound.contains_of_mem
    {file : File}
    (sound : file.Sound)
    {comment : Comment}
    (member : comment ∈ file.comments) :
    file.chart.contains comment.place = true := by
  have bounds := sound.inside comment member
  simp only [Chart.contains, Bool.and_eq_true, decide_eq_true_eq]
  omega

theorem ofText?_eq_some
    {name text : String}
    {base : Nat}
    {file : File}
    (found : ofText? name base text = some file) :
    ∃ scanned, scanText? name base text = some scanned ∧
      file.comments = scanned.comments.reverse ∧ file.chart = scanned.chart := by
  obtain ⟨scanned, cut, found⟩ := Option.bind_eq_some_iff.mp found
  refine ⟨scanned, cut, ?_⟩
  simp only [ofScanned?] at found
  split at found
  · obtain rfl := Option.some.inj found
    exact ⟨rfl, rfl⟩
  · contradiction

/-- Every text that can be cut makes a file: its tokens are inside of it. -/
theorem isSome_ofText?
    (name text : String)
    (base : Nat) :
    (ofText? name base text).isSome = (scanText? name base text).isSome := by
  rw [ofText?]
  cases cut : scanText? name base text with
  | none => rfl
  | some scanned =>
      have inside : ∀ lexeme ∈ scanned.tokens.reverse,
          scanned.chart.contains lexeme.place = true := by
        intro lexeme member
        exact (progress_of_scanText? cut).2.2 lexeme (List.mem_reverse.mp member)
      rw [Option.bind_some, ofScanned?, dif_pos inside]
      rfl

/-- The layout of a file that is read is that of its text. -/
theorem chart_of_ofText?
    {name text : String}
    {base : Nat}
    {file : File}
    (found : ofText? name base text = some file) :
    file.chart.SameLayout ⟨name, base, text.utf8ByteSize, lineStarts text, []⟩ := by
  obtain ⟨scanned, cut, -, chart⟩ := ofText?_eq_some found
  rw [chart]
  exact (progress_of_scanText? cut).2.1

theorem sound_of_ofText?
    {name text : String}
    {base : Nat}
    {file : File}
    (found : ofText? name base text = some file) :
    file.Sound := by
  obtain ⟨scanned, cut, comments, chart⟩ := ofText?_eq_some found
  have layout := chart_of_ofText? found
  have atBase : file.chart.base = base := layout.base
  have sized : file.chart.size = text.utf8ByteSize := layout.size
  obtain ⟨inside, ordered⟩ := comments_of_scanText? cut
  refine ⟨?_, ?_, ?_⟩
  · intro comment member
    rw [comments, List.mem_reverse] at member
    rw [atBase, sized]
    exact inside comment member
  · intro place
    simp [lineOf, Chart.lineAt, layout.lines, lineStarts]
  · rw [comments, List.pairwise_reverse]
    simp only [lineOf, atBase]
    rw [chart]
    exact ordered

end File

/-- Files that follow each other, the first one at a place or after it. -/
structure Arranged
    (base : Nat)
    (files : List File) : Prop where
  /-- Each file is sound. -/
  sound : ∀ file ∈ files, file.Sound
  /-- No file starts before the place. -/
  start : ∀ file ∈ files, base ≤ file.chart.base
  /-- A file starts after the end of those before it. -/
  apart : files.Pairwise fun early late =>
    early.chart.base + early.chart.size < late.chart.base

/-- The files of a package are arranged. -/
theorem arranged_of_filesOfTexts?
    {base : Nat}
    {texts : List (String × String)}
    {files : List File}
    (read : filesOfTexts? base texts = some files) :
    Arranged base files := by
  induction texts generalizing base files with
  | nil =>
      obtain rfl := Option.some.inj read
      exact ⟨by simp, by simp, List.Pairwise.nil⟩
  | cons text rest inductionHypothesis =>
      simp only [filesOfTexts?, Option.bind_eq_bind, Option.bind_eq_some_iff] at read
      obtain ⟨file, first, others, later, equal⟩ := read
      obtain rfl := Option.some.inj equal
      have layout := File.chart_of_ofText? first
      have atBase : file.chart.base = base := layout.base
      have sized : file.chart.size = text.2.utf8ByteSize := layout.size
      have arranged := inductionHypothesis later
      refine ⟨?_, ?_, List.Pairwise.cons ?_ arranged.apart⟩
      · intro other member
        rcases List.mem_cons.mp member with rfl | member
        · exact File.sound_of_ofText? first
        · exact arranged.sound other member
      · intro other member
        rcases List.mem_cons.mp member with rfl | member
        · exact atBase.ge
        · have after := arranged.start other member
          omega
      · intro other member
        have after := arranged.start other member
        omega

/-- The files have the names that are given with their texts. -/
theorem names_of_filesOfTexts?
    {base : Nat}
    {texts : List (String × String)}
    {files : List File}
    (read : filesOfTexts? base texts = some files) :
    (files.map fun file => file.chart.name) = texts.map Prod.fst := by
  induction texts generalizing base files with
  | nil =>
      obtain rfl := Option.some.inj read
      rfl
  | cons text rest inductionHypothesis =>
      simp only [filesOfTexts?, Option.bind_eq_bind, Option.bind_eq_some_iff] at read
      obtain ⟨file, first, others, later, equal⟩ := read
      obtain rfl := Option.some.inj equal
      rw [List.map_cons, List.map_cons, inductionHypothesis later,
        (File.chart_of_ofText? first).name]

/-- One of the files ends before the other one starts. -/
def File.Apart (first second : File) : Prop :=
  first.chart.base + first.chart.size < second.chart.base ∨
    second.chart.base + second.chart.size < first.chart.base

instance : Std.Symm File.Apart := ⟨fun _ _ => Or.symm⟩

theorem Arranged.bases_increasing
    {base : Nat}
    {files : List File}
    (arranged : Arranged base files) :
    files.Pairwise fun early late => early.chart.base < late.chart.base :=
  arranged.apart.imp fun apart => by omega

/-- A place of one of the files is in no other. -/
theorem Arranged.eq_of_contains
    {base place : Nat}
    {files : List File}
    (arranged : Arranged base files)
    {first second : File}
    (firstMember : first ∈ files)
    (secondMember : second ∈ files)
    (inFirst : first.chart.contains place = true)
    (inSecond : second.chart.contains place = true) :
    first = second := by
  simp only [Chart.contains, Bool.and_eq_true, decide_eq_true_eq] at inFirst inSecond
  by_contra different
  have apart : files.Pairwise File.Apart := arranged.apart.imp Or.inl
  have separate : first.Apart second := apart.forall firstMember secondMember different
  unfold File.Apart at separate
  omega

/-- A place of a file is reported as one of that file. -/
theorem Arranged.positionIn_eq
    {base place : Nat}
    {files : List File}
    (arranged : Arranged base files)
    {file : File}
    (member : file ∈ files)
    (inFile : file.chart.contains place = true) :
    positionIn (files.map File.chart) place = file.chart.positionOf place := by
  have found : (files.map File.chart).find? (fun chart => chart.contains place) =
      some file.chart := by
    cases search : files.find? fun other => other.chart.contains place with
    | none => simp [List.find?_eq_none.mp search file member] at inFile
    | some other =>
        have inOther : other.chart.contains place = true := by
          simpa using List.find?_some search
        have same := arranged.eq_of_contains (List.mem_of_find?_eq_some search) member
          inOther inFile
        simp only [List.find?_map, Function.comp_def, search, same, Option.map_some]
  rw [positionIn, found]

theorem positionIn_eq_none
    {place : Nat}
    {files : List File}
    (outside : ∀ file ∈ files, file.chart.contains place = false) :
    positionIn (files.map File.chart) place = .none := by
  have missed : (files.map File.chart).find? (fun chart => chart.contains place) = none := by
    simpa [List.find?_eq_none] using outside
  rw [positionIn, missed]

end Source
end CtorScan
