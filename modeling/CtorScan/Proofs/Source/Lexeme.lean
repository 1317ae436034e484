import CtorScan.Source.Lexeme
import CtorScan.Proofs.Source.Place
import CtorScan.Proofs.Source.Token

/-!
# Comments of a source text

Cutting a text finds its comments in the order of their places.  A comment after two
slashes goes up to the end of its line, so a line feed stands between it and every
comment after it.
-/

namespace CtorScan
namespace Source

open String (utf8Len)

/-! ## Texts of comments -/

/-- The comment goes up to the end of its line: it is not one between marks. -/
def Comment.IsLine (comment : Comment) : Prop :=
  ∀ rest, comment.text.toList ≠ '/' :: '*' :: rest

theorem stripBlock_eq_append
    (kept text : List Char) :
    ∃ tail, stripBlock kept text = kept.reverse ++ tail := by
  induction text generalizing kept with
  | nil => exact ⟨[], by simp [stripBlock]⟩
  | cons c rest inductionHypothesis =>
      unfold stripBlock
      split
      · obtain ⟨tail, equal⟩ := inductionHypothesis (c :: kept)
        exact ⟨c :: tail, by simp [equal]⟩
      · exact inductionHypothesis kept

/-- Leaving out carriage returns keeps the first two characters of a comment between
marks. -/
theorem commentText_block (rest : List Char) :
    ∃ tail, commentText ('/' :: '*' :: rest) = '/' :: '*' :: tail := by
  obtain ⟨tail, equal⟩ := stripBlock_eq_append ['*', '/'] rest
  exact ⟨tail, by simpa [commentText, stripBlock] using equal⟩

/-! ## What was found so far -/

/-- The charts differ in their redirections at most. -/
structure Chart.SameLayout (first second : Chart) : Prop where
  /-- They are of the same file. -/
  name : first.name = second.name
  /-- The file has the same place. -/
  base : first.base = second.base
  /-- The file has the same size. -/
  size : first.size = second.size
  /-- Lines start at the same offsets. -/
  lines : first.lines = second.lines

theorem Chart.SameLayout.refl (chart : Chart) : chart.SameLayout chart :=
  ⟨rfl, rfl, rfl, rfl⟩

theorem Chart.SameLayout.trans
    {first second third : Chart}
    (early : first.SameLayout second)
    (late : second.SameLayout third) :
    first.SameLayout third :=
  ⟨early.name.trans late.name, early.base.trans late.base, early.size.trans late.size,
    early.lines.trans late.lines⟩

theorem Chart.redirect_sameLayout
    (chart : Chart)
    (commentOffset next : Nat)
    (direction : Direction) :
    (chart.redirect commentOffset next direction).SameLayout chart := by
  unfold Chart.redirect
  simp only
  split <;> exact ⟨rfl, rfl, rfl, rfl⟩

/-- A line feed of the text stands between two places. -/
def FeedBetween
    (whole : List Char)
    (base early late : Nat) : Prop :=
  ∃ start, FollowsFeed whole start ∧ early < base + start ∧ base + start ≤ late

theorem FeedBetween.mono
    {whole : List Char}
    {base early late later : Nat}
    (between : FeedBetween whole base early late)
    (after : late ≤ later) :
    FeedBetween whole base early later := by
  obtain ⟨start, follows, before, reached⟩ := between
  exact ⟨start, follows, before, reached.trans after⟩

/-- What holds of the comments found up to an offset of a text, when the rest of the
text starts there.  The last comment comes first. -/
structure Progress
    (whole : List Char)
    (base : Nat)
    (comments : List Comment)
    (offset : Nat)
    (rest : List Char) : Prop where
  /-- The offset is that of the rest. -/
  consumed : ∃ before, whole = before ++ rest ∧ offset = utf8Len before
  /-- The comments are before the offset. -/
  places : ∀ comment ∈ comments, base ≤ comment.place ∧ comment.place < base + offset
  /-- They come in order, and line feeds end those that go up to the end of a line. -/
  ordered : comments.Pairwise fun late early =>
    early.place < late.place ∧
      (early.IsLine -> FeedBetween whole base early.place late.place)
  /-- After a comment that goes up to the end of its line, the line ends here or has
  ended. -/
  ended : ∀ comment ∈ comments, comment.IsLine ->
    rest = [] ∨ (∃ others, rest = '\n' :: others) ∨
      FeedBetween whole base comment.place (base + offset)

namespace Progress

variable {whole : List Char} {base : Nat} {comments : List Comment} {offset : Nat}
variable {text taken : List Char}

/-- Taking a start of the rest moves the offset. -/
theorem consumed_append
    (progress : Progress whole base comments offset text)
    (front : taken <+: text) :
    ∃ before, whole = before ++ text.drop taken.length ∧
      offset + (String.ofList taken).utf8ByteSize = utf8Len before := by
  obtain ⟨before, cut, rfl⟩ := progress.consumed
  obtain ⟨others, rfl⟩ := front
  refine ⟨before ++ taken, ?_, ?_⟩
  · rw [List.drop_left, List.append_assoc, cut]
  · rw [String.utf8ByteSize_ofList, String.utf8Len_append]

/-- A comment that goes up to the end of its line has ended where the rest of the
text goes on with something else than a line feed. -/
theorem feedBetween
    (progress : Progress whole base comments offset text)
    (something : text ≠ [])
    (notFeed : ∀ others, text ≠ '\n' :: others)
    {comment : Comment}
    (member : comment ∈ comments)
    (isLine : comment.IsLine) :
    FeedBetween whole base comment.place (base + offset) := by
  rcases progress.ended comment member isLine with done | ⟨others, feed⟩ | between
  · contradiction
  · exact absurd feed (notFeed others)
  · exact between

/-- Blanks and tokens leave the comments as they are. -/
theorem skip
    (progress : Progress whole base comments offset text)
    (something : text ≠ [])
    (front : taken <+: text)
    (notFeed : ∀ others, text ≠ '\n' :: others) :
    Progress whole base comments (offset + (String.ofList taken).utf8ByteSize)
      (text.drop taken.length) where
  consumed := progress.consumed_append front
  places := by
    intro comment member
    have bounds := progress.places comment member
    omega
  ordered := progress.ordered
  ended := by
    intro comment member isLine
    have between := progress.feedBetween something notFeed member isLine
    exact Or.inr (Or.inr (between.mono (by omega)))

/-- After a line feed, every comment that goes up to the end of its line has
ended. -/
theorem endLine
    {others : List Char}
    (progress : Progress whole base comments offset ('\n' :: others)) :
    Progress whole base comments (offset + (String.ofList ['\n']).utf8ByteSize) others where
  consumed := by
    have front : ['\n'] <+: '\n' :: others := ⟨others, rfl⟩
    exact progress.consumed_append front
  places := by
    intro comment member
    have bounds := progress.places comment member
    omega
  ordered := progress.ordered
  ended := by
    intro comment member isLine
    have one : (String.ofList ['\n']).utf8ByteSize = 1 := by
      rw [String.utf8ByteSize_ofList]
      rfl
    have before := (progress.places comment member).2
    obtain ⟨consumed, cut, rfl⟩ := progress.consumed
    refine Or.inr (Or.inr ⟨utf8Len consumed + 1, ⟨consumed, others, cut, rfl⟩, ?_, ?_⟩)
    · omega
    · omega

/-- A comment that is found comes after the others, on another line than those that
go up to the end of theirs. -/
theorem enter
    (progress : Progress whole base comments offset text)
    (front : taken <+: text)
    (takes : Item.comment.Takes text taken) :
    Progress whole base
      (⟨String.ofList (commentText taken), base + offset⟩ :: comments)
      (offset + (String.ofList taken).utf8ByteSize) (text.drop taken.length) := by
  have something : text ≠ [] := by
    rcases takes with ⟨rest, rfl, -⟩ | ⟨rest, body, rfl, -⟩ <;> simp
  have notFeed : ∀ others, text ≠ '\n' :: others := by
    rcases takes with ⟨rest, rfl, -⟩ | ⟨rest, body, rfl, -⟩ <;> simp
  have longer : 0 < (String.ofList taken).utf8ByteSize := by
    rw [String.utf8ByteSize_ofList]
    rcases takes with ⟨rest, -, rfl⟩ | ⟨rest, body, -, rfl⟩ <;>
      exact Nat.lt_of_lt_of_le (Char.utf8Size_pos '/') (by simp)
  refine ⟨progress.consumed_append front, ?_, ?_, ?_⟩
  · intro comment member
    rcases List.mem_cons.mp member with rfl | before
    · simp only
      omega
    · have bounds := progress.places comment before
      omega
  · refine List.Pairwise.cons ?_ progress.ordered
    intro early member
    exact ⟨(progress.places early member).2, progress.feedBetween something notFeed member⟩
  · intro comment member isLine
    rcases List.mem_cons.mp member with rfl | before
    · rcases takes with ⟨rest, rfl, rfl⟩ | ⟨rest, body, rfl, rfl⟩
      · have remains : ('/' :: '/' :: rest).drop
            ('/' :: '/' :: rest.takeWhile (· != '\n')).length = rest.dropWhile (· != '\n') := by
          calc
            _ = rest.drop (rest.takeWhile (· != '\n')).length := by simp
            _ = (rest.takeWhile (· != '\n') ++ rest.dropWhile (· != '\n')).drop
                  (rest.takeWhile (· != '\n')).length := by
                rw [List.takeWhile_append_dropWhile]
            _ = rest.dropWhile (· != '\n') := List.drop_left
        rw [remains]
        cases atEnd : rest.dropWhile (· != '\n') with
        | nil => exact Or.inl rfl
        | cons c others =>
            have feed := @List.head_dropWhile_not _ (· != '\n') rest (by simp [atEnd])
            have : c = '\n' := by simpa [atEnd] using feed
            exact Or.inr (Or.inl ⟨others, by rw [this]⟩)
      · obtain ⟨tail, starts⟩ := commentText_block body
        exact absurd (by simp [starts]) (isLine tail)
    · have between := progress.feedBetween something notFeed before isLine
      exact Or.inr (Or.inr (between.mono (by omega)))

end Progress

/-! ## The whole text -/

namespace Scanned

/-- A comment is put before the others, and the layout and the tokens are kept. -/
theorem addComment?_eq_some
    {scanned entered : Scanned}
    {startsLine : Bool}
    {offset next : Nat}
    {written : List Char}
    (added : scanned.addComment? startsLine offset next written = some entered) :
    entered.comments =
        ⟨String.ofList (commentText written), scanned.chart.base + offset⟩ :: scanned.comments ∧
      entered.chart.SameLayout scanned.chart ∧ entered.tokens = scanned.tokens := by
  simp only [addComment?] at added
  split at added
  · split at added
    · obtain rfl := Option.some.inj added
      exact ⟨rfl, .refl _, rfl⟩
    · split at added
      · contradiction
      · obtain rfl := Option.some.inj added
        exact ⟨rfl, .refl _, rfl⟩
      · obtain rfl := Option.some.inj added
        exact ⟨rfl, Chart.redirect_sameLayout _ _ _ _, rfl⟩
  · obtain rfl := Option.some.inj added
    exact ⟨rfl, .refl _, rfl⟩

end Scanned

/-- Every step of cutting a text keeps the condition on what was found, the offset and the rest
of the text. -/
structure ScanInvariant (holds : Scanned -> Nat -> List Char -> Prop) : Prop where
  /-- A token may be added at the offset or before it. -/
  token : ∀ {scanned offset text position} (token : Token), position ≤ offset ->
    holds scanned offset text -> holds (scanned.addToken position token) offset text
  /-- Anything but a comment may be taken. -/
  take : ∀ {scanned offset text item taken}, text ≠ [] -> item? text = some (item, taken) ->
    item ≠ .comment -> holds scanned offset text ->
    holds scanned (offset + (String.ofList taken).utf8ByteSize) (text.drop taken.length)
  /-- A comment is taken and added. -/
  comment : ∀ {scanned entered offset text taken startsLine}, text ≠ [] ->
    item? text = some (.comment, taken) ->
    scanned.addComment? startsLine offset (offset + (String.ofList taken).utf8ByteSize) taken =
      some entered -> holds scanned offset text ->
    holds entered (offset + (String.ofList taken).utf8ByteSize) (text.drop taken.length)

namespace ScanInvariant

variable {holds : Scanned -> Nat -> List Char -> Prop}

theorem semicolon
    (invariant : ScanInvariant holds)
    {scanned : Scanned}
    {offset position : Nat}
    {text : List Char}
    (pending : Bool)
    (before : position ≤ offset)
    (held : holds scanned offset text) :
    holds (scanned.addSemicolon pending position) offset text := by
  unfold Scanned.addSemicolon
  split
  · exact invariant.token _ before held
  · exact held

/-- What every step keeps holds at the end of the text. -/
theorem of_scanFrom
    (invariant : ScanInvariant holds)
    {bound offset : Nat}
    {scanned result : Scanned}
    {pending startsLine : Bool}
    {text : List Char}
    (cut : scanFrom bound scanned offset pending startsLine text = some result)
    (held : holds scanned offset text) :
    ∃ final, holds result final [] := by
  fun_induction scanFrom bound scanned offset pending startsLine text with
  | case1 => contradiction
  | case2 bound scanned offset pending =>
      obtain rfl := Option.some.inj cut
      exact ⟨offset, invariant.semicolon pending le_rfl held⟩
  | case3 => contradiction
  | case4 bound scanned offset pending startsLine text something taken next rest found
      inductionHypothesis =>
      exact inductionHypothesis cut (invariant.take something found (by simp) held)
  | case5 bound scanned offset pending startsLine text something taken next rest found
      inductionHypothesis =>
      have ended := invariant.semicolon pending le_rfl held
      exact inductionHypothesis cut (invariant.take something found (by simp) ended)
  | case6 bound scanned offset pending startsLine text something taken next rest token found
      inductionHypothesis =>
      have added := invariant.token token le_rfl held
      exact inductionHypothesis cut (invariant.take something found (by simp) added)
  | case7 => contradiction
  | case8 bound scanned offset pending startsLine text something taken next rest entered
      added hasFeed found inductionHypothesis =>
      -- the semicolon of the line has the place of the comment that ends it
      have commented := invariant.comment something found added held
      exact inductionHypothesis cut
        (invariant.semicolon pending (Nat.le_add_right _ _) commented)
  | case9 bound scanned offset pending startsLine text something taken next rest entered
      added hasFeed found inductionHypothesis =>
      exact inductionHypothesis cut (invariant.comment something found added held)

end ScanInvariant

/-- The layout is kept, and so is what is known about the comments.  The tokens are not
beyond the offset. -/
theorem scanInvariant_progress
    (whole : List Char)
    (first : Chart) :
    ScanInvariant fun scanned offset text =>
      scanned.chart.SameLayout first ∧ Progress whole first.base scanned.comments offset text ∧
        ∀ lexeme ∈ scanned.tokens,
          first.base ≤ lexeme.place ∧ lexeme.place ≤ first.base + offset where
  token := by
    rintro scanned offset text position token before ⟨layout, progress, inside⟩
    refine ⟨layout, progress, List.forall_mem_cons.mpr ⟨?_, inside⟩⟩
    simp only [layout.base]
    omega
  take := by
    rintro scanned offset text item taken something found noComment ⟨layout, progress, inside⟩
    obtain ⟨front, takes⟩ := item?_takes found
    refine ⟨layout, ?_, fun lexeme member => ⟨(inside lexeme member).1, ?_⟩⟩
    case refine_2 => exact (inside lexeme member).2.trans (by omega)
    cases item with
    | token token => exact progress.skip something front takes
    | blank => exact progress.skip something front takes
    | comment => contradiction
    | lineEnd =>
        obtain ⟨rfl, others, rfl⟩ := takes
        exact progress.endLine
  comment := by
    rintro scanned entered offset text taken startsLine - found added ⟨layout, progress, inside⟩
    obtain ⟨front, takes⟩ := item?_takes found
    obtain ⟨comments, sameLayout, tokens⟩ := Scanned.addComment?_eq_some added
    refine ⟨sameLayout.trans layout, ?_, ?_⟩
    · rw [comments, layout.base]
      exact progress.enter front takes
    · rw [tokens]
      exact fun lexeme member =>
        ⟨(inside lexeme member).1, (inside lexeme member).2.trans (by omega)⟩

/-- The comments and the tokens of a text have places in it. -/
theorem progress_of_scanText?
    {name text : String}
    {base : Nat}
    {scanned : Scanned}
    (cut : scanText? name base text = some scanned) :
    Progress text.toList base scanned.comments text.utf8ByteSize [] ∧
      scanned.chart.SameLayout ⟨name, base, text.utf8ByteSize, lineStarts text, []⟩ ∧
      ∀ lexeme ∈ scanned.tokens, scanned.chart.contains lexeme.place = true := by
  simp only [scanText?] at cut
  obtain ⟨allowed, cut⟩ := Option.ite_none_right_eq_some.mp cut
  have atFirst : Progress text.toList base []
      (if (text.toList.head? == some byteOrderMark) = true then (3, text.toList.drop 1)
        else (0, text.toList)).1
      (if (text.toList.head? == some byteOrderMark) = true then (3, text.toList.drop 1)
        else (0, text.toList)).2 := by
    refine ⟨?_, by simp, List.Pairwise.nil, by simp⟩
    split
    · rename_i marked
      refine ⟨[byteOrderMark], ?_, rfl⟩
      cases letters : text.toList with
      | nil => simp [letters] at marked
      | cons c rest =>
          have isMark : c = byteOrderMark := by simpa [letters] using marked
          simp [isMark]
    · exact ⟨[], rfl, rfl⟩
  obtain ⟨final, layout, progress, inside⟩ :=
    (scanInvariant_progress _ _).of_scanFrom cut ⟨.refl _, atFirst, by simp⟩
  have reached : final = text.utf8ByteSize := by
    obtain ⟨before, whole, rfl⟩ := progress.consumed
    rw [List.append_nil] at whole
    rw [← whole, ← String.utf8ByteSize_ofList, String.ofList_toList]
  refine ⟨reached ▸ progress, layout, fun lexeme member => ?_⟩
  have bounds := inside lexeme member
  rw [Chart.contains, layout.base, layout.size, ← reached]
  simpa using bounds

/-- The comments of a text are in it and come in order, the last one first.  No other
comment starts on the line of one that goes up to the end of its line, or before. -/
theorem comments_of_scanText?
    {name text : String}
    {base : Nat}
    {scanned : Scanned}
    (cut : scanText? name base text = some scanned) :
    (∀ comment ∈ scanned.comments,
        base ≤ comment.place ∧ comment.place < base + text.utf8ByteSize) ∧
      scanned.comments.Pairwise fun late early =>
        early.place < late.place ∧
          (early.IsLine ->
            (scanned.chart.lineAt (early.place - base)).1 <
              (scanned.chart.lineAt (late.place - base)).1) := by
  obtain ⟨progress, layout, -⟩ := progress_of_scanText? cut
  have lines : scanned.chart.lines = lineStarts text := layout.lines
  refine ⟨progress.places, progress.ordered.imp_of_mem ?_⟩
  intro late early lateMember earlyMember ordered
  refine ⟨ordered.1, fun isLine => ?_⟩
  obtain ⟨start, follows, before, reached⟩ := ordered.2 isLine
  have ⟨_, inside⟩ := progress.places late lateMember
  have ⟨afterBase, _⟩ := progress.places early earlyMember
  have starts : start ∈ scanned.chart.lines := by
    rw [lines]
    exact mem_lineStarts_of_followsFeed follows (by omega)
  refine Chart.lineAt_lt_of_start_between ?_ starts (by omega) (by omega)
  rw [lines]
  exact lineStarts_increasing text

end Source
end CtorScan
