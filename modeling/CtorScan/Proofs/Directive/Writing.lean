import CtorScan.Directive.Comment
import CtorScan.Proofs.Text.Search
import CtorScan.Proofs.Text.Trim

/-!
# Directives in writing

A directive is written as the directive word, the names of kinds with commas between them
and spaces around the commas, and a trailer: nothing, a reason after a dash, or a further
comment.  Reading undoes writing.  The trailer may hold the marks of trailers and commas
again, since a text is cut at the first mark and no name starts with one.
-/

namespace CtorScan
namespace Directive

/-! ## Names -/

/-- A name that can stand in the list of a directive. -/
structure Name where
  /-- The name. -/
  text : String
  /-- There is something. -/
  nonempty : text ≠ ""
  /-- There is no white space in it. -/
  visible : ∀ c ∈ text.toList, Text.isBlank c = false
  /-- There is no comma in it. -/
  comma_notMem : ',' ∉ text.toList
  /-- It is not the dash that starts a reason. -/
  ne_dash : text ≠ "-"
  /-- It does not start like a comment. -/
  not_comment : ¬ ['/', '/'] <+: text.toList

namespace Name

theorem solid (name : Name) : Text.Solid name.text.toList := by
  refine Text.solid_of_visible ?_ name.visible
  intro nothing
  exact name.nonempty (String.toList_eq_nil_iff.mp nothing)

theorem space_notMem (name : Name) : ' ' ∉ name.text.toList := by
  intro member
  have visible := name.visible ' ' member
  contradiction

end Name

/-- Some spaces. -/
def spaces (count : Nat) : List Char :=
  List.replicate count ' '

theorem blank_spaces (count : Nat) : Text.Blank (spaces count) := by
  intro c member
  rw [List.eq_of_mem_replicate member]
  rfl

theorem comma_notMem_spaces (count : Nat) : ',' ∉ spaces count := by
  intro member
  have equal := List.eq_of_mem_replicate member
  contradiction

/-! ## Marks -/

/-- What may follow a name: nothing, or a text that starts with a space or a comma. -/
def EndsName (rest : List Char) : Prop :=
  ∀ c ∈ rest.head?, c = ' ' ∨ c = ','

theorem endsName_space (rest : List Char) : EndsName (' ' :: rest) := by
  intro c member
  exact Or.inl (Option.some.inj member).symm

theorem endsName_comma (rest : List Char) : EndsName (',' :: rest) := by
  intro c member
  exact Or.inr (Option.some.inj member).symm

theorem endsName_spaces_comma
    (count : Nat)
    (rest : List Char) :
    EndsName (spaces count ++ ',' :: rest) := by
  cases count with
  | zero => exact endsName_comma rest
  | succ count => exact endsName_space _

/-- A mark after a space that neither a further space, nor a comma, nor a name starts. -/
structure IsMark (mark : List Char) : Prop where
  /-- The mark starts with something else than a space or a comma. -/
  starts : ∃ c rest, mark = c :: rest ∧ c ≠ ' ' ∧ c ≠ ','
  /-- No name starts with the mark, also together with what follows it. -/
  not_name : ∀ (name : Name) {rest : List Char}, EndsName rest ->
    ¬ mark <+: name.text.toList ++ rest

theorem isMark_dash : IsMark ['-', ' '] where
  starts := ⟨'-', [' '], rfl, by decide, by decide⟩
  not_name name rest _ matched := by
    obtain ⟨c, tail, chars, -⟩ := name.solid.starts
    rw [chars, List.cons_append, List.cons_prefix_cons] at matched
    obtain ⟨rfl, matched⟩ := matched
    cases tail with
    | nil => exact name.ne_dash (String.toList_inj.mp chars)
    | cons d tail =>
        rw [List.cons_append, List.cons_prefix_cons] at matched
        obtain ⟨rfl, -⟩ := matched
        exact name.space_notMem (by simp [chars])

theorem isMark_comment : IsMark ['/', '/'] where
  starts := ⟨'/', ['/'], rfl, by decide, by decide⟩
  not_name name rest ends matched := by
    obtain ⟨c, tail, chars, -⟩ := name.solid.starts
    rw [chars, List.cons_append, List.cons_prefix_cons] at matched
    obtain ⟨rfl, matched⟩ := matched
    cases tail with
    | nil =>
        obtain ⟨more, rfl⟩ := matched
        have slash := ends '/' rfl
        simp at slash
    | cons d tail =>
        rw [List.cons_append, List.cons_prefix_cons] at matched
        obtain ⟨rfl, -⟩ := matched
        exact name.not_comment (by simp [chars])

namespace IsMark

variable {mark : List Char}

/-- What follows a name does not start with the mark. -/
theorem not_prefix
    (isMark : IsMark mark)
    {rest : List Char}
    (ends : EndsName rest) :
    ¬ mark <+: rest := by
  obtain ⟨c, tail, rfl, notSpace, notComma⟩ := isMark.starts
  rintro ⟨more, rfl⟩
  exact (ends c rfl).elim notSpace notComma

/-- Spaces are not cut, unless the mark follows them. -/
theorem before_spaces
    (isMark : IsMark mark)
    {rest : List Char}
    (unmarked : ¬ mark <+: rest)
    (count : Nat) :
    Text.before (' ' :: mark) (spaces count ++ rest) =
      spaces count ++ Text.before (' ' :: mark) rest := by
  induction count with
  | zero => rfl
  | succ count inductionHypothesis =>
      have unmarkedHere : ¬ mark <+: spaces count ++ rest := by
        cases count with
        | zero => exact unmarked
        | succ count => exact isMark.not_prefix (endsName_space _)
      rw [spaces, List.replicate_succ, List.cons_append, Text.before_cons_of_not_prefix]
      · exact congrArg _ inductionHypothesis
      · intro matched
        exact unmarkedHere (List.cons_prefix_cons.mp matched).2

end IsMark

/-! ## Lists of names -/

/-- Names with commas between them and spaces around the commas. -/
inductive Listing where
  /-- The last name. -/
  | last (name : Name)
  /-- A name, spaces, a comma, spaces, and what follows. -/
  | more (name : Name) (early late : Nat) (rest : Listing)

namespace Listing

/-- The list as it is written. -/
def text : Listing -> List Char
  | last name => name.text.toList
  | more name early late rest =>
      name.text.toList ++ (spaces early ++ ',' :: (spaces late ++ rest.text))

/-- The names before the last one. -/
def init : Listing -> List Name
  | last _ => []
  | more name _ _ rest => name :: rest.init

/-- The last name. -/
def final : Listing -> Name
  | last name => name
  | more _ _ _ rest => rest.final

/-- All names, in order. -/
def names (listing : Listing) : List String :=
  listing.init.map Name.text ++ [listing.final.text]

theorem solid_text (listing : Listing) : Text.Solid listing.text := by
  induction listing with
  | last name => exact name.solid
  | more name early late rest inductionHypothesis =>
      have between := name.solid.append (spaces early ++ ',' :: spaces late) inductionHypothesis
      simpa [text] using between

theorem text_ne_dash (listing : Listing) : listing.text ≠ ['-'] := by
  intro dash
  cases listing with
  | last name => exact name.ne_dash (String.toList_inj.mp dash)
  | more name early late rest =>
      have comma : ',' ∈ (more name early late rest).text := by simp [text]
      rw [dash] at comma
      simp at comma

/-- A list of names is not cut, and what follows it is cut by itself. -/
theorem before_text
    {mark : List Char}
    (isMark : IsMark mark)
    (listing : Listing)
    {rest : List Char}
    (ends : EndsName rest)
    (count : Nat) :
    Text.before (' ' :: mark) (spaces count ++ (listing.text ++ rest)) =
      spaces count ++ (listing.text ++ Text.before (' ' :: mark) rest) := by
  induction listing generalizing count with
  | last name =>
      rw [text, isMark.before_spaces (isMark.not_name name ends),
        Text.before_append_of_notMem name.space_notMem]
  | more name early late others inductionHypothesis =>
      have unmarked := isMark.not_name name
        (endsName_spaces_comma early (spaces late ++ (others.text ++ rest)))
      have comma : ∀ tail, Text.before (' ' :: mark) (',' :: tail) =
          ',' :: Text.before (' ' :: mark) tail :=
        Text.before_append_of_notMem (show ' ' ∉ [','] by decide)
      rw [text]
      simp only [List.append_assoc, List.cons_append]
      rw [isMark.before_spaces unmarked, Text.before_append_of_notMem name.space_notMem,
        isMark.before_spaces (isMark.not_prefix (endsName_comma _)), comma, inductionHypothesis]

/-- Splitting at commas and trimming gives the names.  What follows the list without a
comma counts for the last one. -/
theorem splitAt_text
    (listing : Listing)
    {rest : List Char}
    (noComma : ',' ∉ rest)
    (count : Nat) :
    (Text.splitAt ',' (spaces count ++ (listing.text ++ rest))).map Text.trim =
      listing.init.map (fun name => name.text.toList) ++
        [Text.trim (listing.final.text.toList ++ rest)] := by
  induction listing generalizing count with
  | last name =>
      have absent : ',' ∉ spaces count ++ (name.text.toList ++ rest) := by
        simp [comma_notMem_spaces, name.comma_notMem, noComma]
      rw [text, Text.splitAt_of_notMem absent, List.map_singleton,
        Text.trim_append_of_blank (blank_spaces count)]
      rfl
  | more name early late others inductionHypothesis =>
      have absent : ',' ∉ spaces count ++ (name.text.toList ++ spaces early) := by
        simp [comma_notMem_spaces, name.comma_notMem]
      have parts : spaces count ++ ((more name early late others).text ++ rest) =
          (spaces count ++ (name.text.toList ++ spaces early)) ++
            ',' :: (spaces late ++ (others.text ++ rest)) := by
        simp [text]
      rw [parts, Text.splitAt_append_cons absent, List.map_cons, inductionHypothesis,
        Text.trim_surrounded (blank_spaces count) name.solid (blank_spaces early)]
      rfl

/-- The names in a written list.  What follows the list without a comma counts for the
last one. -/
theorem names_text
    (listing : Listing)
    {rest : List Char}
    (noComma : ',' ∉ rest)
    (solid : Text.Solid (listing.final.text.toList ++ rest)) :
    Directive.names (listing.text ++ rest) =
      listing.init.map Name.text ++ [String.ofList (listing.final.text.toList ++ rest)] := by
  have parts := listing.splitAt_text noComma 0
  rw [Text.trim_of_solid solid] at parts
  have mapped : ((Text.splitAt ',' (listing.text ++ rest)).map fun part =>
      String.ofList (Text.trim part)) =
        listing.init.map Name.text ++ [String.ofList (listing.final.text.toList ++ rest)] := by
    calc
      _ = ((Text.splitAt ',' (listing.text ++ rest)).map Text.trim).map String.ofList := by
          rw [List.map_map]
          rfl
      _ = _ := by
          rw [show listing.text ++ rest = spaces 0 ++ (listing.text ++ rest) from rfl, parts]
          simp [Function.comp_def]
  rw [Directive.names, mapped, List.filter_eq_self]
  intro name member
  rcases List.mem_append.mp member with early | late
  · obtain ⟨other, -, rfl⟩ := List.mem_map.mp early
    simpa using other.nonempty
  · rw [List.mem_singleton.mp late]
    obtain ⟨c, tail, chars, -⟩ := solid.starts
    simp [chars]

end Listing

/-! ## Trailers -/

/-- What may follow the names. -/
inductive Trailer where
  /-- Nothing. -/
  | nothing
  /-- A dash between spaces, and a reason that is not blank. -/
  | reason (text : List Char) (visible : ∃ c ∈ text, Text.isBlank c = false)
  /-- A further comment. -/
  | comment (text : List Char)

namespace Trailer

/-- The trailer as it is written. -/
def text : Trailer -> List Char
  | nothing => []
  | reason text _ => ' ' :: '-' :: ' ' :: text
  | comment text => ' ' :: '/' :: '/' :: text

end Trailer

/-- A text that is cut off by itself, also after a name. -/
structure CutsOff (rest : List Char) : Prop where
  /-- The text may follow a name. -/
  ends : EndsName rest
  /-- So may what is left of it without a reason. -/
  endsCut : EndsName (Text.before [' ', '-', ' '] rest)
  /-- Nothing of it is left in the end. -/
  gone : Text.before [' ', '/', '/'] (Text.before [' ', '-', ' '] rest) = []

theorem cutsOff_nil : CutsOff [] where
  ends := by simp [EndsName]
  endsCut := by simp [EndsName, Text.before]
  gone := rfl

theorem cutsOff_dash (reason : List Char) : CutsOff (' ' :: '-' :: ' ' :: reason) := by
  have cut : Text.before [' ', '-', ' '] (' ' :: '-' :: ' ' :: reason) = [] :=
    Text.before_self_append (by simp) reason
  refine ⟨endsName_space _, ?_, ?_⟩
  · rw [cut]
    simp [EndsName]
  · rw [cut]
    rfl

theorem cutsOff_comment (comment : List Char) : CutsOff (' ' :: '/' :: '/' :: comment) := by
  have kept : Text.before [' ', '-', ' '] (' ' :: '/' :: '/' :: comment) =
      ' ' :: '/' :: '/' :: Text.before [' ', '-', ' '] comment := by
    rw [Text.before_cons_of_not_prefix]
    · exact congrArg (List.cons ' ')
        (Text.before_append_of_notMem (show ' ' ∉ ['/', '/'] by decide) comment)
    · simp
  refine ⟨endsName_space _, ?_, ?_⟩
  · rw [kept]
    exact endsName_space _
  · rw [kept]
    exact Text.before_self_append (by simp) _

/-- Trimming a text with a trailer leaves a trailer that is cut off by itself. -/
theorem Trailer.exists_trimEnd
    {trailer : Trailer}
    (present : trailer ≠ nothing) :
    ∃ rest, CutsOff (' ' :: rest) ∧
      ∀ text, Text.trimEnd (text ++ trailer.text) = text ++ ' ' :: rest := by
  cases trailer with
  | nothing => contradiction
  | reason reason visible =>
      obtain ⟨c, member, visible⟩ := visible
      obtain ⟨early, late, rfl⟩ := List.append_of_mem member
      refine ⟨'-' :: ' ' :: (early ++ c :: Text.trimEnd late), cutsOff_dash _, ?_⟩
      intro text
      have trimmed := Text.trimEnd_append_cons visible (text ++ ' ' :: '-' :: ' ' :: early) late
      simpa [Trailer.text] using trimmed
  | comment comment =>
      refine ⟨'/' :: '/' :: Text.trimEnd comment, cutsOff_comment _, ?_⟩
      intro text
      have visible : Text.isBlank '/' = false := by decide
      have trimmed := Text.trimEnd_append_cons visible (text ++ [' ', '/']) comment
      simpa [Trailer.text] using trimmed

/-! ## Comments -/

/-- A comment with the directive word, after some spaces, and what follows it. -/
def written
    (leading : Nat)
    (content : List Char) : String :=
  String.ofList ('/' :: '/' :: (spaces leading ++ (word.toList ++ content)))

theorem solid_word : Text.Solid word.toList := by
  apply Text.solid_of_visible
  · decide
  · simp [word, Text.isBlank]

theorem trim_written
    (leading : Nat)
    (content : List Char) :
    Text.trim (spaces leading ++ (word.toList ++ content)) =
      word.toList ++ Text.trimEnd content := by
  obtain ⟨first, tail, starts, visibleFirst⟩ := solid_word.starts
  obtain ⟨init, last, ends, visibleLast⟩ := solid_word.ends
  have kept : Text.trimStart (word.toList ++ content) = word.toList ++ content := by
    rw [starts]
    exact Text.trimStart_cons visibleFirst (tail ++ content)
  rw [Text.trim_append_of_blank (blank_spaces leading), Text.trim, kept, ends, List.append_assoc,
    List.singleton_append, Text.trimEnd_append_cons visibleLast]
  simp

/-- The text after the directive word is what follows it, trimmed at the end. -/
theorem afterStart?_written
    (leading : Nat)
    (content : List Char) :
    Text.afterStart? word.toList
        (Text.trim ((Text.afterStart? ['/', '/'] (written leading content).toList).getD
          (written leading content).toList)) =
      some (Text.trimEnd content) := by
  have opened : Text.afterStart? ['/', '/'] (written leading content).toList =
      some (spaces leading ++ (word.toList ++ content)) := by
    rw [written, String.toList_ofList]
    exact Text.afterStart?_append ['/', '/'] _
  rw [opened, Option.getD_some, trim_written, Text.afterStart?_append]

theorem body?_written_of_nil
    {content : List Char}
    (trimmed : Text.trimEnd content = [])
    (leading : Nat) :
    body? (written leading content).toList = some [] := by
  simp only [body?, afterStart?_written, trimmed]

theorem body?_written_of_cons
    {content rest : List Char}
    {c : Char}
    (trimmed : Text.trimEnd content = c :: rest)
    (leading : Nat) :
    body? (written leading content).toList = if c = ' ' then some (c :: rest) else none := by
  simp only [body?, afterStart?_written, trimmed]

/-! ## Reading -/

theorem withoutReason_text
    (listing : Listing)
    {rest : List Char}
    (cut : CutsOff rest)
    (count : Nat) :
    withoutReason (spaces count ++ (listing.text ++ rest)) = listing.text := by
  have nothing : Text.Blank [] := by simp [Text.Blank]
  rw [withoutReason, listing.before_text isMark_dash cut.ends,
    listing.before_text isMark_comment cut.endsCut, cut.gone,
    Text.trim_surrounded (blank_spaces count) listing.solid_text nothing]

theorem withoutReason_spaces
    {rest : List Char}
    (cut : CutsOff rest)
    (count : Nat) :
    withoutReason (spaces count ++ rest) = [] := by
  rw [withoutReason, isMark_dash.before_spaces (isMark_dash.not_prefix cut.ends),
    isMark_comment.before_spaces (isMark_comment.not_prefix cut.endsCut), cut.gone,
    List.append_nil, Text.trim_eq_nil_of_blank (blank_spaces count)]

theorem ofComment?_eq_some
    {comment : String}
    {listing : Listing}
    {body : List Char}
    (found : body? comment.toList = some body)
    (list : withoutReason body = listing.text) :
    ofComment? comment = some (some listing.names) := by
  obtain ⟨c, tail, chars, -⟩ := listing.solid_text.starts
  have nonempty : listing.text ≠ [] := by simp [chars]
  have names := listing.names_text List.not_mem_nil (by simpa using listing.final.solid)
  rw [List.append_nil] at names
  simp [ofComment?, found, list, nonempty, listing.text_ne_dash, names, Listing.names]

theorem ofComment?_eq_none_listed
    {comment : String}
    {body : List Char}
    (found : body? comment.toList = some body)
    (list : withoutReason body = []) :
    ofComment? comment = some none := by
  simp [ofComment?, found, list]

/-- Written names are read back. -/
theorem ofComment?_written_names
    (leading gap : Nat)
    (listing : Listing)
    (trailer : Trailer) :
    ofComment? (written leading (spaces (gap + 1) ++ (listing.text ++ trailer.text))) =
      some (some listing.names) := by
  have read : ∀ {rest : List Char}, CutsOff rest ->
      Text.trimEnd (spaces (gap + 1) ++ (listing.text ++ trailer.text)) =
        spaces (gap + 1) ++ (listing.text ++ rest) ->
      ofComment? (written leading (spaces (gap + 1) ++ (listing.text ++ trailer.text))) =
        some (some listing.names) := by
    intro rest cut trimmed
    exact ofComment?_eq_some (body?_written_of_cons trimmed leading)
      (withoutReason_text listing cut (gap + 1))
  by_cases absent : trailer = .nothing
  · subst absent
    refine read cutsOff_nil ?_
    rw [Trailer.text, List.append_nil]
    exact Text.trimEnd_append_of_solid _ listing.solid_text
  · obtain ⟨rest, cut, trimmed⟩ := Trailer.exists_trimEnd absent
    refine read cut ?_
    rw [← List.append_assoc, trimmed, List.append_assoc]

/-- Without names, a directive lists none. -/
theorem ofComment?_written_nothing
    (leading gap : Nat)
    (trailer : Trailer) :
    ofComment? (written leading (spaces gap ++ trailer.text)) = some none := by
  by_cases absent : trailer = .nothing
  · subst absent
    have trimmed : Text.trimEnd (spaces gap ++ Trailer.nothing.text) = [] := by
      rw [Trailer.text, List.append_nil]
      exact Text.trimEnd_eq_nil_of_blank (blank_spaces gap)
    exact ofComment?_eq_none_listed (body?_written_of_nil trimmed leading) rfl
  · obtain ⟨rest, cut, trimmed⟩ := Trailer.exists_trimEnd absent
    have found : body? (written leading (spaces gap ++ trailer.text)).toList =
        some (spaces gap ++ ' ' :: rest) := by
      cases gap with
      | zero => exact body?_written_of_cons (trimmed []) leading
      | succ gap => exact body?_written_of_cons (trimmed (spaces (gap + 1))) leading
    exact ofComment?_eq_none_listed found (withoutReason_spaces cut gap)

/-- A longer word is no directive word. -/
theorem ofComment?_written_longer
    (leading : Nat)
    {c : Char}
    (rest : List Char)
    (notSpace : c ≠ ' ')
    (visible : ∃ d ∈ c :: rest, Text.isBlank d = false) :
    ofComment? (written leading (c :: rest)) = none := by
  have trimmed : ∃ tail, Text.trimEnd (c :: rest) = c :: tail := by
    obtain ⟨d, member, visible⟩ := visible
    obtain ⟨early, late, split⟩ := List.append_of_mem member
    rw [split, Text.trimEnd_append_cons visible]
    cases early with
    | nil => exact ⟨_, by rw [List.nil_append, (List.cons.inj split).1]⟩
    | cons e early => exact ⟨_, by rw [List.cons_append, (List.cons.inj split).1]⟩
  obtain ⟨tail, trimmed⟩ := trimmed
  simp [ofComment?, body?_written_of_cons trimmed, notSpace]

/-- Reading a directive undoes writing it.  From every list of names with commas between
them and any spaces around the commas, after one or more spaces and before any trailer,
exactly these names are read, in order.  Without names, a directive that stands for every
kind is read.  If the directive word goes on with anything but a space, and not only with
white space to the end of the comment, there is no directive. -/
theorem written_directive_is_read_back
    (leading : Nat) :
    (∀ (gap : Nat) (listing : Listing) (trailer : Trailer),
      ofComment? (written leading (spaces (gap + 1) ++ (listing.text ++ trailer.text))) =
        some (some listing.names)) ∧
      (∀ (gap : Nat) (trailer : Trailer),
        ofComment? (written leading (spaces gap ++ trailer.text)) = some none) ∧
      ∀ {c : Char} (rest : List Char), c ≠ ' ' ->
        (∃ d ∈ c :: rest, Text.isBlank d = false) ->
        ofComment? (written leading (c :: rest)) = none :=
  ⟨ofComment?_written_names leading, ofComment?_written_nothing leading,
    ofComment?_written_longer leading⟩

/-- The name of a known kind. -/
def sampleCopy : Name where
  text := "copy"
  nonempty := by decide
  visible := by simp [Text.isBlank]
  comma_notMem := by decide
  ne_dash := by decide
  not_comment := by decide

/-- A name in which marks occur, but not at its start. -/
def sampleMarked : Name where
  text := "-//-"
  nonempty := by decide
  visible := by simp [Text.isBlank]
  comma_notMem := by decide
  ne_dash := by decide
  not_comment := by decide

/-- Two names with spaces around the comma. -/
def sampleListing : Listing :=
  .more sampleCopy 1 2 (.last sampleMarked)

/-- A reason with all marks in it again. -/
def sampleTrailer : Trailer :=
  .reason [' ', 'a', ',', ' ', '-', ' ', '/', '/', ' '] ⟨'a', by decide, by decide⟩

theorem written_directive_is_read_back_sample :
    written 1 (spaces 2 ++ (sampleListing.text ++ sampleTrailer.text)) =
        "// implicitctor:ignore  copy ,  -//- -  a, - // " ∧
      ofComment? "// implicitctor:ignore  copy ,  -//- -  a, - // " =
        some (some ["copy", "-//-"]) ∧
      ofComment? (written 1 (spaces 0 ++ sampleTrailer.text)) = some none ∧
      'd' ≠ ' ' ∧ Text.isBlank 'd' = false ∧
      ofComment? (written 1 ['d']) = none := by
  have text : written 1 (spaces 2 ++ (sampleListing.text ++ sampleTrailer.text)) =
      "// implicitctor:ignore  copy ,  -//- -  a, - // " := by decide
  have notSpace : 'd' ≠ ' ' := by decide
  have visible : Text.isBlank 'd' = false := by decide
  obtain ⟨names, nothing, longer⟩ := written_directive_is_read_back 1
  refine ⟨text, ?_, nothing 0 sampleTrailer, notSpace, visible, ?_⟩
  · rw [← text]
    exact names 1 sampleListing sampleTrailer
  · exact longer [] notSpace ⟨'d', List.mem_cons_self, visible⟩

end Directive
end CtorScan
