import CtorScan.Proofs.Report.Answers
import Mathlib.Data.List.Forall2

/-!
# Text reports tell callees and kinds

A text report has two lines for each record and escapes nothing.  The name of a callee may
repeat the words of the format, but as long as it has no line feed, it ends where its line
does.  So the records are found in the report one after the other, each with its callee and
its kind, and with nothing left over.
-/

namespace CtorScan

theorem Kind.eq_of_title_eq
    {first second : Kind}
    (validFirst : first ∈ named)
    (validSecond : second ∈ named)
    (same : first.title = second.title) :
    first = second := by
  have distinct : ∀ first ∈ named, ∀ second ∈ named,
      first.title = second.title -> first = second := by
    decide
  exact distinct first validFirst second validSecond same

theorem Kind.feed_notMem_title
    {kind : Kind}
    (valid : kind ∈ named) :
    '\n' ∉ kind.title.toList := by
  have oneLine : ∀ kind ∈ named, '\n' ∉ kind.title.toList := by decide
  exact oneLine kind valid

/-- A record that two lines are enough for: its kind has a name, and the name of its callee
has no line feed. -/
structure Record.FitsLines (record : Record) : Prop where
  /-- The kind has a name. -/
  named : record.kind ∈ Kind.named
  /-- The name of the callee is on one line. -/
  oneLine : '\n' ∉ record.callee.toList

/-- The two records have the same callee and the same kind. -/
structure Record.SameFinding (own other : Record) : Prop where
  /-- The callees are the same. -/
  callee : own.callee = other.callee
  /-- The kinds are the same. -/
  kind : own.kind = other.kind

namespace Report

/-! ## One line after the other -/

/-- The first line feed of a text ends its first line. -/
theorem eq_of_append_feed_eq
    {first second firstRest secondRest : List Char}
    (notFirst : '\n' ∉ first)
    (notSecond : '\n' ∉ second)
    (same : first ++ '\n' :: firstRest = second ++ '\n' :: secondRest) :
    first = second ∧ firstRest = secondRest := by
  induction first generalizing second with
  | nil =>
      cases second with
      | nil => exact ⟨rfl, (List.cons.inj same).2⟩
      | cons c second =>
          have isFeed := (List.cons.inj same).1
          simp [← isFeed] at notSecond
  | cons c first inductionHypothesis =>
      cases second with
      | nil =>
          have isFeed := (List.cons.inj same).1
          simp [isFeed] at notFirst
      | cons other second =>
          obtain ⟨rfl, later⟩ := List.cons.inj same
          have := inductionHypothesis (List.not_mem_of_not_mem_cons notFirst)
            (List.not_mem_of_not_mem_cons notSecond) later
          simpa using this

namespace Sink

/-- The first line for a record. -/
def calleeLine (record : Record) : List Char :=
  "Implicit constructor detected: ".toList ++ record.callee.toList

/-- The second line for a record. -/
def kindLine (record : Record) : List Char :=
  "Type: ".toList ++ record.kind.title.toList

theorem toList_textLines (record : Record) :
    (textLines record).toList = calleeLine record ++ '\n' :: (kindLine record ++ ['\n']) := by
  have between : "\nType: ".toList = '\n' :: "Type: ".toList := rfl
  have last : "\n".toList = ['\n'] := rfl
  unfold textLines calleeLine kindLine
  simp only [String.toList_append, between, last, List.append_assoc, List.cons_append]

theorem feed_notMem_calleeLine
    {record : Record}
    (fits : record.FitsLines) :
    '\n' ∉ calleeLine record := by
  have words : '\n' ∉ "Implicit constructor detected: ".toList := by decide
  intro member
  exact (List.mem_append.mp member).elim words fits.oneLine

theorem feed_notMem_kindLine
    {record : Record}
    (fits : record.FitsLines) :
    '\n' ∉ kindLine record := by
  have words : '\n' ∉ "Type: ".toList := by decide
  intro member
  exact (List.mem_append.mp member).elim words (Kind.feed_notMem_title fits.named)

/-- The lines for a record have two line feeds. -/
theorem count_feed_textLines
    {record : Record}
    (fits : record.FitsLines) :
    (textLines record).toList.count '\n' = 2 := by
  have first := List.count_eq_zero.mpr (feed_notMem_calleeLine fits)
  have second := List.count_eq_zero.mpr (feed_notMem_kindLine fits)
  simp [toList_textLines, first, second]

/-- The lines for a record, at the start of a text, tell its callee and its kind and where
they end. -/
theorem sameFinding_of_textLines_append_eq
    {own other : Record}
    {ownRest otherRest : List Char}
    (ownFits : own.FitsLines)
    (otherFits : other.FitsLines)
    (same : (textLines own).toList ++ ownRest = (textLines other).toList ++ otherRest) :
    own.SameFinding other ∧ ownRest = otherRest := by
  simp only [toList_textLines, List.append_assoc, List.cons_append, List.nil_append] at same
  obtain ⟨sameCallee, same⟩ := eq_of_append_feed_eq (feed_notMem_calleeLine ownFits)
    (feed_notMem_calleeLine otherFits) same
  obtain ⟨sameKind, sameRest⟩ := eq_of_append_feed_eq (feed_notMem_kindLine ownFits)
    (feed_notMem_kindLine otherFits) same
  refine ⟨⟨?_, ?_⟩, sameRest⟩
  · exact String.toList_inj.mp (List.append_cancel_left sameCallee)
  · exact Kind.eq_of_title_eq ownFits.named otherFits.named
      (String.toList_inj.mp (List.append_cancel_left sameKind))

/-! ## Reports -/

/-- The text sink writes the lines for all records. -/
theorem output_text
    {records : List Record}
    (fits : ∀ record ∈ records, record.FitsLines) :
    (ofFormat .reliable .text).output records = String.join (records.map textLines) := by
  have same : records.map Format.text.encoding = records.map textLines :=
    List.map_congr_left fun record member => Format.encoding_text (fits record member).named
  rw [← same]
  exact output_of_writeAll? (writeAll?_ofFormat .text (Writer.acceptAll?_reliable _)
    fun record member => (fits record member).named)

theorem count_feed_join
    {records : List Record}
    (fits : ∀ record ∈ records, record.FitsLines) :
    (String.join (records.map textLines)).toList.count '\n' = 2 * records.length := by
  induction records with
  | nil => rfl
  | cons record rest inductionHypothesis =>
      obtain ⟨fitsFirst, fitsRest⟩ := List.forall_mem_cons.mp fits
      rw [List.map_cons, String.join_cons, String.toList_append, List.count_append,
        count_feed_textLines fitsFirst, inductionHypothesis fitsRest, List.length_cons]
      omega

/-- The lines for records tell the callees and the kinds of all of them. -/
theorem sameFinding_of_join_eq
    {first second : List Record}
    (fitsFirst : ∀ record ∈ first, record.FitsLines)
    (fitsSecond : ∀ record ∈ second, record.FitsLines)
    (same : String.join (first.map textLines) = String.join (second.map textLines)) :
    List.Forall₂ Record.SameFinding first second := by
  induction first generalizing second with
  | nil =>
      cases second with
      | nil => exact .nil
      | cons other second =>
          have counts := count_feed_join fitsSecond
          rw [← same] at counts
          contradiction
  | cons own first inductionHypothesis =>
      cases second with
      | nil =>
          have counts := count_feed_join fitsFirst
          rw [same] at counts
          contradiction
      | cons other second =>
          obtain ⟨ownFits, fitsFirst⟩ := List.forall_mem_cons.mp fitsFirst
          obtain ⟨otherFits, fitsSecond⟩ := List.forall_mem_cons.mp fitsSecond
          have characters : (textLines own).toList ++ (String.join (first.map textLines)).toList =
              (textLines other).toList ++ (String.join (second.map textLines)).toList := by
            simpa [String.join_cons] using congrArg String.toList same
          obtain ⟨alike, later⟩ := sameFinding_of_textLines_append_eq ownFits otherFits characters
          exact .cons alike
            (inductionHypothesis fitsFirst fitsSecond (String.toList_inj.mp later))

theorem textLines_eq_of_sameFinding
    {own other : Record}
    (alike : own.SameFinding other) :
    textLines own = textLines other := by
  unfold textLines
  rw [alike.callee, alike.kind]

theorem join_eq_of_sameFinding
    {first second : List Record}
    (alike : List.Forall₂ Record.SameFinding first second) :
    String.join (first.map textLines) = String.join (second.map textLines) := by
  induction alike with
  | nil => rfl
  | cons own _ inductionHypothesis =>
      rw [List.map_cons, List.map_cons, String.join_cons, String.join_cons, inductionHypothesis,
        textLines_eq_of_sameFinding own]

/-- A text report is unambiguous, whatever else is in the names.  The report of records
whose kinds have names and whose callees are on one line has two line feeds for each of
them.  Two such reports are the same if and only if there are as many records in both and
they agree one by one on callee and kind. -/
theorem text_report_is_unambiguous
    {first second : List Record}
    (fitsFirst : ∀ record ∈ first, record.FitsLines)
    (fitsSecond : ∀ record ∈ second, record.FitsLines) :
    let report := (ofFormat .reliable .text).output
    (report first).toList.count '\n' = 2 * first.length ∧
      (report first = report second ↔ List.Forall₂ Record.SameFinding first second) := by
  intro report
  have reportFirst : report first = String.join (first.map textLines) := output_text fitsFirst
  have reportSecond : report second = String.join (second.map textLines) := output_text fitsSecond
  rw [reportFirst, reportSecond]
  exact ⟨count_feed_join fitsFirst,
    sameFinding_of_join_eq fitsFirst fitsSecond, join_eq_of_sameFinding⟩

/-- Records whose callees have the words of the format in their names. -/
def imitatingRecords : List Record :=
  [⟨"f", "Type: Copy Constructor", .default, 1⟩,
    ⟨"g", "Implicit constructor detected: AC1", .copy, 2⟩]

/-- The same findings in other functions. -/
def relocatedRecords : List Record :=
  [⟨"", "Type: Copy Constructor", .default, 7⟩,
    ⟨"f", "Implicit constructor detected: AC1", .copy, 8⟩]

theorem text_report_is_unambiguous_imitating :
    let report := (ofFormat .reliable .text).output
    (∀ record ∈ imitatingRecords, record.FitsLines) ∧
      (∀ record ∈ relocatedRecords, record.FitsLines) ∧
      (report imitatingRecords).toList.count '\n' = 4 ∧
      report imitatingRecords = report relocatedRecords ∧
      List.Forall₂ Record.SameFinding imitatingRecords relocatedRecords := by
  intro report
  have imitating : ∀ record ∈ imitatingRecords,
      record.kind ∈ Kind.named ∧ '\n' ∉ record.callee.toList := by
    decide +kernel
  have relocated : ∀ record ∈ relocatedRecords,
      record.kind ∈ Kind.named ∧ '\n' ∉ record.callee.toList := by
    decide +kernel
  have fitsFirst : ∀ record ∈ imitatingRecords, record.FitsLines :=
    fun record member => ⟨(imitating record member).1, (imitating record member).2⟩
  have fitsSecond : ∀ record ∈ relocatedRecords, record.FitsLines :=
    fun record member => ⟨(relocated record member).1, (relocated record member).2⟩
  have same : report imitatingRecords = report relocatedRecords := by decide +kernel
  obtain ⟨feeds, told⟩ := text_report_is_unambiguous fitsFirst fitsSecond
  exact ⟨fitsFirst, fitsSecond, feeds, same, told.mp same⟩

end Sink
end Report
end CtorScan
