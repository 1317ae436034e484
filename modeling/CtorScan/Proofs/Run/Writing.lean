import CtorScan.Proofs.Report.Sink
import CtorScan.Run.Basic

/-!
# What a run writes

A sink that takes the records of all outcomes one after the other makes a run
succeed.  The run then hands it exactly these records in this order, and the
summary counts them.  The log names the functions in which something was found.
-/

namespace CtorScan

/-- The piece of the report in an event, if it is one. -/
def Event.written? : Event -> Option String
  | written text => some text
  | logged _ => none

@[simp] theorem Event.written?_written (text : String) :
    (Event.written text).written? = some text := rfl

@[simp] theorem Event.written?_logged (line : Log.Line) :
    (Event.logged line).written? = none := rfl

/-- The line of the log in an event, if it is one. -/
def Event.logged? : Event -> Option Log.Line
  | written _ => none
  | logged line => some line

@[simp] theorem Event.logged?_written (text : String) :
    (Event.written text).logged? = none := rfl

@[simp] theorem Event.logged?_logged (line : Log.Line) :
    (Event.logged line).logged? = some line := rfl

namespace Run

/-! ## Report and log -/

theorem written?_map_written (texts : List String) :
    (texts.map Event.written).filterMap Event.written? = texts := by
  rw [List.filterMap_map]
  exact List.filterMap_some

theorem written?_map_logged (lines : List Log.Line) :
    (lines.map Event.logged).filterMap Event.written? = [] := by
  rw [List.filterMap_map, List.filterMap_eq_nil_iff]
  intro line _
  rfl

theorem logged?_map_written (texts : List String) :
    (texts.map Event.written).filterMap Event.logged? = [] := by
  rw [List.filterMap_map, List.filterMap_eq_nil_iff]
  intro text _
  rfl

theorem logged?_map_logged (lines : List Log.Line) :
    (lines.map Event.logged).filterMap Event.logged? = lines := by
  rw [List.filterMap_map]
  exact List.filterMap_some

/-- The lines of the log about functions in which something was found. -/
def scannedLines (outcomes : List (String × Outcome)) : List Log.Line :=
  (outcomes.filter fun outcome => !outcome.2.records.isEmpty).map fun outcome =>
    scannedLine outcome.1 outcome.2.records.length

theorem scannedLines_append (early late : List (String × Outcome)) :
    scannedLines (early ++ late) = scannedLines early ++ scannedLines late := by
  simp [scannedLines]

/-- Records are written after the function was counted and logged. -/
theorem writeOutcome_eq
    (result : Result)
    (function : String)
    (outcome : Outcome) :
    writeOutcome result function outcome =
      writeRecords
        { result with
          summary.functions := result.summary.functions + 1
          summary.changed := result.summary.changed || outcome.changed
          events := result.events ++ (scannedLines [(function, outcome)]).map .logged }
        outcome.records := by
  unfold writeOutcome
  split
  · rename_i nothing
    simp [scannedLines, nothing]
  · rename_i something
    simp [scannedLines, something]

/-! ## Records that the sink takes -/

/-- The run has handed records to its sink, counted outcomes, and not failed. -/
structure Wrote
    (before after : Result)
    (outcomes : List (String × Outcome))
    (texts : List String) : Prop where
  /-- Nothing went wrong. -/
  error : after.error = none
  /-- The functions, their records and their changes are counted. -/
  summary : after.summary =
    { before.summary with
      functions := before.summary.functions + outcomes.length
      records :=
        before.summary.records + (outcomes.flatMap fun outcome => outcome.2.records).length
      changed := before.summary.changed || outcomes.any fun outcome => outcome.2.changed }
  /-- The texts are added to the report. -/
  written : after.events.filterMap Event.written? =
    before.events.filterMap Event.written? ++ texts
  /-- The log says in which functions something was found. -/
  logged : after.events.filterMap Event.logged? =
    before.events.filterMap Event.logged? ++ scannedLines outcomes

/-- Writing records that the sink takes adds their texts and their number. -/
theorem writeRecords_eq
    {result : Result}
    {records : List Record}
    {last : Report.Sink}
    {texts : List String}
    (taken : result.sink.writeAll? records = some (last, texts)) :
    writeRecords result records =
      { result with
        sink := last
        events := result.events ++ texts.map .written
        summary.records := result.summary.records + records.length } := by
  induction records generalizing result texts with
  | nil =>
      obtain ⟨rfl, rfl⟩ := Prod.mk.inj (Option.some.inj taken)
      simp [writeRecords]
  | cons record rest inductionHypothesis =>
      obtain ⟨next, piece, others, written, later, rfl⟩ :=
        Report.Sink.writeAll?_cons_eq_some taken
      rw [writeRecords, written]
      simp only
      rw [inductionHypothesis later]
      simp [Nat.add_assoc, Nat.add_comm 1]

/-- Writing an outcome whose records the sink takes. -/
theorem wrote_writeOutcome
    {result : Result}
    (function : String)
    {outcome : Outcome}
    {last : Report.Sink}
    {texts : List String}
    (noError : result.error = none)
    (taken : result.sink.writeAll? outcome.records = some (last, texts)) :
    (writeOutcome result function outcome).sink = last ∧
      Wrote result (writeOutcome result function outcome) [(function, outcome)] texts := by
  rw [writeOutcome_eq, writeRecords_eq (by exact taken)]
  refine ⟨rfl, noError, by simp, ?_, ?_⟩
  · simp only [List.filterMap_append, written?_map_logged, written?_map_written, List.append_nil]
  · simp only [List.filterMap_append, logged?_map_logged, logged?_map_written, List.append_nil]

theorem Wrote.trans
    {first second third : Result}
    {early late : List (String × Outcome)}
    {before after : List String}
    (firstPart : Wrote first second early before)
    (secondPart : Wrote second third late after) :
    Wrote first third (early ++ late) (before ++ after) where
  error := secondPart.error
  summary := by
    rw [secondPart.summary, firstPart.summary]
    simp [Nat.add_assoc, Bool.or_assoc]
  written := by
    rw [secondPart.written, firstPart.written, List.append_assoc]
  logged := by
    rw [secondPart.logged, firstPart.logged, scannedLines_append, List.append_assoc]

/-- Writing outcomes whose records the sink takes in order. -/
theorem wrote_writeOutcomes
    (result : Result)
    {outcomes : List (String × Outcome)}
    {last : Report.Sink}
    {texts : List String}
    (noError : result.error = none)
    (taken : result.sink.writeAll? (outcomes.flatMap fun outcome => outcome.2.records) =
      some (last, texts)) :
    (writeOutcomes result outcomes).sink = last ∧
      Wrote result (writeOutcomes result outcomes) outcomes texts := by
  induction outcomes generalizing result texts with
  | nil =>
      obtain ⟨rfl, rfl⟩ := Prod.mk.inj (Option.some.inj taken)
      rw [writeOutcomes]
      exact ⟨rfl, noError, by simp, by simp, by simp [scannedLines]⟩
  | cons outcome rest inductionHypothesis =>
      obtain ⟨function, outcome⟩ := outcome
      rw [List.flatMap_cons] at taken
      obtain ⟨middle, before, after, firstTaken, restTaken, rfl⟩ :=
        Report.Sink.writeAll?_append_eq_some taken
      obtain ⟨rfl, wroteFirst⟩ := wrote_writeOutcome function noError firstTaken
      obtain ⟨lastSink, wroteRest⟩ := inductionHypothesis _ wroteFirst.error restTaken
      have unfolded : writeOutcomes result ((function, outcome) :: rest) =
          writeOutcomes (writeOutcome result function outcome) rest := by
        simp only [writeOutcomes, wroteFirst.error]
      rw [unfolded]
      exact ⟨lastSink, wroteFirst.trans wroteRest⟩

/-- Ending a run that did not fail only adds to its log. -/
theorem finish_of_no_error
    {result : Result}
    (mutates : Bool)
    (program : String)
    (noError : result.error = none) :
    (finish mutates program result).error = none ∧
      (finish mutates program result).sink = result.sink ∧
      (finish mutates program result).summary = result.summary ∧
      (finish mutates program result).events.filterMap Event.written? =
        result.events.filterMap Event.written? := by
  rw [finish, noError]
  refine ⟨rfl, rfl, rfl, ?_⟩
  simp only
  rw [List.filterMap_append, written?_map_logged, List.append_nil]

end Run
end CtorScan
