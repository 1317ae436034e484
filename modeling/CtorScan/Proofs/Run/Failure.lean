import CtorScan.Proofs.Constructor.Scan
import CtorScan.Proofs.Run.Independence

/-!
# Runs that cannot write everything

A run stops at the first record that its sink does not take.  What it leaves behind is
consistent: the records before that one were written and are counted, the functions up
to the one that holds it are counted and logged, and nothing says that the run ended
well.
-/

namespace CtorScan
namespace Run

/-! ## Stopping at a record -/

/-- The run has handed records to its sink, counted outcomes, and failed at a record. -/
structure Stopped
    (before after : Result)
    (outcomes : List (String × Outcome))
    (texts : List String)
    (record : Record)
    (reason : Report.WriteError) : Prop where
  /-- The error names the record. -/
  error : after.error = some (.write record.callee reason)
  /-- The functions, the records that were written and the changes are counted. -/
  summary : after.summary =
    { before.summary with
      functions := before.summary.functions + outcomes.length
      records := before.summary.records + texts.length
      changed := before.summary.changed || outcomes.any fun outcome => outcome.2.changed }
  /-- The texts are added to the report. -/
  written : after.events.filterMap Event.written? =
    before.events.filterMap Event.written? ++ texts
  /-- The log says in which functions something was found. -/
  logged : after.events.filterMap Event.logged? =
    before.events.filterMap Event.logged? ++ scannedLines outcomes

/-- Records that the sink takes are written before the others. -/
theorem writeRecords_append
    {result : Result}
    {first : List Record}
    {last : Report.Sink}
    {texts : List String}
    (taken : result.sink.writeAll? first = some (last, texts))
    (rest : List Record) :
    writeRecords result (first ++ rest) = writeRecords (writeRecords result first) rest := by
  induction first generalizing result texts with
  | nil => rfl
  | cons record others inductionHypothesis =>
      obtain ⟨next, piece, later, written, laterTaken, rfl⟩ :=
        Report.Sink.writeAll?_cons_eq_some taken
      simp only [List.cons_append, writeRecords, written]
      exact inductionHypothesis laterTaken

/-- Writing records stops at the first one that the sink does not take. -/
theorem writeRecords_of_refused
    {result : Result}
    {early late : List Record}
    {record : Record}
    {last broken : Report.Sink}
    {texts : List String}
    {reason : Report.WriteError}
    (taken : result.sink.writeAll? early = some (last, texts))
    (refused : last.write record = (broken, .error reason)) :
    writeRecords result (early ++ record :: late) =
      { result with
        sink := broken
        events := result.events ++ texts.map .written
        summary.records := result.summary.records + early.length
        error := some (.write record.callee reason) } := by
  rw [writeRecords_append taken, writeRecords_eq taken, writeRecords]
  simp only [refused]

/-- Writing an outcome with a record that the sink does not take. -/
theorem stopped_writeOutcome
    {result : Result}
    (function : String)
    {outcome : Outcome}
    {early late : List Record}
    {record : Record}
    {last broken : Report.Sink}
    {texts : List String}
    {reason : Report.WriteError}
    (parts : outcome.records = early ++ record :: late)
    (taken : result.sink.writeAll? early = some (last, texts))
    (refused : last.write record = (broken, .error reason)) :
    Stopped result (writeOutcome result function outcome) [(function, outcome)] texts record
      reason := by
  rw [writeOutcome_eq, parts, writeRecords_of_refused (by exact taken) refused]
  refine ⟨rfl, ?_, ?_, ?_⟩
  · simp [Report.Sink.length_of_writeAll? taken]
  · simp only [List.filterMap_append, written?_map_logged, written?_map_written, List.append_nil]
  · simp only [List.filterMap_append, logged?_map_logged, logged?_map_written, List.append_nil]

/-- A run that fails after it has written some outcomes. -/
theorem Wrote.stopped
    {first second third : Result}
    {early late : List (String × Outcome)}
    {before after : List String}
    {record : Record}
    {reason : Report.WriteError}
    (wrote : Wrote first second early before)
    (counted : before.length = (early.flatMap fun outcome => outcome.2.records).length)
    (stopped : Stopped second third late after record reason) :
    Stopped first third (early ++ late) (before ++ after) record reason where
  error := stopped.error
  summary := by
    rw [stopped.summary, wrote.summary]
    simp [counted, Nat.add_assoc, Bool.or_assoc]
  written := by
    rw [stopped.written, wrote.written, List.append_assoc]
  logged := by
    rw [stopped.logged, wrote.logged, scannedLines_append, List.append_assoc]

/-- Outcomes that the sink takes are written before the others. -/
theorem writeOutcomes_append
    {result : Result}
    {first : List (String × Outcome)}
    {last : Report.Sink}
    {texts : List String}
    (noError : result.error = none)
    (taken : result.sink.writeAll? (first.flatMap fun outcome => outcome.2.records) =
      some (last, texts))
    (rest : List (String × Outcome)) :
    writeOutcomes result (first ++ rest) = writeOutcomes (writeOutcomes result first) rest := by
  induction first generalizing result texts with
  | nil => rfl
  | cons outcome others inductionHypothesis =>
      obtain ⟨function, outcome⟩ := outcome
      rw [List.flatMap_cons] at taken
      obtain ⟨middle, before, after, firstTaken, restTaken, rfl⟩ :=
        Report.Sink.writeAll?_append_eq_some taken
      obtain ⟨rfl, wroteFirst⟩ := wrote_writeOutcome function noError firstTaken
      simp only [List.cons_append, writeOutcomes, wroteFirst.error]
      exact inductionHypothesis wroteFirst.error restTaken

/-- Writing outcomes up to a record that the sink does not take.  What comes after the
function of that record has no influence. -/
theorem stopped_writeOutcomes
    {result : Result}
    {before after : List (String × Outcome)}
    {function : String}
    {outcome : Outcome}
    {early late : List Record}
    {record : Record}
    {last broken : Report.Sink}
    {texts : List String}
    {reason : Report.WriteError}
    (noError : result.error = none)
    (parts : outcome.records = early ++ record :: late)
    (taken : result.sink.writeAll?
      ((before.flatMap fun outcome => outcome.2.records) ++ early) = some (last, texts))
    (refused : last.write record = (broken, .error reason)) :
    Stopped result (writeOutcomes result (before ++ (function, outcome) :: after))
      (before ++ [(function, outcome)]) texts record reason := by
  obtain ⟨middle, texted, others, beforeTaken, earlyTaken, rfl⟩ :=
    Report.Sink.writeAll?_append_eq_some taken
  obtain ⟨rfl, wrote⟩ := wrote_writeOutcomes result noError beforeTaken
  have stopped := stopped_writeOutcome function parts earlyTaken refused
  rw [writeOutcomes_append noError beforeTaken, writeOutcomes]
  simp only [stopped.error]
  exact wrote.stopped (Report.Sink.length_of_writeAll? beforeTaken) stopped

/-! ## Which record is not taken -/

/-- An element of a list made of parts is in one of the parts, and its index counts what
comes before it. -/
theorem exists_part_of_getElem?_flatMap
    {parts : α -> List β}
    {list : List α}
    {index : Nat}
    {element : β}
    (found : (list.flatMap parts)[index]? = some element) :
    ∃ before holder after early late, list = before ++ holder :: after ∧
      parts holder = early ++ element :: late ∧
      (before.flatMap parts ++ early).length = index := by
  induction list generalizing index with
  | nil => simp at found
  | cons first rest inductionHypothesis =>
      rw [List.flatMap_cons] at found
      by_cases inFirst : index < (parts first).length
      · rw [List.getElem?_append_left inFirst] at found
        obtain ⟨-, rfl⟩ := List.getElem?_eq_some_iff.mp found
        refine ⟨[], first, rest, (parts first).take index, (parts first).drop (index + 1), rfl,
          ?_, ?_⟩
        · rw [List.getElem_cons_drop, List.take_append_drop]
        · simp [Nat.le_of_lt inFirst]
      · rw [List.getElem?_append_right (Nat.le_of_not_lt inFirst)] at found
        obtain ⟨before, holder, after, early, late, rfl, held, counted⟩ := inductionHypothesis found
        refine ⟨first :: before, holder, after, early, late, rfl, held, ?_⟩
        rw [List.length_append] at counted
        simp only [List.flatMap_cons, List.length_append]
        omega

/-! ## Runs with a failing writer -/

/-- The run has counted functions and written records in a format. -/
structure Reported
    (order : Order)
    (pass : Function Nat -> Outcome)
    (format : Report.Format)
    (seen : List (Function Nat))
    (records : List Record)
    (result : Result) : Prop where
  /-- The functions, the records and the changes are counted. -/
  summary : result.summary =
    ⟨order.pass, seen.length, records.length, seen.any fun function => (pass function).changed⟩
  /-- The report consists of the encodings of the records. -/
  written : result.events.filterMap Event.written? = records.map format.encoding

/-- The outcomes of a pass on functions, with the names of the functions. -/
def namedOutcomes
    (pass : Function Nat -> Outcome)
    (functions : List (Function Nat)) : List (String × Outcome) :=
  functions.map fun function => (function.name, pass function)

theorem flatMap_namedOutcomes
    (pass : Function Nat -> Outcome)
    (functions : List (Function Nat)) :
    ((namedOutcomes pass functions).flatMap fun outcome => outcome.2.records) =
      functions.flatMap fun function => (pass function).records := by
  rw [namedOutcomes, List.flatMap_map]

theorem any_namedOutcomes
    (pass : Function Nat -> Outcome)
    (functions : List (Function Nat)) :
    ((namedOutcomes pass functions).any fun outcome => outcome.2.changed) =
      functions.any fun function => (pass function).changed := by
  rw [namedOutcomes, List.any_map]
  rfl

/-- The run has counted functions, written records, and stopped at a further record that
could not be written. -/
structure Halted
    (order : Order)
    (pass : Function Nat -> Outcome)
    (format : Report.Format)
    (seen : List (Function Nat))
    (records : List Record)
    (record : Record)
    (failure : String)
    (result : Result) : Prop extends Reported order pass format seen records result where
  /-- The error names the record and has the words of the writer. -/
  error : result.error.map Error.message =
    some ("write record for " ++ record.callee ++ ": " ++ failure)
  /-- The log says in which of the functions something was found, and nothing else. -/
  logged : result.events.filterMap Event.logged? = scannedLines (namedOutcomes pass seen)
  /-- No line of the log is a warning or says that the pass has finished. -/
  unfinished : ∀ line, .logged line ∈ result.events ->
    line.level ≠ .warn ∧ line.message ≠ "pass finished"

theorem not_last_of_mem_scannedLines
    {outcomes : List (String × Outcome)}
    {line : Log.Line}
    (member : line ∈ scannedLines outcomes) :
    line.level ≠ .warn ∧ line.message ≠ "pass finished" := by
  obtain ⟨outcome, -, rfl⟩ := List.mem_map.mp member
  exact ⟨by simp [scannedLine], by simp [scannedLine]⟩

namespace Order

/-- The run of the order with another sink, without tasks. -/
def runInto
    (order : Order)
    (sink : Report.Sink) : Result :=
  run order.registry order.pass order.marker false sink order.program

theorem runInto_eq
    (order : Order)
    (sink : Report.Sink)
    {entry : Pass.Registered}
    (registered : order.registry.lookup order.pass = .ok entry) :
    order.runInto sink =
      finish entry.mutates order.program.name
        (writeOutcomes ⟨{ Summary.zero with pass := order.pass }, [], sink, none⟩
          (namedOutcomes (order.apply entry) order.bodies)) := by
  simp only [runInto, run, registered]
  rfl

/-- A run that nobody cancels ends like the run without tasks. -/
theorem Yields.eq_runInto
    {order : Order}
    {processors : Nat}
    {entry : Pass.Registered}
    {schedule : List Actor}
    {result : Result}
    (registered : order.registry.lookup order.pass = .ok entry)
    (yields : order.Yields processors false schedule result)
    (withoutCaller : .caller ∉ schedule) :
    result = order.runInto order.sink := by
  obtain ⟨last, followed, done, rfl⟩ := yields.exists_moment registered
  have consistent := Plan.consistent_of_follow? followed
  have succeeded : last.failed = false := by
    by_contra failed
    have canceled := (consistent.failure (by simpa using failed)).1
    rw [Plan.not_canceled_of_follow? followed withoutCaller] at canceled
    contradiction
  exact order.resultAt_eq_run registered consistent done succeeded

/-- A run into a sink that takes all records. -/
theorem reported_of_taken
    (order : Order)
    {sink last : Report.Sink}
    {entry : Pass.Registered}
    {format : Report.Format}
    {records : List Record}
    (registered : order.registry.lookup order.pass = .ok entry)
    (found : (order.bodies.flatMap fun function => (order.apply entry function).records) =
      records)
    (taken : sink.writeAll? records = some (last, records.map format.encoding)) :
    (order.runInto sink).error = none ∧
      Reported order (order.apply entry) format order.bodies records
        (order.runInto sink) := by
  rw [order.runInto_eq sink registered]
  rw [← found, ← flatMap_namedOutcomes] at taken
  obtain ⟨-, wrote⟩ := wrote_writeOutcomes
    ⟨{ Summary.zero with pass := order.pass }, [], sink, none⟩ rfl taken
  obtain ⟨noError, -, sameSummary, sameWritten⟩ :=
    finish_of_no_error entry.mutates order.program.name wrote.error
  refine ⟨noError, ?_, ?_⟩
  · rw [sameSummary, wrote.summary, flatMap_namedOutcomes, any_namedOutcomes, found]
    simp [Summary.zero, namedOutcomes]
  · rw [sameWritten, wrote.written, flatMap_namedOutcomes, found]
    rfl

/-- A run into a sink that takes the records before one of them and not that one. -/
theorem stopped_of_refused
    (order : Order)
    {sink last broken : Report.Sink}
    {entry : Pass.Registered}
    {before after : List (Function Nat)}
    {function : Function Nat}
    {early late : List Record}
    {record : Record}
    {texts : List String}
    {reason : Report.WriteError}
    (registered : order.registry.lookup order.pass = .ok entry)
    (bodies : order.bodies = before ++ function :: after)
    (parts : (order.apply entry function).records = early ++ record :: late)
    (taken : sink.writeAll?
      ((before.flatMap fun function => (order.apply entry function).records) ++ early) =
        some (last, texts))
    (refused : last.write record = (broken, .error reason)) :
    Stopped ⟨{ Summary.zero with pass := order.pass }, [], sink, none⟩ (order.runInto sink)
      (namedOutcomes (order.apply entry) (before ++ [function])) texts record reason := by
  let pass := order.apply entry
  let first : Result := ⟨{ Summary.zero with pass := order.pass }, [], sink, none⟩
  have seen : namedOutcomes pass (before ++ [function]) =
      namedOutcomes pass before ++ [(function.name, pass function)] := by
    simp [namedOutcomes]
  have all : namedOutcomes pass order.bodies =
      namedOutcomes pass before ++ (function.name, pass function) :: namedOutcomes pass after := by
    simp [bodies, namedOutcomes]
  have stopped : Stopped first (writeOutcomes first (namedOutcomes pass order.bodies))
      (namedOutcomes pass (before ++ [function])) texts record reason := by
    rw [all, seen]
    refine stopped_writeOutcomes rfl parts ?_ refused
    rw [flatMap_namedOutcomes]
    exact taken
  -- A run that has failed is left as it is.
  have ended : order.runInto sink = writeOutcomes first (namedOutcomes pass order.bodies) := by
    rw [order.runInto_eq sink registered]
    simp only [finish, first, pass] at stopped ⊢
    rw [stopped.error]
  rw [ended]
  exact stopped

/-- What can be seen of such a run if it was the writer that failed. -/
theorem halted_of_refused
    (order : Order)
    {sink last broken : Report.Sink}
    {entry : Pass.Registered}
    {format : Report.Format}
    {before after : List (Function Nat)}
    {function : Function Nat}
    {early late records : List Record}
    {record : Record}
    {failure : String}
    (registered : order.registry.lookup order.pass = .ok entry)
    (bodies : order.bodies = before ++ function :: after)
    (parts : (order.apply entry function).records = early ++ record :: late)
    (found : (before.flatMap fun function => (order.apply entry function).records) ++ early =
      records)
    (taken : sink.writeAll? records = some (last, records.map format.encoding))
    (refused : last.write record = (broken, .error (.refused failure))) :
    Halted order (order.apply entry) format (before ++ [function]) records record failure
      (order.runInto sink) := by
  subst found
  have stopped := order.stopped_of_refused registered bodies parts taken refused
  refine ⟨⟨?_, ?_⟩, ?_, ?_, ?_⟩
  · rw [stopped.summary, any_namedOutcomes]
    simp [Summary.zero, namedOutcomes]
  · rw [stopped.written]
    rfl
  · rw [stopped.error]
    rfl
  · rw [stopped.logged]
    rfl
  · intro line member
    have among : line ∈ (order.runInto sink).events.filterMap Event.logged? :=
      List.mem_filterMap.mpr ⟨_, member, rfl⟩
    rw [stopped.logged] at among
    exact not_last_of_mem_scannedLines among

end Order

/-- A failing writer leaves a consistent prefix of the run with a reliable one, under
every schedule.  If it takes as many writes as there are records, the run succeeds and
writes all of them.  Otherwise the run stops at the first record without a write: the
records before it are written and counted, the functions up to the one that holds it are
counted and logged with what the pass says about changes, the error has the words of the
writer, and the log has no line that ends a run. -/
theorem failing_writer_stops_consistently
    (order : Order)
    {processors : Nat}
    {entry : Pass.Registered}
    {format : Report.Format}
    {writes : Nat}
    {failure : String}
    (machine : 0 < processors)
    (registered : order.registry.lookup order.pass = .ok entry)
    (valid : ∀ function ∈ order.bodies, ∀ record ∈ (order.apply entry function).records,
      record.kind ∈ Kind.named)
    (failing : order.sink = .ofFormat (.failingFrom writes failure) format) :
    let pass := order.apply entry
    let records := order.bodies.flatMap fun function => (pass function).records
    let unfailing := order.runInto (.ofFormat .reliable format)
    (unfailing.error = none ∧ Reported order pass format order.bodies records unfailing) ∧
      (order.plan processors entry).Ends false ∧
      ∀ {schedule : List Actor} {result : Result},
        order.Yields processors false schedule result -> .caller ∉ schedule ->
        (records.length ≤ writes ->
          result.error = none ∧ Reported order pass format order.bodies records result) ∧
          ∀ {record : Record}, records[writes]? = some record ->
            ∃ before function after early late,
              order.bodies = before ++ function :: after ∧
              (pass function).records = early ++ record :: late ∧
              records.take writes =
                (before.flatMap fun function => (pass function).records) ++ early ∧
              result.summary.records = writes ∧
              Halted order pass format (before ++ [function]) (records.take writes) record failure
                result := by
  intro pass records unfailing
  have validRecords : ∀ record ∈ records, record.kind ∈ Kind.named := by
    intro record member
    obtain ⟨function, among, found⟩ := List.mem_flatMap.mp member
    exact valid function among record found
  refine ⟨?_, Plan.ends _ _ (order.limit_pos machine entry), ?_⟩
  · exact order.reported_of_taken registered rfl (Report.Sink.writeAll?_ofFormat format
      (Report.Writer.acceptAll?_reliable _) validRecords)
  intro schedule result yields withoutCaller
  rw [yields.eq_runInto registered withoutCaller, failing]
  constructor
  · intro enough
    exact order.reported_of_taken registered rfl (Report.Sink.writeAll?_ofFormat format
      (Report.Writer.acceptAll?_failingFrom enough failure) validRecords)
  · intro record found
    obtain ⟨before, function, after, early, late, bodies, parts, counted⟩ :=
      exists_part_of_getElem?_flatMap found
    have split : records =
        ((before.flatMap fun function => (pass function).records) ++ early) ++
          (record :: (late ++ after.flatMap fun function => (pass function).records)) := by
      simp only [records, bodies, List.flatMap_append, List.flatMap_cons, parts]
      simp
    have taken : records.take writes =
        (before.flatMap fun function => (pass function).records) ++ early := by
      rw [split, ← counted, List.take_left]
    have count : (records.take writes).length = writes := by rw [taken, counted]
    have accepted := Report.Writer.acceptAll?_failingFrom (Nat.le_of_eq count) failure
    have validTaken : ∀ record ∈ records.take writes, record.kind ∈ Kind.named :=
      fun record member => validRecords record (List.mem_of_mem_take member)
    have exhausted : (Report.Writer.failingFrom (writes - (records.take writes).length)
        failure).accept? = none := by
      rw [count, Nat.sub_self]
      rfl
    obtain ⟨broken, refused⟩ := Report.Sink.write_ofFormat_of_refused format exhausted
      (validRecords record (List.mem_of_getElem? found))
    have halted := order.halted_of_refused registered bodies parts taken.symm
      (Report.Sink.writeAll?_ofFormat format accepted validTaken) refused
    refine ⟨before, function, after, early, late, bodies, parts, taken, ?_, halted⟩
    rw [halted.summary]
    exact count

/-- The order of the sample with a writer of two writes. -/
def sampleFailingOrder (format : Report.Format) : Order :=
  { sampleOrder with sink := .ofFormat (.failingFrom 2 "disk full") format }

/-- What is written of the sample in two writes. -/
def sampleWritten : Report.Format -> List String
  | .text =>
      ["Implicit constructor detected: AC1\nType: Default Constructor\n",
        "Implicit constructor detected: BC1\nType: Copy Constructor\n"]
  | .json =>
      ["\x7b\"caller\":\"main\",\"callee\":\"AC1\",\"kind\":\"default\"\x7d\n",
        "\x7b\"caller\":\"main\",\"callee\":\"BC1\",\"kind\":\"copy\"\x7d\n"]

theorem failing_writer_stops_consistently_sample :
    0 < 2 ∧ .caller ∉ sampleSchedule ∧ ∀ format,
      let order := sampleFailingOrder format
      order.registry.lookup order.pass = .ok sampleEntry ∧
      (∀ function ∈ order.bodies, ∀ record ∈ (order.apply sampleEntry function).records,
        record.kind ∈ Kind.named) ∧
      order.sink = .ofFormat (.failingFrom 2 "disk full") format ∧
      ∃ result, order.Yields 2 false sampleSchedule result ∧
        result.summary.records = 2 ∧
        result.events.filterMap Event.written? = sampleWritten format ∧
        result.error.map Error.message = some "write record for AC1: disk full" := by
  have withoutCaller : .caller ∉ sampleSchedule := by decide
  refine ⟨by decide, withoutCaller, fun format => ?_⟩
  intro order
  have registered : order.registry.lookup order.pass = .ok sampleEntry := rfl
  have valid : ∀ function ∈ order.bodies,
      ∀ record ∈ (order.apply sampleEntry function).records, record.kind ∈ Kind.named :=
    fun _ _ _ found => Marker.kind_mem_named_of_mem_scan found
  let plan := order.plan 2 sampleEntry
  have finished : (plan.follow? (plan.initial false) sampleSchedule).map plan.isDone =
      some true := by
    cases format <;> decide +kernel
  obtain ⟨moment, followed, done⟩ := Option.map_eq_some_iff.mp finished
  have yields := Order.Yields.finished registered followed done
  have records : (order.bodies.flatMap fun function =>
      (order.apply sampleEntry function).records) = sampleRecords := by
    cases format <;> decide +kernel
  have third : (order.bodies.flatMap fun function =>
      (order.apply sampleEntry function).records)[2]? =
        some ⟨"BC1", "AC1", .default, 30⟩ := by
    rw [records]
    rfl
  obtain ⟨before, function, after, early, late, -, -, -, counted, halted⟩ :=
    ((failing_writer_stops_consistently order (by decide) registered valid rfl).2.2 yields
      withoutCaller).2 third
  rw [records] at halted
  refine ⟨registered, valid, rfl, _, yields, counted, ?_, ?_⟩
  · rw [halted.written]
    cases format <;> decide +kernel
  · rw [halted.error]
    rfl

end Run
end CtorScan
