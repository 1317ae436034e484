import CtorScan.Proofs.Report.Decoding
import CtorScan.Proofs.Report.Lines
import CtorScan.Proofs.Run.Failure

/-!
# Nothing is lost in a stream of JSON lines

A run that finds constructor calls and writes them as JSON comes to its end unless the
writer gives out or somebody cancels it.  Its report then has one line for each record of
the program, and the line, read as JSON, tells the caller, the callee and the kind of that
record.  So the report determines all these.
-/

namespace CtorScan

/-! ## Lines and records -/

/-- What a report tells about a record. -/
def Record.content (record : Record) : String × String × Kind :=
  (record.caller, record.callee, record.kind)

theorem Kind.eq_of_shortName_eq
    {first second : Kind}
    (validFirst : first ∈ named)
    (validSecond : second ∈ named)
    (same : first.shortName = second.shortName) :
    first = second := by
  have distinct : ∀ first ∈ named, ∀ second ∈ named,
      first.shortName = second.shortName -> first = second := by
    decide
  exact distinct first validFirst second validSecond same

namespace Report
namespace Json

/-- A text without line feeds that tells a record: read as JSON it is an object with the
caller, unless that is empty, the callee and the name of the kind. -/
structure Tells
    (text : String)
    (record : Record) : Prop where
  /-- The text is on one line. -/
  oneLine : '\n' ∉ text.toList
  /-- The kind has a name. -/
  named : record.kind ∈ Kind.named
  /-- The text is an object with these members. -/
  decoded : decode? text =
    some (.object
      ((if record.caller = "" then [] else [("caller", .text record.caller)]) ++
        [("callee", .text record.callee), ("kind", .text record.kind.shortName)]))

theorem tells_body
    {record : Record}
    (named : record.kind ∈ Kind.named) :
    Tells (body record record.kind.shortName) record where
  oneLine := feed_notMem_body record _
  named := named
  decoded := by
    rw [decode?_body, members]
    split <;> rfl

/-- A text tells at most one content. -/
theorem Tells.content_eq
    {text : String}
    {first second : Record}
    (tellsFirst : Tells text first)
    (tellsSecond : Tells text second) :
    first.content = second.content := by
  have same := tellsFirst.decoded.symm.trans tellsSecond.decoded
  have kinds := Kind.eq_of_shortName_eq tellsFirst.named tellsSecond.named
  by_cases emptyFirst : first.caller = "" <;> by_cases emptySecond : second.caller = "" <;>
    simp_all [Record.content]

/-- Lines, each ended by one line feed. -/
def stream (lines : List String) : String :=
  String.join (lines.map (· ++ "\n"))

/-- A stream determines the lines in it. -/
theorem eq_of_stream_eq
    {first second : List String}
    (inFirst : ∀ line ∈ first, '\n' ∉ line.toList)
    (inSecond : ∀ line ∈ second, '\n' ∉ line.toList)
    (same : stream first = stream second) :
    first = second := by
  induction first generalizing second with
  | nil =>
      cases second with
      | nil => rfl
      | cons line second => simpa [stream, String.join_cons] using congrArg String.toList same
  | cons line first inductionHypothesis =>
      cases second with
      | nil => simpa [stream, String.join_cons] using congrArg String.toList same
      | cons other second =>
          obtain ⟨notLine, notFirst⟩ := List.forall_mem_cons.mp inFirst
          obtain ⟨notOther, notSecond⟩ := List.forall_mem_cons.mp inSecond
          have characters : line.toList ++ '\n' :: (stream first).toList =
              other.toList ++ '\n' :: (stream second).toList := by
            simpa [stream, String.join_cons] using congrArg String.toList same
          obtain ⟨sameLine, sameRest⟩ := eq_of_append_feed_eq notLine notOther characters
          rw [String.toList_inj.mp sameLine,
            inductionHypothesis notFirst notSecond (String.toList_inj.mp sameRest)]

theorem oneLine_of_tells
    {lines : List String}
    {records : List Record}
    (tells : List.Forall₂ Tells lines records) :
    ∀ line ∈ lines, '\n' ∉ line.toList := by
  induction tells with
  | nil => simp
  | cons tellsFirst _ inductionHypothesis =>
      exact List.forall_mem_cons.mpr ⟨tellsFirst.oneLine, inductionHypothesis⟩

theorem content_eq_of_tells
    {lines : List String}
    {first second : List Record}
    (tellsFirst : List.Forall₂ Tells lines first)
    (tellsSecond : List.Forall₂ Tells lines second) :
    first.map Record.content = second.map Record.content := by
  induction tellsFirst generalizing second with
  | nil =>
      cases tellsSecond
      rfl
  | cons tells _ inductionHypothesis =>
      cases tellsSecond with
      | cons tellsOther tellsLater =>
          rw [List.map_cons, List.map_cons, tells.content_eq tellsOther,
            inductionHypothesis tellsLater]

/-- A stream whose lines tell records determines the contents of the records. -/
theorem content_eq_of_stream_eq
    {first second : List String}
    {firstRecords secondRecords : List Record}
    (tellsFirst : List.Forall₂ Tells first firstRecords)
    (tellsSecond : List.Forall₂ Tells second secondRecords)
    (same : stream first = stream second) :
    firstRecords.map Record.content = secondRecords.map Record.content := by
  obtain rfl := eq_of_stream_eq (oneLine_of_tells tellsFirst) (oneLine_of_tells tellsSecond) same
  exact content_eq_of_tells tellsFirst tellsSecond

/-- The lines for records whose kinds have names tell the records. -/
theorem exists_lines_tell
    {records : List Record}
    (named : ∀ record ∈ records, record.kind ∈ Kind.named) :
    ∃ lines, String.join (records.map Format.json.encoding) = stream lines ∧
      List.Forall₂ Tells lines records := by
  refine ⟨records.map fun record => body record record.kind.shortName, ?_, ?_⟩
  · simp only [stream, List.map_map]
    congr 1
    apply List.map_congr_left
    intro record member
    rw [Format.encoding_json (named record member)]
    exact line_eq record _
  · rw [List.forall₂_map_left_iff]
    exact List.forall₂_same.mpr fun record member => tells_body (named record member)

end Json

namespace Writer

theorem failure_of_accept?
    {writer next : Writer}
    (accepted : writer.accept? = some next) :
    next.failure = writer.failure := by
  unfold accept? at accepted
  split at accepted
  · obtain rfl := Option.some.inj accepted
    rfl
  · contradiction
  · obtain rfl := Option.some.inj accepted
    rfl

/-- A writer takes a number of writes, or there is a first one among them that it does not
take. -/
theorem acceptAll?_or_refused
    (writer : Writer)
    (count : Nat) :
    (∃ last, writer.acceptAll? count = some last) ∨
      ∃ early < count, ∃ last, writer.acceptAll? early = some last ∧ last.accept? = none ∧
        last.failure = writer.failure := by
  induction count generalizing writer with
  | zero => exact Or.inl ⟨writer, rfl⟩
  | succ count inductionHypothesis =>
      cases accepted : writer.accept? with
      | none => exact Or.inr ⟨0, Nat.succ_pos count, writer, rfl, accepted, rfl⟩
      | some next =>
          have sameFailure := failure_of_accept? accepted
          simp only [acceptAll?, accepted, Option.bind_some]
          rcases inductionHypothesis next with taken |
            ⟨early, small, last, taken, refused, sameWords⟩
          · exact Or.inl taken
          · refine Or.inr ⟨early + 1, by omega, last, ?_, refused, sameWords.trans sameFailure⟩
            simp only [acceptAll?, accepted, Option.bind_some, taken]

end Writer
end Report

namespace Marker

/-- A function without a body has no constructor calls, so only the others count. -/
theorem scanProgram_eq
    (marker : String)
    (program : Program) :
    scanProgram marker program =
      (program.functions.filter fun function => !function.isDeclaration).flatMap
        fun function => scan marker (some (function.mapCallee program.signature?)) := by
  unfold scanProgram
  rw [Program.resolved, List.flatMap_map]
  induction program.functions with
  | nil => rfl
  | cons function rest inductionHypothesis =>
      rw [List.flatMap_cons, inductionHypothesis, List.filter_cons]
      cases declared : function.isDeclaration with
      | false => simp
      | true =>
          have noBlocks : function.blocks = [] := List.isEmpty_iff.mp declared
          simp [scan, Function.instructions, Function.mapCallee, noBlocks]

theorem kind_mem_named_of_mem_scanProgram
    {marker : String}
    {program : Program}
    {record : Record}
    (member : record ∈ scanProgram marker program) :
    record.kind ∈ Kind.named := by
  obtain ⟨function, -, found⟩ := List.mem_flatMap.mp member
  exact kind_mem_named_of_mem_scan found

end Marker

namespace Run

/-- The report of a run. -/
def Result.report (result : Result) : String :=
  String.join (result.events.map Event.report)

theorem Result.report_eq (result : Result) :
    result.report = String.join (result.events.filterMap Event.written?) := by
  unfold report
  induction result.events with
  | nil => rfl
  | cons event rest inductionHypothesis =>
      cases event with
      | written text => simp [String.join_cons, inductionHypothesis, Event.report]
      | logged line =>
          rw [List.filterMap_cons_none (Event.written?_logged line), ← inductionHypothesis]
          simp [String.join_cons, Event.report]

namespace Order

/-- A run of a registered pass is cancelled or ends like the run without tasks. -/
theorem Yields.eq_runInto_or_canceled
    {order : Order}
    {processors : Nat}
    {canceled : Bool}
    {entry : Pass.Registered}
    {schedule : List Actor}
    {result : Result}
    (registered : order.registry.lookup order.pass = .ok entry)
    (yields : order.Yields processors canceled schedule result) :
    result = order.runInto order.sink ∨ result.error = some (.canceled order.pass) := by
  obtain ⟨last, followed, done, rfl⟩ := yields.exists_moment registered
  cases failed : last.failed with
  | false =>
      exact Or.inl (order.resultAt_eq_run registered (Plan.consistent_of_follow? followed) done
        failed)
  | true =>
      refine Or.inr ?_
      rw [resultAt, if_pos failed]

/-- A run into a sink for a format writes all records, or stops because the writer fails. -/
theorem reported_or_refused
    (order : Order)
    {entry : Pass.Registered}
    (writer : Report.Writer)
    (format : Report.Format)
    (registered : order.registry.lookup order.pass = .ok entry)
    (valid : ∀ function ∈ order.bodies, ∀ record ∈ (order.apply entry function).records,
      record.kind ∈ Kind.named) :
    ((order.runInto (.ofFormat writer format)).error = none ∧
      Reported order (order.apply entry) format order.bodies
        (order.bodies.flatMap fun function => (order.apply entry function).records)
        (order.runInto (.ofFormat writer format))) ∨
    ∃ callee, (order.runInto (.ofFormat writer format)).error =
      some (.write callee (.refused writer.failure)) := by
  let pass := order.apply entry
  let records := order.bodies.flatMap fun function => (pass function).records
  have validRecords : ∀ record ∈ records, record.kind ∈ Kind.named := by
    intro record member
    obtain ⟨function, among, found⟩ := List.mem_flatMap.mp member
    exact valid function among record found
  rcases writer.acceptAll?_or_refused records.length with
    ⟨last, accepted⟩ | ⟨count, small, last, accepted, exhausted, sameWords⟩
  · exact Or.inl (order.reported_of_taken registered rfl
      (Report.Sink.writeAll?_ofFormat format accepted validRecords))
  · obtain ⟨record, found⟩ : ∃ record, records[count]? = some record :=
      ⟨_, List.getElem?_eq_getElem small⟩
    obtain ⟨before, function, after, early, late, bodies, parts, counted⟩ :=
      exists_part_of_getElem?_flatMap found
    have split : records =
        ((before.flatMap fun function => (pass function).records) ++ early) ++
          (record :: (late ++ after.flatMap fun function => (pass function).records)) := by
      simp only [records, bodies, List.flatMap_append, List.flatMap_cons, parts]
      simp
    have taken := Report.Sink.writeAll?_ofFormat format (counted ▸ accepted) fun other member =>
      validRecords other (split ▸ List.mem_append_left _ member)
    obtain ⟨broken, refused⟩ := Report.Sink.write_ofFormat_of_refused format exhausted
      (validRecords record (List.mem_of_getElem? found))
    have stopped := order.stopped_of_refused registered bodies parts taken refused
    exact Or.inr ⟨record.callee, sameWords ▸ stopped.error⟩

end Order

/-! ## Runs that find constructor calls -/

/-- The order is for constructor calls as JSON lines. -/
structure Order.StreamsCalls
    (order : Order)
    (entry : Pass.Registered)
    (writer : Report.Writer) : Prop where
  /-- The pass is registered. -/
  registered : order.registry.lookup order.pass = .ok entry
  /-- It is the pass that finds constructor calls. -/
  findsCalls : Pass.constructorCallsEntry.build? = some entry.build
  /-- The sink is a new one for JSON. -/
  sink : order.sink = .ofFormat writer .json

namespace Order.StreamsCalls

theorem records_eq
    {order : Order}
    {entry : Pass.Registered}
    {writer : Report.Writer}
    (streams : order.StreamsCalls entry writer) :
    (order.bodies.flatMap fun function => (order.apply entry function).records) =
      Marker.scanProgram order.marker order.program := by
  unfold apply
  rw [← Option.some.inj streams.findsCalls, Marker.scanProgram_eq]
  rfl

theorem valid
    {order : Order}
    {entry : Pass.Registered}
    {writer : Report.Writer}
    (streams : order.StreamsCalls entry writer) :
    ∀ function ∈ order.bodies, ∀ record ∈ (order.apply entry function).records,
      record.kind ∈ Kind.named := by
  intro function _ record member
  rw [apply, ← Option.some.inj streams.findsCalls] at member
  exact Marker.kind_mem_named_of_mem_scan member

/-- A run that came to its end has written a line for each constructor call. -/
theorem report_of_completed
    {order : Order}
    {entry : Pass.Registered}
    {writer : Report.Writer}
    {processors : Nat}
    {canceled : Bool}
    {schedule : List Actor}
    {result : Result}
    (streams : order.StreamsCalls entry writer)
    (yields : order.Yields processors canceled schedule result)
    (completed : result.error = none) :
    ∃ lines, result.report = Report.Json.stream lines ∧ lines.length = result.summary.records ∧
      List.Forall₂ Report.Json.Tells lines
        (Marker.scanProgram order.marker order.program) := by
  have valid : ∀ record ∈ Marker.scanProgram order.marker order.program,
      record.kind ∈ Kind.named :=
    fun _ member => Marker.kind_mem_named_of_mem_scanProgram member
  obtain ⟨lines, joined, tells⟩ := Report.Json.exists_lines_tell valid
  rcases yields.eq_runInto_or_canceled streams.registered with same | failed
  · rcases order.reported_or_refused writer .json streams.registered streams.valid with
      ⟨-, reported⟩ | ⟨callee, refused⟩
    · rw [← streams.sink, ← same, streams.records_eq] at reported
      refine ⟨lines, ?_, ?_, tells⟩
      · rw [result.report_eq, reported.written, joined]
      · rw [tells.length_eq, reported.summary]
    · rw [← streams.sink, ← same, completed] at refused
      contradiction
  · rw [completed] at failed
    contradiction

end Order.StreamsCalls

/-- Nothing is lost in a stream of JSON lines, under every schedule.  The sink adds no
failure of its own: only the words of the writer are passed on, and with a reliable writer
and nobody who cancels the run comes to its end.  The report of a run that came to its end
has as many lines as the summary says; they tell the constructor calls of the program, in
order.  Another such run with the same report has calls with the same contents. -/
theorem json_stream_is_lossless
    {order : Order}
    {entry : Pass.Registered}
    {writer : Report.Writer}
    {processors : Nat}
    (streams : order.StreamsCalls entry writer)
    (machine : 0 < processors)
    (canceled : Bool) :
    let calls := Marker.scanProgram order.marker order.program
    (order.plan processors entry).Ends canceled ∧
      ∀ {schedule : List Actor} {result : Result},
        order.Yields processors canceled schedule result ->
        (∀ {callee : String} {error : Report.WriteError},
          result.error = some (.write callee error) -> error = .refused writer.failure) ∧
          (writer = .reliable -> canceled = false -> .caller ∉ schedule -> result.error = none) ∧
          (result.error = none ->
            (∃ lines, result.report = Report.Json.stream lines ∧
              lines.length = result.summary.records ∧
              List.Forall₂ Report.Json.Tells lines calls) ∧
            ∀ {other : Order} {otherEntry : Pass.Registered} {otherWriter : Report.Writer}
              {otherProcessors : Nat} {otherCanceled : Bool} {otherSchedule : List Actor}
              {otherResult : Result},
              other.StreamsCalls otherEntry otherWriter ->
              other.Yields otherProcessors otherCanceled otherSchedule otherResult ->
              otherResult.error = none -> otherResult.report = result.report ->
              (Marker.scanProgram other.marker other.program).map Record.content =
                calls.map Record.content) := by
  intro calls
  refine ⟨Plan.ends _ _ (order.limit_pos machine entry), ?_⟩
  intro schedule result yields
  refine ⟨?_, ?_, ?_⟩
  · intro callee error failed
    rcases yields.eq_runInto_or_canceled streams.registered with rfl | canceled
    · rw [streams.sink] at failed
      rcases order.reported_or_refused writer .json streams.registered streams.valid with
        ⟨noError, -⟩ | ⟨refusedCallee, refused⟩
      · rw [noError] at failed
        contradiction
      · rw [refused] at failed
        exact ((Error.write.inj (Option.some.inj failed)).2).symm
    · rw [canceled] at failed
      simp at failed
  · rintro rfl rfl withoutCaller
    rw [yields.eq_runInto streams.registered withoutCaller, streams.sink]
    have valid : ∀ record ∈ calls, record.kind ∈ Kind.named :=
      fun _ member => Marker.kind_mem_named_of_mem_scanProgram member
    exact (order.reported_of_taken streams.registered streams.records_eq
      (Report.Sink.writeAll?_ofFormat .json (Report.Writer.acceptAll?_reliable _) valid)).1
  · intro completed
    obtain ⟨lines, report, counted, tells⟩ := streams.report_of_completed yields completed
    refine ⟨⟨lines, report, counted, tells⟩, ?_⟩
    intro other otherEntry otherWriter _ _ _ otherResult otherStreams otherYields otherCompleted
      same
    obtain ⟨otherLines, otherReport, -, otherTells⟩ :=
      otherStreams.report_of_completed otherYields otherCompleted
    rw [report, otherReport] at same
    exact Report.Json.content_eq_of_stream_eq otherTells tells same

/-- A program whose names need escapes, one of them empty. -/
def escapedProgram : Program where
  name := "escaped"
  functions :=
    [⟨⟨"", [], false⟩, [some ⟨"entry", [some (.call ⟨some 1, [], 10⟩)]⟩]⟩,
      ⟨⟨"\"C1\n<\u2028\x01", [], false⟩, []⟩,
      ⟨⟨"a\\bC1", [⟨"other", "B*", true⟩], false⟩,
        [some ⟨"entry", [some (.call ⟨some 1, [], 20⟩), some (.call ⟨some 2, [], 30⟩)]⟩]⟩]

/-- A run over it into JSON lines. -/
def escapedOrder : Order :=
  { sampleOrder with
    sink := .ofFormat .reliable .json
    program := escapedProgram }

theorem json_stream_is_lossless_escaped :
    escapedOrder.StreamsCalls sampleEntry .reliable ∧ 0 < 2 ∧
      ∃ result lines, escapedOrder.Yields 2 false sampleSchedule result ∧ result.error = none ∧
        result.report = Report.Json.stream lines ∧ lines.length = result.summary.records ∧
        List.Forall₂ Report.Json.Tells lines
          [⟨"", "\"C1\n<\u2028\x01", .default, 10⟩, ⟨"a\\bC1", "\"C1\n<\u2028\x01", .default, 20⟩,
            ⟨"a\\bC1", "a\\bC1", .copy, 30⟩] := by
  have streams : escapedOrder.StreamsCalls sampleEntry .reliable := ⟨rfl, rfl, rfl⟩
  have withoutCaller : .caller ∉ sampleSchedule := by decide
  let plan := escapedOrder.plan 2 sampleEntry
  have finished : (plan.follow? (plan.initial false) sampleSchedule).map plan.isDone =
      some true := by
    decide +kernel
  obtain ⟨moment, followed, done⟩ := Option.map_eq_some_iff.mp finished
  have yields := Order.Yields.finished streams.registered followed done
  have calls : Marker.scanProgram escapedOrder.marker escapedOrder.program =
      [⟨"", "\"C1\n<\u2028\x01", .default, 10⟩, ⟨"a\\bC1", "\"C1\n<\u2028\x01", .default, 20⟩,
        ⟨"a\\bC1", "a\\bC1", .copy, 30⟩] := by
    decide +kernel
  obtain ⟨-, completes, tells⟩ :=
    (json_stream_is_lossless streams (show 0 < 2 by decide) false).2 yields
  have completed := completes rfl rfl withoutCaller
  obtain ⟨⟨lines, report, counted, told⟩, -⟩ := tells completed
  exact ⟨streams, by decide, _, lines, yields, completed, report, counted, calls ▸ told⟩

end Run
end CtorScan
