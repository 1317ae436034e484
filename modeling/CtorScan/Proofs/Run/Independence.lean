import CtorScan.Proofs.Run.Schedule
import CtorScan.Proofs.Run.Writing

/-!
# Runs do not depend on the schedule

However the loop and the tasks take turns, a run that nobody cancels ends like the
run that looks at one function after the other.  If the sink takes the records of
the functions with a body, in the order of the program, then the run succeeds and
hands exactly these to it.
-/

namespace CtorScan
namespace Run

/-! ## Plans -/

namespace Order

/-- There is room for a task, whatever number of jobs is asked for. -/
theorem limit_pos
    (order : Order)
    {processors : Nat}
    (machine : 0 < processors)
    (entry : Pass.Registered) :
    0 < (order.plan processors entry).limit := by
  unfold plan
  split
  · exact machine
  · rename_i positive
    simp only
    omega

/-- A run that is done and did not fail ends like the run without tasks. -/
theorem resultAt_eq_run
    (order : Order)
    {processors : Nat}
    {entry : Pass.Registered}
    {moment : Moment}
    (registered : order.registry.lookup order.pass = .ok entry)
    (consistent : (order.plan processors entry).Consistent moment)
    (done : (order.plan processors entry).isDone moment = true)
    (succeeded : moment.failed = false) :
    order.resultAt processors entry moment =
      run order.registry order.pass order.marker false order.sink order.program := by
  have collected := consistent.collected_eq done succeeded
  simp only [resultAt, succeeded, collected, run, registered]
  rfl

/-- A run of a registered pass ends when its tasks are done. -/
theorem Yields.exists_moment
    {order : Order}
    {processors : Nat}
    {canceled : Bool}
    {entry : Pass.Registered}
    {schedule : List Actor}
    {result : Result}
    (yields : order.Yields processors canceled schedule result)
    (registered : order.registry.lookup order.pass = .ok entry) :
    ∃ last, (order.plan processors entry).follow?
        ((order.plan processors entry).initial canceled) schedule = some last ∧
      (order.plan processors entry).isDone last = true ∧
      order.resultAt processors entry last = result := by
  cases yields with
  | refused unknown =>
      rw [registered] at unknown
      contradiction
  | @finished found _ last registeredAgain followed done =>
      obtain rfl : entry = found := Except.ok.inj (registered.symm.trans registeredAgain)
      exact ⟨last, followed, done, rfl⟩

/-- The functions of the program that have a body. -/
def bodies (order : Order) : List (Function Nat) :=
  order.program.functions.filter fun function => !function.isDeclaration

end Order

/-- Without the caller, a run that was not cancelled stays so and does not fail. -/
theorem Plan.not_canceled_of_follow?
    {plan : Plan}
    {schedule : List Actor}
    {last : Moment}
    (followed : plan.follow? (plan.initial false) schedule = some last)
    (withoutCaller : .caller ∉ schedule) :
    last.canceled = false := by
  refine follow?_induction (· ≠ .caller) (·.canceled = false) ?_ ?_ followed rfl
  · intro moment after actor notCaller transition notCanceled
    cases transition with
    | cancel => contradiction
    | _ => exact notCanceled
  · intro actor member isCaller
    exact withoutCaller (isCaller ▸ member)

/-- The result of a run that nobody cancels is the same for every schedule and
every number of jobs: that of the run without tasks.  Every such schedule ends.  If
the sink takes the records of the functions with a body one after the other, the
run succeeds, the sink was handed exactly these, and the summary counts the
functions, the records and the changes. -/
theorem run_independent_of_schedule
    (order : Order)
    {processors : Nat}
    {entry : Pass.Registered}
    (machine : 0 < processors)
    (registered : order.registry.lookup order.pass = .ok entry) :
    (order.plan processors entry).Ends false ∧
      ∀ {schedule : List Actor} {result : Result},
        order.Yields processors false schedule result -> .caller ∉ schedule ->
        let outcomes := order.bodies.map (order.apply entry)
        let records := outcomes.flatMap Outcome.records
        result = run order.registry order.pass order.marker false order.sink order.program ∧
          ∀ {last : Report.Sink} {texts : List String},
            order.sink.writeAll? records = some (last, texts) ->
            result.error = none ∧
              result.sink = last ∧
              result.events.filterMap Event.written? = texts ∧
              result.summary =
                ⟨order.pass, outcomes.length, records.length, outcomes.any Outcome.changed⟩ := by
  refine ⟨Plan.ends _ _ (order.limit_pos machine entry), ?_⟩
  intro schedule result yields withoutCaller outcomes records
  cases yields with
  | refused unknown =>
      rw [registered] at unknown
      contradiction
  | @finished found _ moment registeredAgain followed done =>
      obtain rfl : entry = found := Except.ok.inj (registered.symm.trans registeredAgain)
      have consistent := Plan.consistent_of_follow? followed
      have succeeded : moment.failed = false := by
        by_contra failed
        have canceled := (consistent.failure (by simpa using failed)).1
        rw [Plan.not_canceled_of_follow? followed withoutCaller] at canceled
        contradiction
      have sequential := order.resultAt_eq_run registered consistent done succeeded
      refine ⟨sequential, ?_⟩
      intro last texts taken
      let first : Result := ⟨{ Summary.zero with pass := order.pass }, [], order.sink, none⟩
      let named := order.bodies.map fun function =>
        (function.name, order.apply entry function)
      have ended : order.resultAt processors entry moment =
          finish entry.mutates order.program.name (writeOutcomes first named) := by
        rw [sequential]
        simp only [run, registered]
        rfl
      have namedRecords : (named.flatMap fun outcome => outcome.2.records) = records := by
        simp only [named, records, outcomes, List.flatMap_map]
      obtain ⟨lastSink, wrote⟩ := wrote_writeOutcomes first rfl (namedRecords ▸ taken)
      obtain ⟨noError, sameSink, sameSummary, sameWritten⟩ :=
        finish_of_no_error entry.mutates order.program.name wrote.error
      rw [ended]
      refine ⟨noError, sameSink.trans lastSink, sameWritten.trans wrote.written, ?_⟩
      rw [sameSummary, wrote.summary, namedRecords]
      simp [first, named, outcomes, Summary.zero, Function.comp_def]

/-- Two functions with a body around a declaration: the first one calls both
others, and the last one calls the declaration. -/
def sampleProgram : Program where
  name := "sample"
  functions :=
    [⟨⟨"main", [], false⟩,
        [some ⟨"entry", [some (.call ⟨some 1, [], 10⟩), none, some (.call ⟨some 2, [], 20⟩)]⟩]⟩,
      ⟨⟨"AC1", [], false⟩, []⟩,
      ⟨⟨"BC1", [⟨"other", "B*", true⟩], false⟩,
        [none, some ⟨"entry", [some (.call ⟨some 1, [], 30⟩)]⟩]⟩]

/-- A run over the sample, with as many tasks as the machine likes. -/
def sampleOrder : Order where
  registry := .standard
  sink := .collect []
  jobs := -1
  pass := Pass.constructorCalls
  marker := ""
  program := sampleProgram

/-- The pass of the sample. -/
def sampleEntry : Pass.Registered where
  name := Pass.constructorCalls
  summary := "Detect Implicit Constructor Calls"
  mutates := false
  build := fun marker program function =>
    ⟨Marker.scan marker (some (function.mapCallee program.signature?)), false⟩

/-- The records of the sample, in order. -/
def sampleRecords : List Record :=
  [⟨"main", "AC1", .default, 10⟩, ⟨"main", "BC1", .copy, 20⟩, ⟨"BC1", "AC1", .default, 30⟩]

/-- A schedule in which the last function is done before the first one, and the
two take turns. -/
def sampleSchedule : List Actor :=
  [.loop, .task 0, .loop, .loop, .task 2, .task 2, .task 0, .task 2, .task 2, .task 0, .task 0]

theorem run_independent_of_schedule_sample :
    0 < 2 ∧ sampleOrder.registry.lookup sampleOrder.pass = .ok sampleEntry ∧
      .caller ∉ sampleSchedule ∧
      ∃ result, sampleOrder.Yields 2 false sampleSchedule result ∧ result.error = none ∧
        result.sink = .collect sampleRecords ∧
        result.summary = ⟨Pass.constructorCalls, 2, 3, false⟩ := by
  have registered : sampleOrder.registry.lookup sampleOrder.pass = .ok sampleEntry := rfl
  have withoutCaller : .caller ∉ sampleSchedule := by decide
  let plan := sampleOrder.plan 2 sampleEntry
  have finished : (plan.follow? (plan.initial false) sampleSchedule).map plan.isDone =
      some true := by
    decide +kernel
  obtain ⟨moment, followed, done⟩ := Option.map_eq_some_iff.mp finished
  have yields := Order.Yields.finished registered followed done
  have same := (run_independent_of_schedule sampleOrder (by decide) registered).2 yields
    withoutCaller
  have taken : sampleOrder.sink.writeAll?
      ((sampleOrder.bodies.map (sampleOrder.apply sampleEntry)).flatMap
        Outcome.records) = some (.collect sampleRecords, ["", "", ""]) := by
    decide +kernel
  obtain ⟨noError, sink, -, summary⟩ := same.2 taken
  exact ⟨by decide, registered, withoutCaller, _, yields, noError, sink, summary⟩

end Run
end CtorScan
