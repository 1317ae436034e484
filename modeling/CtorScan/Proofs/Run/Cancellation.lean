import CtorScan.Proofs.Run.Independence

/-!
# Cancelled runs

Cancelling a run, at whatever moment, gives all or nothing: either nothing was
written, logged or counted and the error says so, or the run ends as if nobody had
cancelled it.  No result with only some of the slots filled is ever written, since
a task that does not fill its slot makes the run fail.
-/

namespace CtorScan
namespace Run

/-- The run was cancelled before anything could be seen of it. -/
structure Abandoned
    (order : Order)
    (result : Result) : Prop where
  /-- Nothing was counted. -/
  summary : result.summary = .zero
  /-- Nothing was written or logged. -/
  events : result.events = []
  /-- The sink was not touched. -/
  sink : result.sink = order.sink
  /-- The error says so. -/
  error : result.error.map Error.message =
    some ("run " ++ order.pass ++ ": context canceled")

/-- No task was let in: those that are past their question have made the run
fail. -/
structure Barred (moment : Moment) : Prop where
  /-- The run is cancelled. -/
  canceled : moment.canceled = true
  /-- No task works on its function. -/
  noWork : ∀ stage ∈ moment.stages,
    stage ≠ .admitted ∧ ∀ outcome, stage ≠ .computed outcome
  /-- Tasks leave with a report. -/
  reported : ∀ stage ∈ moment.stages,
    stage = .leaving ∨ stage = .returned -> moment.failed = true

/-- A new stage that is neither work nor an end keeps all tasks out. -/
theorem Barred.setStage
    {moment : Moment}
    (barred : Barred moment)
    (index : Nat)
    {stage : Stage}
    (idle : stage ≠ .admitted ∧ ∀ outcome, stage ≠ .computed outcome)
    (reported : stage = .leaving ∨ stage = .returned -> moment.failed = true) :
    Barred (moment.setStage index stage) where
  canceled := barred.canceled
  noWork := by
    intro other member
    rcases List.mem_or_eq_of_mem_set member with before | rfl
    · exact barred.noWork other before
    · exact idle
  reported := by
    intro other member
    rcases List.mem_or_eq_of_mem_set member with before | rfl
    · exact barred.reported other before
    · exact reported

theorem Barred.step
    {plan : Plan}
    {moment after : Moment}
    {actor : Actor}
    (transition : plan.Transition moment actor after)
    (barred : Barred moment) :
    Barred after := by
  cases transition with
  | cancel notBefore =>
      rw [barred.canceled] at notBefore
      contradiction
  | skip next declared => exact ⟨barred.canceled, barred.noWork, barred.reported⟩
  | start next hasBody room =>
      have started : Barred (moment.setStage moment.reached .started) :=
        barred.setStage _ (by simp) (by simp)
      exact ⟨started.canceled, started.noWork, started.reported⟩
  | refuse atStage stopped => exact barred.setStage _ (by simp) (by simp)
  | proceed atStage goesOn =>
      rw [barred.canceled] at goesOn
      contradiction
  | compute own atStage =>
      exact absurd rfl (barred.noWork _ (List.mem_of_getElem? atStage)).1
  | store atStage =>
      exact absurd rfl ((barred.noWork _ (List.mem_of_getElem? atStage)).2 _)
  | @report index atStage =>
      refine ⟨barred.canceled, ?_, fun _ _ _ => rfl⟩
      intro other member
      rcases List.mem_or_eq_of_mem_set member with before | rfl
      · exact barred.noWork other before
      · simp
  | leave atStage =>
      refine barred.setStage _ (by simp) ?_
      intro _
      exact barred.reported _ (List.mem_of_getElem? atStage) (Or.inl rfl)

/-- A run that was cancelled before it began lets no task in. -/
theorem barred_of_follow?
    {plan : Plan}
    {schedule : List Actor}
    {last : Moment}
    (followed : plan.follow? (plan.initial true) schedule = some last) :
    Barred last := by
  refine Plan.follow?_induction (fun _ => True) Barred
    (fun _ transition barred => barred.step transition) (fun _ _ => trivial) followed ?_
  refine ⟨rfl, ?_, ?_⟩
  all_goals
    intro stage member
    obtain ⟨function, -, rfl⟩ := List.mem_map.mp member
    simp

/-- A run that was cancelled before it began fails if and only if there is a
function with a body. -/
theorem failed_iff_of_canceled_before
    {plan : Plan}
    {schedule : List Actor}
    {last : Moment}
    (followed : plan.follow? (plan.initial true) schedule = some last)
    (done : plan.isDone last = true) :
    last.failed = true ↔ ∃ function ∈ plan.functions, function.isDeclaration = false := by
  have consistent := Plan.consistent_of_follow? followed
  constructor
  · intro failed
    exact (consistent.failure failed).2
  · rintro ⟨function, member, hasBody⟩
    obtain ⟨index, own⟩ := List.mem_iff_getElem?.mp member
    have returned := consistent.returned_of_isDone done own hasBody
    exact (barred_of_follow? followed).reported _ (List.mem_of_getElem? returned) (Or.inr rfl)

theorem abandoned_of_failed
    (order : Order)
    {processors : Nat}
    {entry : Pass.Registered}
    {moment : Moment}
    (failed : moment.failed = true) :
    Abandoned order (order.resultAt processors entry moment) := by
  rw [Order.resultAt, if_pos failed]
  exact ⟨rfl, rfl, rfl, rfl⟩

/-- A run over declarations alone succeeds, cancelled or not. -/
theorem resultAt_error_of_no_body
    (order : Order)
    {processors : Nat}
    {entry : Pass.Registered}
    {moment : Moment}
    (consistent : (order.plan processors entry).Consistent moment)
    (done : (order.plan processors entry).isDone moment = true)
    (noBody : ¬ ∃ function ∈ order.program.functions, function.isDeclaration = false) :
    (order.resultAt processors entry moment).error = none := by
  have succeeded : moment.failed = false := by
    by_contra failed
    exact noBody (consistent.failure (by simpa using failed)).2
  have nothing : (order.plan processors entry).collected moment = [] := by
    rw [consistent.collected_eq done succeeded, List.map_eq_nil_iff, List.filter_eq_nil_iff]
    intro function member
    by_contra hasBody
    exact noBody ⟨function, member, by simpa using hasBody⟩
  simp [Order.resultAt, succeeded, nothing, writeOutcomes, finish]

/-- Every schedule of a run that was cancelled before it began gives the same. -/
theorem Order.resultAt_eq_run_canceled
    (order : Order)
    {processors : Nat}
    {entry : Pass.Registered}
    {schedule : List Actor}
    {last : Moment}
    (registered : order.registry.lookup order.pass = .ok entry)
    (followed : (order.plan processors entry).follow?
      ((order.plan processors entry).initial true) schedule = some last)
    (done : (order.plan processors entry).isDone last = true) :
    order.resultAt processors entry last =
      run order.registry order.pass order.marker true order.sink order.program := by
  have failed : last.failed = true ↔
      ∃ function ∈ order.program.functions, function.isDeclaration = false :=
    failed_iff_of_canceled_before followed done
  by_cases hasBody : ∃ function ∈ order.program.functions, function.isDeclaration = false
  · have someBody : (order.program.functions.any fun function => !function.isDeclaration) =
        true := by
      simpa using hasBody
    rw [Order.resultAt, if_pos (failed.mpr hasBody), run, registered]
    simp [someBody]
  · have noBody : (order.program.functions.any fun function => !function.isDeclaration) =
        false := by
      simpa using hasBody
    have succeeded : last.failed = false := by simpa [hasBody] using failed
    rw [order.resultAt_eq_run registered (Plan.consistent_of_follow? followed) done succeeded,
      run, run, registered]
    simp [noBody]

/-- Cancelling is all or nothing.  An unknown pass gives its error before anything
else.  A run of a known pass always ends, under every schedule and with the caller
cancelling before it or at any moment of it; then it is abandoned without a trace
or it ends like the run that nobody cancels.  A run that was cancelled before it
began gives the same under every schedule, and it is abandoned if and only if some
function has a body. -/
theorem cancellation_all_or_nothing
    (order : Order)
    {processors : Nat}
    (machine : 0 < processors)
    (canceled : Bool) :
    (∀ {error : Pass.RegistryError}, order.registry.lookup order.pass = .error error ->
      ∀ {schedule : List Actor} {result : Result},
        order.Yields processors canceled schedule result ↔
          schedule = [] ∧ result = ⟨.zero, [], order.sink, some (.registry error)⟩) ∧
      ∀ {entry : Pass.Registered}, order.registry.lookup order.pass = .ok entry ->
        (order.plan processors entry).Ends canceled ∧
          ∀ {schedule : List Actor} {result : Result},
            order.Yields processors canceled schedule result ->
            (Abandoned order result ∨
              result = run order.registry order.pass order.marker false order.sink
                order.program) ∧
              (canceled = true ->
                result = run order.registry order.pass order.marker true order.sink
                    order.program ∧
                  (Abandoned order result ↔
                    ∃ function ∈ order.program.functions, function.isDeclaration = false)) := by
  constructor
  · intro error unknown schedule result
    constructor
    · intro yields
      cases yields with
      | refused unknownAgain =>
          obtain rfl := Except.error.inj (unknown.symm.trans unknownAgain)
          exact ⟨rfl, rfl⟩
      | finished registered =>
          rw [unknown] at registered
          contradiction
    · rintro ⟨rfl, rfl⟩
      exact .refused unknown
  · intro entry registered
    refine ⟨Plan.ends _ _ (order.limit_pos machine entry), ?_⟩
    intro schedule result yields
    cases yields with
    | refused unknown =>
        rw [registered] at unknown
        contradiction
    | @finished found _ moment registeredAgain followed done =>
        obtain rfl : entry = found := Except.ok.inj (registered.symm.trans registeredAgain)
        have consistent := Plan.consistent_of_follow? followed
        constructor
        · cases failed : moment.failed with
          | true => exact Or.inl (abandoned_of_failed order failed)
          | false => exact Or.inr (order.resultAt_eq_run registered consistent done failed)
        · intro before
          subst before
          refine ⟨order.resultAt_eq_run_canceled registered followed done, ?_⟩
          constructor
          · intro abandoned
            by_contra noBody
            have noError := resultAt_error_of_no_body order consistent done noBody
            have message := abandoned.error
            rw [noError] at message
            contradiction
          · intro hasBody
            apply abandoned_of_failed
            exact (failed_iff_of_canceled_before followed done).mpr hasBody

theorem cancellation_all_or_nothing_sample :
    0 < 2 ∧ ∃ schedule result, sampleOrder.Yields 2 true schedule result ∧
      Abandoned sampleOrder result := by
  let plan := sampleOrder.plan 2 sampleEntry
  let schedule : List Actor :=
    [.loop, .task 0, .loop, .loop, .task 2, .task 0, .task 2, .task 0, .task 2]
  have registered : sampleOrder.registry.lookup sampleOrder.pass = .ok sampleEntry := rfl
  have finished : (plan.follow? (plan.initial true) schedule).map plan.isDone = some true := by
    decide +kernel
  obtain ⟨moment, followed, done⟩ := Option.map_eq_some_iff.mp finished
  have yields := Order.Yields.finished registered followed done
  have either := ((cancellation_all_or_nothing sampleOrder (by decide) true).2 registered).2 yields
  refine ⟨by decide, schedule, _, yields, (either.2 rfl).2.mpr ?_⟩
  exact ⟨_, List.mem_cons_self, rfl⟩

end Run
end CtorScan
