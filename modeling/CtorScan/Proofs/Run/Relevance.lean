import CtorScan.Proofs.Program.Resemblance
import CtorScan.Proofs.Run.Cancellation
import CtorScan.Proofs.Run.Failure

/-!
# What a run depends on

A run looks at the functions of a program only through its tasks: the names of the
functions, which of them have a body, and what the pass finds in them.  If the pass finds
constructor calls, tasks are told by the outlines of the functions.  So programs that
resemble each other have the same runs, step by step, under every schedule.
-/

namespace CtorScan
namespace Run

/-! ## Plans with the same work -/

namespace Plan

/-- What a run learns about a function: its name, whether it has no body, and what the
pass finds in it. -/
def task
    (plan : Plan)
    (function : Function Nat) : String × Bool × Outcome :=
  (function.name, function.isDeclaration, plan.pass function)

/-- What a run learns about the functions, in order. -/
def tasks (plan : Plan) : List (String × Bool × Outcome) :=
  plan.functions.map plan.task

/-- Two plans allow as many tasks at once and have the same tasks. -/
structure SameWork (first second : Plan) : Prop where
  /-- As many tasks may run at once. -/
  limit : first.limit = second.limit
  /-- The tasks are the same. -/
  tasks : first.tasks = second.tasks

namespace SameWork

variable {first second : Plan}

theorem length_eq (same : first.SameWork second) :
    first.functions.length = second.functions.length := by
  simpa [Plan.tasks] using congrArg List.length same.tasks

/-- At every position, there is a function in both plans or in neither, and then the task
is the same. -/
theorem task_eq
    (same : first.SameWork second)
    (index : Nat) :
    (first.functions[index]?).map first.task = (second.functions[index]?).map second.task := by
  rw [← List.getElem?_map, ← List.getElem?_map]
  exact congrArg (·[index]?) same.tasks

theorem initial_eq
    (same : first.SameWork second)
    (canceled : Bool) :
    first.initial canceled = second.initial canceled := by
  simp [initial, List.map_const', same.length_eq]

theorem loopStep?_eq
    (same : first.SameWork second)
    (moment : Moment) :
    first.loopStep? moment = second.loopStep? moment := by
  have here := same.task_eq moment.reached
  unfold loopStep?
  cases found : first.functions[moment.reached]? with
  | none =>
      have absent : second.functions[moment.reached]? = none := by
        simpa [found] using here.symm
      simp only [absent]
  | some function =>
      rw [found] at here
      obtain ⟨other, otherFound, alike⟩ := Option.map_eq_some_iff.mp here.symm
      have declared : other.isDeclaration = function.isDeclaration :=
        congrArg (fun task => task.2.1) alike
      simp only [otherFound, declared, same.limit]

theorem taskStep?_eq
    (same : first.SameWork second)
    (moment : Moment)
    (index : Nat) :
    first.taskStep? moment index = second.taskStep? moment index := by
  have here := same.task_eq index
  unfold taskStep?
  cases found : first.functions[index]? with
  | none =>
      have absent : second.functions[index]? = none := by
        simpa [found] using here.symm
      simp only [absent]
  | some function =>
      rw [found] at here
      obtain ⟨other, otherFound, alike⟩ := Option.map_eq_some_iff.mp here.symm
      have outcome : second.pass other = first.pass function :=
        congrArg (fun task => task.2.2) alike
      rw [otherFound]
      cases moment.stages[index]? with
      | none => rfl
      | some stage =>
          cases stage with
          | admitted => simp only [outcome]
          | _ => rfl

/-- Plans with the same work take the same steps. -/
theorem step?_eq
    (same : first.SameWork second)
    (moment : Moment)
    (actor : Actor) :
    first.step? moment actor = second.step? moment actor := by
  cases actor with
  | caller => rfl
  | loop => exact same.loopStep?_eq moment
  | task index => exact same.taskStep?_eq moment index

/-- Plans with the same work follow the same schedules, to the same moments. -/
theorem follow?_eq
    (same : first.SameWork second)
    (moment : Moment)
    (schedule : List Actor) :
    first.follow? moment schedule = second.follow? moment schedule := by
  induction schedule generalizing moment with
  | nil => rfl
  | cons actor rest inductionHypothesis =>
      rw [follow?, follow?, same.step?_eq]
      congr 1
      funext next
      exact inductionHypothesis next

theorem isDone_eq
    (same : first.SameWork second)
    (moment : Moment) :
    first.isDone moment = second.isDone moment := by
  rw [isDone, isDone, same.length_eq]

end SameWork

/-- What is written in the end is told by the tasks and the slots. -/
theorem collected_eq_tasks
    (plan : Plan)
    (moment : Moment) :
    plan.collected moment =
      ((plan.tasks.zip moment.slots).filter fun entry => !entry.1.2.1).map
        fun entry => (entry.1.1, entry.2) := by
  rw [tasks, List.zip_map_left, List.filter_map, List.map_map]
  rfl

end Plan

/-! ## Orders for resembling programs -/

namespace Order

/-- The order for another program. -/
def withProgram
    (order : Order)
    (program : Program) : Order :=
  { order with program := program }

/-- The tasks of a run that finds constructor calls are told by the outlines. -/
theorem tasks_plan
    (order : Order)
    (processors : Nat)
    {entry : Pass.Registered}
    (findsCalls : Pass.constructorCallsEntry.build? = some entry.build) :
    (order.plan processors entry).tasks =
      order.program.outlines.map fun outline =>
        (outline.name, outline.isDeclaration,
          ⟨outline.records order.program.outlines order.marker, false⟩) := by
  have built : entry.build = fun marker program function =>
      ⟨Marker.scan marker (some (function.mapCallee program.signature?)), false⟩ :=
    (Option.some.inj findsCalls).symm
  rw [Plan.tasks, plan]
  refine Eq.trans ?_ List.map_map.symm
  apply List.map_congr_left
  intro function _
  simp only [Function.comp_apply, Plan.task, apply, built, order.program.scan_mapCallee]
  rfl

/-- Runs over programs that resemble each other have the same work. -/
theorem sameWork_of_resembles
    {order : Order}
    {entry : Pass.Registered}
    {other : Program}
    (findsCalls : Pass.constructorCallsEntry.build? = some entry.build)
    (resembles : order.program.Resembles other)
    (processors : Nat) :
    (order.plan processors entry).SameWork ((order.withProgram other).plan processors entry) where
  limit := rfl
  tasks := by
    rw [tasks_plan order processors findsCalls, tasks_plan _ processors findsCalls,
      resembles.outlines]
    rfl

/-- The order is for constructor calls. -/
structure FindsCalls
    (order : Order)
    (entry : Pass.Registered) : Prop where
  /-- The pass is registered. -/
  registered : order.registry.lookup order.pass = .ok entry
  /-- It is the pass that finds constructor calls. -/
  build : Pass.constructorCallsEntry.build? = some entry.build

/-- Runs over programs that resemble each other have the same results under the same
schedules. -/
theorem Yields.withProgram
    {order : Order}
    {entry : Pass.Registered}
    {other : Program}
    {processors : Nat}
    {canceled : Bool}
    {schedule : List Actor}
    {result : Result}
    (findsCalls : order.FindsCalls entry)
    (resembles : order.program.Resembles other)
    (yields : order.Yields processors canceled schedule result) :
    (order.withProgram other).Yields processors canceled schedule result := by
  cases yields with
  | refused unknown => exact .refused unknown
  | @finished found _ last registered followed done =>
      obtain rfl : entry = found := Except.ok.inj (findsCalls.registered.symm.trans registered)
      have same := sameWork_of_resembles findsCalls.build resembles processors
      have result : order.resultAt processors entry last =
          (order.withProgram other).resultAt processors entry last := by
        rw [resultAt, resultAt, Plan.collected_eq_tasks, Plan.collected_eq_tasks, same.tasks,
          resembles.name]
        rfl
      rw [same.initial_eq, same.follow?_eq] at followed
      rw [same.isDone_eq] at done
      rw [result]
      exact .finished registered followed done

/-- A run that nobody cancels while it goes on ends like the run without tasks. -/
theorem Yields.eq_run
    {order : Order}
    {entry : Pass.Registered}
    {processors : Nat}
    {canceled : Bool}
    {schedule : List Actor}
    {result : Result}
    (registered : order.registry.lookup order.pass = .ok entry)
    (yields : order.Yields processors canceled schedule result)
    (withoutCaller : .caller ∉ schedule) :
    result = run order.registry order.pass order.marker canceled order.sink order.program := by
  cases canceled with
  | false => exact yields.eq_runInto registered withoutCaller
  | true =>
      obtain ⟨last, followed, done, rfl⟩ := yields.exists_moment registered
      exact order.resultAt_eq_run_canceled registered followed done

end Order

/-- Content of a program that is in no outline has no influence on a run that finds
constructor calls, whatever the marker, the sink and what becomes of it.  Changes of
arguments, of names and types of parameters, of the names and boundaries of blocks, and of
instructions that call no function with a name, in any number, lead to programs that
resemble each other.  Runs over such programs all end, and they have the same results under
the same schedules.  If nobody cancels them while they go on, they have the same result even
under different schedules: the same pieces of the report and lines of the log, the same
summary and the same error. -/
theorem irrelevant_content_has_no_influence
    {order : Order}
    {entry : Pass.Registered}
    {processors : Nat}
    (findsCalls : order.FindsCalls entry)
    (machine : 0 < processors)
    (canceled : Bool)
    (other : Program) :
    let changed := order.withProgram other
    (Relation.EqvGen Program.Edit order.program other -> order.program.Resembles other) ∧
      (order.program.Resembles other ->
        (order.plan processors entry).Ends canceled ∧
          (changed.plan processors entry).Ends canceled ∧
          (∀ {schedule : List Actor} {result : Result},
            order.Yields processors canceled schedule result ↔
              changed.Yields processors canceled schedule result) ∧
          ∀ {early late : List Actor} {first second : Result},
            order.Yields processors canceled early first -> .caller ∉ early ->
            changed.Yields processors canceled late second -> .caller ∉ late ->
            first = second) := by
  intro changed
  refine ⟨Program.resembles_of_edits, ?_⟩
  intro resembles
  have changedFindsCalls : changed.FindsCalls entry := ⟨findsCalls.registered, findsCalls.build⟩
  have forward : ∀ {schedule : List Actor} {result : Result},
      order.Yields processors canceled schedule result ->
        changed.Yields processors canceled schedule result :=
    fun yields => yields.withProgram findsCalls resembles
  have backward : ∀ {schedule : List Actor} {result : Result},
      changed.Yields processors canceled schedule result ->
        order.Yields processors canceled schedule result := by
    intro schedule result yields
    -- going back to the first program gives the first order
    have restored := yields.withProgram changedFindsCalls resembles.symm
    exact restored
  refine ⟨Plan.ends _ _ (order.limit_pos machine entry),
    Plan.ends _ _ (changed.limit_pos machine entry), ⟨forward, backward⟩, ?_⟩
  intro early late first second firstYields noCallerEarly secondYields noCallerLate
  rw [(forward firstYields).eq_run changedFindsCalls.registered noCallerEarly,
    secondYields.eq_run changedFindsCalls.registered noCallerLate]

/-- The sample with other arguments, parameters, blocks and silent instructions. -/
def variedProgram : Program where
  name := "sample"
  functions :=
    [⟨⟨"main", [], true⟩,
        [some ⟨"start", [none, some (.call ⟨some 1, [⟨"%x", "i32", false⟩], 10⟩)]⟩, none,
          some ⟨"", [some (.other "add"), some (.call ⟨none, [], 15⟩)]⟩,
          some ⟨"end", [some (.call ⟨some 2, [], 20⟩), some (.other "ret")]⟩]⟩,
      ⟨⟨"AC1", [], false⟩, []⟩,
      ⟨⟨"BC1", [⟨"", "struct B *", true⟩], false⟩,
        [some ⟨"entry", [some (.call ⟨some 1, [], 30⟩)]⟩, some ⟨"dead", []⟩]⟩]

/-- The sample with a declaration that takes more arguments. -/
def variadicProgram : Program where
  name := "sample"
  functions := sampleProgram.functions.set 1 ⟨⟨"AC1", [], true⟩, []⟩

theorem irrelevant_content_has_no_influence_sample :
    sampleOrder.FindsCalls sampleEntry ∧ 0 < 2 ∧
      Relation.EqvGen Program.Edit sampleProgram variadicProgram ∧
      sampleProgram.Resembles variadicProgram ∧
      sampleProgram.Resembles variedProgram ∧
      ∃ result, (sampleOrder.withProgram variedProgram).Yields 2 false sampleSchedule result ∧
        result.sink = .collect sampleRecords ∧
        result.summary = ⟨Pass.constructorCalls, 2, 3, false⟩ := by
  have findsCalls : sampleOrder.FindsCalls sampleEntry := ⟨rfl, rfl⟩
  have machine : 0 < 2 := by decide
  have edited : Relation.EqvGen Program.Edit sampleProgram variadicProgram := by
    apply Relation.EqvGen.rel
    exact .function "sample" [_] [_] (.variadic _ true)
  have resembles : sampleProgram.Resembles variedProgram := ⟨rfl, by decide +kernel⟩
  let plan := sampleOrder.plan 2 sampleEntry
  have finished : (plan.follow? (plan.initial false) sampleSchedule).map (fun moment =>
      plan.isDone moment && decide ((sampleOrder.resultAt 2 sampleEntry moment).sink =
        .collect sampleRecords) && decide ((sampleOrder.resultAt 2 sampleEntry moment).summary =
          ⟨Pass.constructorCalls, 2, 3, false⟩)) = some true := by
    decide +kernel
  obtain ⟨moment, followed, ended⟩ := Option.map_eq_some_iff.mp finished
  simp only [Bool.and_eq_true, decide_eq_true_eq] at ended
  obtain ⟨⟨done, sink⟩, summary⟩ := ended
  have yields := Order.Yields.finished findsCalls.registered followed done
  obtain ⟨-, same⟩ := irrelevant_content_has_no_influence findsCalls machine false variedProgram
  obtain ⟨-, -, sameRuns, -⟩ := same resembles
  exact ⟨findsCalls, machine, edited,
    (irrelevant_content_has_no_influence findsCalls machine false variadicProgram).1 edited,
    resembles, _, sameRuns.mp yields, sink, summary⟩

end Run
end CtorScan
