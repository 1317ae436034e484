import CtorScan.Run.Schedule
import Mathlib.Data.List.Basic

/-!
# What every schedule keeps

One inversion lemma says what a step of a run can be.  From it follow an invariant
that ties each slot to its own function, a measure that every step lowers, and that
a run which is not done can always go on.  So no schedule is endless, none gets
stuck, and at the end the slots hold what the pass says about their functions,
unless some task was refused.
-/

namespace CtorScan
namespace Run
namespace Plan

/-! ## Steps -/

/-- What one step can be. -/
inductive Transition
    (plan : Plan)
    (moment : Moment) : Actor -> Moment -> Prop
  /-- The caller cancels. -/
  | cancel
      (notBefore : moment.canceled = false) :
      Transition plan moment .caller { moment with canceled := true }
  /-- The loop goes past a declaration. -/
  | skip
      {function : Function Nat}
      (next : plan.functions[moment.reached]? = some function)
      (declared : function.isDeclaration = true) :
      Transition plan moment .loop { moment with reached := moment.reached + 1 }
  /-- The loop starts a task. -/
  | start
      {function : Function Nat}
      (next : plan.functions[moment.reached]? = some function)
      (hasBody : function.isDeclaration = false)
      (room : moment.running < plan.limit) :
      Transition plan moment .loop
        { moment.setStage moment.reached .started with reached := moment.reached + 1 }
  /-- A task sees that the run was cancelled. -/
  | refuse
      {index : Nat}
      (stage : moment.stages[index]? = some .started)
      (stopped : moment.canceled = true ∨ moment.failed = true) :
      Transition plan moment (.task index) (moment.setStage index .refused)
  /-- A task sees that the run goes on. -/
  | proceed
      {index : Nat}
      (stage : moment.stages[index]? = some .started)
      (goesOn : moment.canceled = false) :
      Transition plan moment (.task index) (moment.setStage index .admitted)
  /-- A task applies the pass. -/
  | compute
      {index : Nat}
      {function : Function Nat}
      (own : plan.functions[index]? = some function)
      (stage : moment.stages[index]? = some .admitted) :
      Transition plan moment (.task index)
        (moment.setStage index (.computed (plan.pass function)))
  /-- A task stores its outcome. -/
  | store
      {index : Nat}
      {outcome : Outcome}
      (stage : moment.stages[index]? = some (.computed outcome)) :
      Transition plan moment (.task index)
        { moment.setStage index .leaving with slots := moment.slots.set index outcome }
  /-- A task reports that it was refused. -/
  | report
      {index : Nat}
      (stage : moment.stages[index]? = some .refused) :
      Transition plan moment (.task index)
        { moment.setStage index .leaving with failed := true }
  /-- A task makes room. -/
  | leave
      {index : Nat}
      (stage : moment.stages[index]? = some .leaving) :
      Transition plan moment (.task index) (moment.setStage index .returned)

theorem transition_of_loopStep?
    {plan : Plan}
    {moment after : Moment}
    (stepped : plan.loopStep? moment = some after) :
    plan.Transition moment .loop after := by
  unfold loopStep? at stepped
  split at stepped
  · contradiction
  · rename_i function next
    split at stepped
    · rename_i declared
      obtain rfl := Option.some.inj stepped
      exact .skip next declared
    · rename_i hasBody
      split at stepped
      · rename_i room
        obtain rfl := Option.some.inj stepped
        exact .start next (by simpa using hasBody) room
      · contradiction

theorem transition_of_taskStep?
    {plan : Plan}
    {moment after : Moment}
    {index : Nat}
    (stepped : plan.taskStep? moment index = some after) :
    plan.Transition moment (.task index) after := by
  unfold taskStep? at stepped
  split at stepped
  · rename_i function stage own atStage
    split at stepped
    · split at stepped
      · rename_i stopped
        obtain rfl := Option.some.inj stepped
        exact .refuse atStage (by simpa using stopped)
      · rename_i goesOn
        obtain rfl := Option.some.inj stepped
        exact .proceed atStage (by simp_all)
    · obtain rfl := Option.some.inj stepped
      exact .compute own atStage
    · obtain rfl := Option.some.inj stepped
      exact .store atStage
    · obtain rfl := Option.some.inj stepped
      exact .report atStage
    · obtain rfl := Option.some.inj stepped
      exact .leave atStage
    · contradiction
    · contradiction
  · contradiction

/-- Every step is one of the transitions. -/
theorem transition_of_step?
    {plan : Plan}
    {moment after : Moment}
    {actor : Actor}
    (stepped : plan.step? moment actor = some after) :
    plan.Transition moment actor after := by
  cases actor with
  | caller =>
      simp only [step?] at stepped
      split at stepped
      · contradiction
      · rename_i notBefore
        obtain rfl := Option.some.inj stepped
        exact .cancel (by simpa using notBefore)
  | loop => exact transition_of_loopStep? stepped
  | task index => exact transition_of_taskStep? stepped

/-- What holds at the start and is kept by every step holds along every
schedule.  The steps may be restricted to some of the actors. -/
theorem follow?_induction
    {plan : Plan}
    (allowed : Actor -> Prop)
    (property : Moment -> Prop)
    (kept : ∀ {moment after : Moment} {actor : Actor}, allowed actor ->
      plan.Transition moment actor after -> property moment -> property after)
    {first last : Moment}
    {schedule : List Actor}
    (actors : ∀ actor ∈ schedule, allowed actor)
    (followed : plan.follow? first schedule = some last)
    (atFirst : property first) :
    property last := by
  induction schedule generalizing first with
  | nil =>
      obtain rfl := Option.some.inj followed
      exact atFirst
  | cons actor rest inductionHypothesis =>
      rw [follow?, Option.bind_eq_some_iff] at followed
      obtain ⟨next, stepped, followed⟩ := followed
      exact inductionHypothesis (fun other member => actors other (List.mem_cons_of_mem _ member))
        followed (kept (actors actor List.mem_cons_self) (transition_of_step? stepped) atFirst)

/-! ## The invariant -/

/-- What a stage of the task of a function says about a moment. -/
def Holds
    (plan : Plan)
    (moment : Moment)
    (index : Nat)
    (function : Function Nat) : Stage -> Prop
  | .idle => moment.reached ≤ index ∨ function.isDeclaration = true
  | .started => function.isDeclaration = false
  | .admitted => function.isDeclaration = false
  | .computed outcome => function.isDeclaration = false ∧ outcome = plan.pass function
  | .refused => function.isDeclaration = false ∧ moment.canceled = true
  | .leaving | .returned =>
      function.isDeclaration = false ∧
        (moment.slots[index]? = some (plan.pass function) ∨ moment.failed = true)

/-- What holds at every moment: each task works for its own function and its own
slot, and only a cancelled run with something to do can fail. -/
structure Consistent
    (plan : Plan)
    (moment : Moment) : Prop where
  /-- There is a stage for each function. -/
  stages : moment.stages.length = plan.functions.length
  /-- There is a slot for each function. -/
  slots : moment.slots.length = plan.functions.length
  /-- The loop stays within the functions. -/
  reached : moment.reached ≤ plan.functions.length
  /-- Every stage is right about its function. -/
  holds : ∀ {index function stage}, plan.functions[index]? = some function ->
    moment.stages[index]? = some stage -> plan.Holds moment index function stage
  /-- A run fails only after it was cancelled, and only over a function with a
  body. -/
  failure : moment.failed = true ->
    moment.canceled = true ∧ ∃ function ∈ plan.functions, function.isDeclaration = false

/-- What a stage says stays true while the slot of its function is not touched. -/
theorem Holds.mono
    {plan : Plan}
    {moment after : Moment}
    {index : Nat}
    {function : Function Nat}
    {stage : Stage}
    (holds : plan.Holds moment index function stage)
    (reached : moment.reached ≤ index ->
      after.reached ≤ index ∨ function.isDeclaration = true)
    (canceled : moment.canceled = true -> after.canceled = true)
    (failed : moment.failed = true -> after.failed = true)
    (slot : after.slots[index]? = moment.slots[index]?) :
    plan.Holds after index function stage := by
  cases stage with
  | idle =>
      rcases holds with notYet | declared
      · exact reached notYet
      · exact Or.inr declared
  | started => exact holds
  | admitted => exact holds
  | computed outcome => exact holds
  | refused => exact ⟨holds.1, canceled holds.2⟩
  | leaving => exact ⟨holds.1, holds.2.imp (fun stored => slot.trans stored) failed⟩
  | returned => exact ⟨holds.1, holds.2.imp (fun stored => slot.trans stored) failed⟩

/-- A step that changes one stage, and at most the slot beside it, keeps the
invariant if the new stage is right. -/
theorem Consistent.setStage
    {plan : Plan}
    {moment after : Moment}
    {index : Nat}
    {stage : Stage}
    (consistent : plan.Consistent moment)
    (stages : after.stages = moment.stages.set index stage)
    (slotCount : after.slots.length = moment.slots.length)
    (slots : ∀ {other}, other ≠ index -> after.slots[other]? = moment.slots[other]?)
    (within : after.reached ≤ plan.functions.length)
    (reached : ∀ {other}, other ≠ index -> moment.reached ≤ other -> after.reached ≤ other)
    (canceled : after.canceled = moment.canceled)
    (failed : moment.failed = true -> after.failed = true)
    (right : ∀ {function}, plan.functions[index]? = some function ->
      plan.Holds after index function stage)
    (failure : after.failed = true ->
      after.canceled = true ∧ ∃ function ∈ plan.functions, function.isDeclaration = false) :
    plan.Consistent after where
  stages := by rw [stages, List.length_set, consistent.stages]
  slots := slotCount.trans consistent.slots
  reached := within
  holds := by
    intro other function otherStage own atStage
    rw [stages] at atStage
    by_cases same : other = index
    · subst same
      have inside : other < moment.stages.length := by
        rw [consistent.stages]
        exact (List.getElem?_eq_some_iff.mp own).choose
      rw [List.getElem?_set_self inside] at atStage
      obtain rfl := Option.some.inj atStage
      exact right own
    · rw [List.getElem?_set_ne (Ne.symm same)] at atStage
      exact (consistent.holds own atStage).mono
        (fun notYet => Or.inl (reached same notYet)) (fun before => canceled ▸ before)
        failed (slots same)
  failure := failure

/-- A task that changes only its stage leaves slots, loop and flags alone. -/
theorem Consistent.setStage_of_holds
    {plan : Plan}
    {moment : Moment}
    {index : Nat}
    {stage : Stage}
    (consistent : plan.Consistent moment)
    (right : ∀ {function}, plan.functions[index]? = some function ->
      plan.Holds moment index function stage) :
    plan.Consistent (moment.setStage index stage) := by
  refine consistent.setStage rfl rfl (fun _ => rfl) consistent.reached
    (fun _ notYet => notYet) rfl id ?_ consistent.failure
  intro function own
  exact (right own).mono Or.inl id id rfl

theorem initial_consistent
    (plan : Plan)
    (canceled : Bool) :
    plan.Consistent (plan.initial canceled) where
  stages := by simp [initial]
  slots := by simp [initial]
  reached := Nat.zero_le _
  holds := by
    intro index function stage own atStage
    simp only [initial, List.getElem?_map, own, Option.map_some, Option.some.injEq] at atStage
    subst atStage
    exact Or.inl (Nat.zero_le index)
  failure := by simp [initial]

/-- Every step keeps the invariant. -/
theorem Consistent.step
    {plan : Plan}
    {moment after : Moment}
    {actor : Actor}
    (transition : plan.Transition moment actor after)
    (consistent : plan.Consistent moment) :
    plan.Consistent after := by
  cases transition with
  | cancel notBefore =>
      refine ⟨consistent.stages, consistent.slots, consistent.reached, ?_, ?_⟩
      · intro index function stage own atStage
        exact (consistent.holds own atStage).mono Or.inl (fun _ => rfl) id rfl
      · intro failed
        exact ⟨rfl, (consistent.failure failed).2⟩
  | @skip passed next declared =>
      have inside := (List.getElem?_eq_some_iff.mp next).choose
      refine ⟨consistent.stages, consistent.slots, inside, ?_, consistent.failure⟩
      intro index function stage own atStage
      refine (consistent.holds own atStage).mono ?_ id id rfl
      intro notYet
      by_cases here : index = moment.reached
      · subst here
        obtain rfl := Option.some.inj (next.symm.trans own)
        exact Or.inr declared
      · exact Or.inl (by simp only; omega)
  | @start started next hasBody room =>
      have inside := (List.getElem?_eq_some_iff.mp next).choose
      refine consistent.setStage rfl rfl (fun _ => rfl) inside ?_ rfl id ?_ consistent.failure
      · intro other different notYet
        simp only
        omega
      · intro function own
        obtain rfl := Option.some.inj (next.symm.trans own)
        exact hasBody
  | refuse atStage stopped =>
      refine consistent.setStage_of_holds fun own => ?_
      refine ⟨consistent.holds own atStage, ?_⟩
      exact stopped.elim id fun failed => (consistent.failure failed).1
  | proceed atStage goesOn =>
      refine consistent.setStage_of_holds fun own => ?_
      have started := consistent.holds own atStage
      exact started
  | @compute index worked own atStage =>
      refine consistent.setStage_of_holds fun ownAgain => ?_
      obtain rfl := Option.some.inj (own.symm.trans ownAgain)
      exact ⟨consistent.holds own atStage, rfl⟩
  | @store index outcome atStage =>
      refine consistent.setStage rfl (List.length_set ..) ?_ consistent.reached
        (fun _ notYet => notYet) rfl id ?_ consistent.failure
      · intro other different
        exact List.getElem?_set_ne (Ne.symm different)
      · intro function own
        have inside : index < moment.slots.length := by
          rw [consistent.slots]
          exact (List.getElem?_eq_some_iff.mp own).choose
        obtain ⟨hasBody, rfl⟩ := consistent.holds own atStage
        exact ⟨hasBody, Or.inl (List.getElem?_set_self inside)⟩
  | @report index atStage =>
      have inside : index < plan.functions.length := by
        rw [← consistent.stages]
        exact (List.getElem?_eq_some_iff.mp atStage).choose
      have own := List.getElem?_eq_getElem inside
      have refused := consistent.holds own atStage
      refine consistent.setStage rfl rfl (fun _ => rfl) consistent.reached
        (fun _ notYet => notYet) rfl (fun _ => rfl) ?_ ?_
      · intro function ownAgain
        exact ⟨(consistent.holds ownAgain atStage).1, Or.inr rfl⟩
      · intro _
        exact ⟨refused.2, _, List.getElem_mem inside, refused.1⟩
  | leave atStage =>
      refine consistent.setStage_of_holds fun own => ?_
      have leaving := consistent.holds own atStage
      exact leaving

/-- The invariant holds along every schedule. -/
theorem consistent_of_follow?
    {plan : Plan}
    {canceled : Bool}
    {schedule : List Actor}
    {last : Moment}
    (followed : plan.follow? (plan.initial canceled) schedule = some last) :
    plan.Consistent last :=
  follow?_induction (fun _ => True) plan.Consistent
    (fun _ transition consistent => consistent.step transition)
    (fun _ _ => trivial) followed (plan.initial_consistent canceled)

/-! ## The end of a run -/

/-- In a run that is done, the task of every function with a body has returned. -/
theorem Consistent.returned_of_isDone
    {plan : Plan}
    {moment : Moment}
    (consistent : plan.Consistent moment)
    (done : plan.isDone moment = true)
    {index : Nat}
    {function : Function Nat}
    (own : plan.functions[index]? = some function)
    (hasBody : function.isDeclaration = false) :
    moment.stages[index]? = some .returned := by
  simp only [isDone, Bool.and_eq_true, beq_iff_eq] at done
  obtain ⟨through, quiet⟩ := done
  have inside := (List.getElem?_eq_some_iff.mp own).choose
  have insideStages : index < moment.stages.length := consistent.stages ▸ inside
  have atStage := List.getElem?_eq_getElem insideStages
  have notRunning : moment.stages[index].isRunning = false := by
    rw [Moment.running, List.countP_eq_zero] at quiet
    simpa using quiet _ (List.getElem_mem insideStages)
  have holds := consistent.holds own atStage
  rw [atStage]
  generalize moment.stages[index] = stage at notRunning holds
  cases stage with
  | idle =>
      rcases holds with notYet | declared
      · omega
      · rw [hasBody] at declared
        contradiction
  | returned => rfl
  | started => contradiction
  | admitted => contradiction
  | computed outcome => contradiction
  | refused => contradiction
  | leaving => contradiction

/-- Slots that hold the outcomes of their functions are collected in the order of
the functions. -/
theorem collect_eq
    (pass : Function Nat -> Outcome)
    (functions : List (Function Nat))
    (slots : List Outcome)
    (sameLength : slots.length = functions.length)
    (filled : ∀ (index : Nat) {function}, functions[index]? = some function ->
      function.isDeclaration = false -> slots[index]? = some (pass function)) :
    (((functions.zip slots).filter fun entry => !entry.1.isDeclaration).map
      fun entry => (entry.1.name, entry.2)) =
      (functions.filter fun function => !function.isDeclaration).map
        fun function => (function.name, pass function) := by
  induction functions generalizing slots with
  | nil => simp
  | cons function rest inductionHypothesis =>
      cases slots with
      | nil => simp at sameLength
      | cons slot others =>
          have later := inductionHypothesis others (by simpa using sameLength) (by
            intro index function own hasBody
            simpa using filled (index + 1) (by simpa using own) hasBody)
          cases declared : function.isDeclaration with
          | true => simpa [declared] using later
          | false =>
              have own : slot = pass function := by
                simpa using filled 0 (by simp) declared
              simpa [declared, own] using later

/-- What a run that is done and did not fail writes are the outcomes of its
functions in order. -/
theorem Consistent.collected_eq
    {plan : Plan}
    {moment : Moment}
    (consistent : plan.Consistent moment)
    (done : plan.isDone moment = true)
    (succeeded : moment.failed = false) :
    plan.collected moment =
      (plan.functions.filter fun function => !function.isDeclaration).map
        fun function => (function.name, plan.pass function) := by
  apply collect_eq plan.pass plan.functions moment.slots consistent.slots
  intro index function own hasBody
  have returned := consistent.returned_of_isDone done own hasBody
  rcases (consistent.holds own returned).2 with stored | failed
  · exact stored
  · rw [succeeded] at failed
    contradiction

/-! ## Schedules end -/

/-- How many steps the task at a stage has left at most. -/
def stepsLeft : Stage -> Nat
  | .started => 4
  | .admitted => 3
  | .computed _ => 2
  | .refused => 2
  | .leaving => 1
  | .idle | .returned => 0

/-- How many steps the tasks have left at most. -/
def allStepsLeft : List Stage -> Nat
  | [] => 0
  | stage :: rest => stepsLeft stage + allStepsLeft rest

/-- How many steps a run has left at most: five for each function that the loop
has not gone past, those of the tasks, and one to cancel. -/
def remaining
    (plan : Plan)
    (moment : Moment) : Nat :=
  5 * (plan.functions.length - moment.reached) + allStepsLeft moment.stages +
    (!moment.canceled).toNat

/-- A task that gets to another stage changes its own steps only. -/
theorem allStepsLeft_set
    {stages : List Stage}
    {index : Nat}
    {old : Stage}
    (new : Stage)
    (present : stages[index]? = some old) :
    allStepsLeft (stages.set index new) + stepsLeft old =
      allStepsLeft stages + stepsLeft new := by
  induction stages generalizing index with
  | nil => simp at present
  | cons first rest inductionHypothesis =>
      cases index with
      | zero =>
          obtain rfl : first = old := by simpa using present
          simp only [List.set_cons_zero, allStepsLeft]
          omega
      | succ index =>
          have later := inductionHypothesis (by simpa using present)
          simp only [List.set_cons_succ, allStepsLeft]
          omega

theorem allStepsLeft_idle (functions : List (Function Nat)) :
    allStepsLeft (functions.map fun _ => Stage.idle) = 0 := by
  induction functions with
  | nil => rfl
  | cons function rest inductionHypothesis =>
      simp only [List.map_cons, allStepsLeft, stepsLeft, inductionHypothesis]

/-- Every step leaves fewer steps. -/
theorem remaining_lt
    {plan : Plan}
    {moment after : Moment}
    {actor : Actor}
    (consistent : plan.Consistent moment)
    (transition : plan.Transition moment actor after) :
    plan.remaining after < plan.remaining moment := by
  have taskStep : ∀ {index old} (new : Stage) {next : Moment},
      moment.stages[index]? = some old -> stepsLeft new < stepsLeft old ->
      next.reached = moment.reached -> next.canceled = moment.canceled ->
      next.stages = moment.stages.set index new ->
      plan.remaining next < plan.remaining moment := by
    intro index old new next atStage fewer reached canceled stages
    have others := allStepsLeft_set new atStage
    simp only [remaining, reached, canceled, stages]
    omega
  cases transition with
  | cancel notBefore =>
      simp [remaining, notBefore]
  | skip next declared =>
      have inside := (List.getElem?_eq_some_iff.mp next).choose
      simp only [remaining]
      omega
  | start next hasBody room =>
      have inside := (List.getElem?_eq_some_iff.mp next).choose
      have insideStages : moment.reached < moment.stages.length := consistent.stages ▸ inside
      have others := allStepsLeft_set .started (List.getElem?_eq_getElem insideStages)
      have four : stepsLeft .started = 4 := rfl
      simp only [remaining, Moment.setStage]
      omega
  | refuse atStage stopped => exact taskStep .refused atStage (by decide) rfl rfl rfl
  | proceed atStage goesOn => exact taskStep .admitted atStage (by decide) rfl rfl rfl
  | compute own atStage => exact taskStep _ atStage (by simp [stepsLeft]) rfl rfl rfl
  | store atStage => exact taskStep .leaving atStage (by simp [stepsLeft]) rfl rfl rfl
  | report atStage => exact taskStep .leaving atStage (by decide) rfl rfl rfl
  | leave atStage => exact taskStep .returned atStage (by decide) rfl rfl rfl

theorem length_add_remaining_le
    {plan : Plan}
    {first last : Moment}
    {schedule : List Actor}
    (consistent : plan.Consistent first)
    (followed : plan.follow? first schedule = some last) :
    schedule.length + plan.remaining last ≤ plan.remaining first := by
  induction schedule generalizing first with
  | nil =>
      obtain rfl := Option.some.inj followed
      simp
  | cons actor rest inductionHypothesis =>
      rw [follow?, Option.bind_eq_some_iff] at followed
      obtain ⟨next, stepped, followed⟩ := followed
      have transition := transition_of_step? stepped
      have fewer := remaining_lt consistent transition
      have later := inductionHypothesis (consistent.step transition) followed
      simp only [List.length_cons]
      omega

/-- No schedule has more than five steps for each function and one to cancel. -/
theorem length_le_of_follow?
    {plan : Plan}
    {canceled : Bool}
    {schedule : List Actor}
    {last : Moment}
    (followed : plan.follow? (plan.initial canceled) schedule = some last) :
    schedule.length ≤ 5 * plan.functions.length + 1 := by
  have bound := length_add_remaining_le (plan.initial_consistent canceled) followed
  have first : plan.remaining (plan.initial canceled) ≤ 5 * plan.functions.length + 1 := by
    have noTasks := allStepsLeft_idle plan.functions
    have flag := Bool.toNat_le (!canceled)
    simp only [remaining, initial, noTasks]
    omega
  omega

/-! ## Schedules do not get stuck -/

/-- A task that takes up room can take a step. -/
theorem taskStep?_isSome
    {plan : Plan}
    {moment : Moment}
    {index : Nat}
    {function : Function Nat}
    {stage : Stage}
    (own : plan.functions[index]? = some function)
    (atStage : moment.stages[index]? = some stage)
    (running : stage.isRunning = true) :
    (plan.taskStep? moment index).isSome = true := by
  cases stage with
  | idle => contradiction
  | returned => contradiction
  | started =>
      simp only [taskStep?, own, atStage]
      split <;> rfl
  | admitted => simp [taskStep?, own, atStage]
  | computed outcome => simp [taskStep?, own, atStage]
  | refused => simp [taskStep?, own, atStage]
  | leaving => simp [taskStep?, own, atStage]

/-- A run that is not done can go on without the caller, if there is room for one
task at least. -/
theorem Consistent.progress
    {plan : Plan}
    {moment : Moment}
    (consistent : plan.Consistent moment)
    (room : 0 < plan.limit)
    (notDone : plan.isDone moment = false) :
    ∃ actor, actor ≠ .caller ∧ (plan.step? moment actor).isSome = true := by
  by_cases quiet : moment.running = 0
  · have notThrough : moment.reached ≠ plan.functions.length := by
      simpa [isDone, quiet] using notDone
    have inside : moment.reached < plan.functions.length :=
      Nat.lt_of_le_of_ne consistent.reached notThrough
    refine ⟨.loop, by simp, ?_⟩
    simp only [step?, loopStep?, List.getElem?_eq_getElem inside]
    split
    · rfl
    · rw [if_pos (quiet ▸ room)]
      rfl
  · obtain ⟨stage, member, running⟩ := List.countP_pos_iff.mp (Nat.pos_of_ne_zero quiet)
    obtain ⟨index, insideStages, atStage⟩ := List.getElem_of_mem member
    have inside : index < plan.functions.length := consistent.stages ▸ insideStages
    refine ⟨.task index, by simp, ?_⟩
    exact taskStep?_isSome (List.getElem?_eq_getElem inside)
      (List.getElem?_eq_some_iff.mpr ⟨insideStages, atStage⟩) running

/-- No schedule is endless, and none gets stuck: as long as a run is not done,
the loop or a task can go on. -/
def Ends
    (plan : Plan)
    (canceled : Bool) : Prop :=
  ∀ {schedule : List Actor} {moment : Moment},
    plan.follow? (plan.initial canceled) schedule = some moment ->
    schedule.length ≤ 5 * plan.functions.length + 1 ∧
      (plan.isDone moment = false ->
        ∃ actor, actor ≠ .caller ∧ (plan.step? moment actor).isSome = true)

theorem ends
    (plan : Plan)
    (canceled : Bool)
    (room : 0 < plan.limit) :
    plan.Ends canceled := by
  intro schedule moment followed
  refine ⟨length_le_of_follow? followed, ?_⟩
  exact (consistent_of_follow? followed).progress room

end Plan
end Run
end CtorScan
