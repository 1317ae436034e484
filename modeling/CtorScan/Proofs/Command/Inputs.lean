import CtorScan.Command.Basic
import CtorScan.Proofs.Command.Layers
import CtorScan.Proofs.Constructor.Scan
import CtorScan.Proofs.Run.Writing

/-!
# Several inputs

A command handles its inputs one after the other, and each as if it were the only one.  It
stops after the first one that fails.  The sink that all inputs share is the same after
each of them, because its writer takes everything and the passes find nothing that cannot
be written.  The commands that are compared visit the entries of the settings file in
orders of their own, so the file has to say the same in all of them.
-/

namespace CtorScan

/-! ## Runs that share a sink -/

namespace Pass.Registry

theorem build?_eq_of_lookup_standard
    {name : String}
    {entry : Registered}
    (registered : standard.lookup name = .ok entry) :
    constructorCallsEntry.build? = some entry.build := by
  unfold lookup at registered
  split at registered
  · rename_i found here
    obtain rfl := Except.ok.inj registered
    have member : found ∈ standard.entries := List.mem_of_find?_eq_some here
    obtain rfl := List.mem_singleton.mp member
    rfl
  · contradiction

end Pass.Registry

namespace Run

/-- A run of a pass that is always there leaves the sink for a format as it is, and
succeeds whatever it finds. -/
theorem run_of_registered
    {pass : String}
    {entry : Pass.Registered}
    (registered : Pass.Registry.standard.lookup pass = .ok entry)
    (marker : String)
    (format : Report.Format)
    (program : Program) :
    let result := run .standard pass marker false (.ofFormat .reliable format) program
    result.error = none ∧ result.sink = .ofFormat .reliable format := by
  have build := Option.some.inj (Pass.Registry.build?_eq_of_lookup_standard registered)
  have valid : ∀ record ∈ (outcomes (entry.build marker) program).flatMap
      fun outcome => outcome.2.records, record.kind ∈ Kind.named := by
    intro record member
    obtain ⟨outcome, among, found⟩ := List.mem_flatMap.mp member
    obtain ⟨function, -, rfl⟩ := List.mem_map.mp among
    rw [← build] at found
    exact Marker.kind_mem_named_of_mem_scan found
  have taken := Report.Sink.writeAll?_ofFormat format (Report.Writer.acceptAll?_reliable _) valid
  obtain ⟨lastSink, wrote⟩ := wrote_writeOutcomes
    ⟨{ Summary.zero with pass := pass }, [], .ofFormat .reliable format, none⟩ rfl taken
  obtain ⟨noError, sameSink, -⟩ := finish_of_no_error entry.mutates program.name wrote.error
  simp only [run, registered]
  exact ⟨noError, sameSink.trans lastSink⟩

/-- A run fails only because there is no such pass. -/
theorem run_standard
    (pass marker : String)
    (format : Report.Format)
    (program : Program) :
    let result := run .standard pass marker false (.ofFormat .reliable format) program
    (result.error = none ↔ ∃ entry, Pass.Registry.standard.lookup pass = .ok entry) ∧
      result.sink = .ofFormat .reliable format := by
  cases registered : Pass.Registry.standard.lookup pass with
  | error error => simp [run, registered]
  | ok entry =>
      obtain ⟨noError, sameSink⟩ := run_of_registered registered marker format program
      exact ⟨⟨fun _ => ⟨entry, rfl⟩, fun _ => noError⟩, sameSink⟩

end Run

/-- The settings have a pass, a number of jobs and a format that can be used. -/
structure Settings.Valid (settings : Settings) : Prop where
  /-- A pass is named. -/
  pass : settings.pass ≠ ""
  /-- The number of jobs is not negative. -/
  jobs : 0 ≤ settings.jobs
  /-- The format is one of those that are there. -/
  format : settings.format ∈ Report.Format.names

theorem Settings.fault?_eq_none_iff (settings : Settings) :
    settings.fault? = none ↔ settings.Valid := by
  unfold fault?
  split_ifs with emptyPass negative known
  · exact ⟨nofun, fun valid => absurd emptyPass valid.pass⟩
  · exact ⟨nofun, fun valid => absurd valid.jobs (Int.not_le.mpr negative)⟩
  · exact ⟨fun _ => ⟨emptyPass, Int.not_lt.mp negative, known⟩, fun _ => rfl⟩
  · exact ⟨nofun, fun valid => absurd valid.format known⟩

theorem Report.Format.exists_of_mem_names
    {name : String}
    (known : name ∈ names) :
    ∃ format, ofName? name = some format := by
  have all : ∀ name ∈ names, (ofName? name).isSome = true := by decide +kernel
  exact Option.isSome_iff_exists.mp (all name known)

namespace Command

/-! ## One input -/

/-- The input is in a known encoding, can be read, and holds a program. -/
def Loads
    (access : Files.Access)
    (input : String) : Prop :=
  ∃ encoding text program, Encoding.ofPath? input = some encoding ∧ access input = .ok text ∧
    programOfText encoding input text = .ok program

theorem loads_iff
    (access : Files.Access)
    (input : String) :
    Loads access input ↔ ∃ program, loadProgram access input = .ok program := by
  unfold Loads loadProgram
  cases Encoding.ofPath? input with
  | none => simp
  | some encoding =>
      cases access input with
      | error fault => simp
      | ok text => simp

theorem loads_of_isOk
    {access : Files.Access}
    {input : String}
    (loaded : (loadProgram access input).isOk = true) :
    Loads access input := by
  rw [loads_iff]
  cases found : loadProgram access input with
  | error error => simp [found, Except.isOk, Except.toBool] at loaded
  | ok program => exact ⟨program, rfl⟩

/-- What the command leaves behind if this is its only input. -/
def Step.result (step : Step) : Result :=
  ⟨if step.succeeded then Result.success else Result.failure, "", step.errors⟩

theorem Step.status_result_eq_zero_iff (step : Step) :
    step.result.status = 0 ↔ step.succeeded = true := by
  cases succeeded : step.succeeded <;> simp [result, succeeded, Result.success, Result.failure]

theorem Step.status_result_eq_or (step : Step) :
    step.result.status = 0 ∨ step.result.status = 2 := by
  cases succeeded : step.succeeded <;> simp [result, succeeded, Result.success, Result.failure]

/-- An input succeeds if it holds a program and the pass is there; the sink stays. -/
theorem scanInput_standard
    (access : Files.Access)
    (wording : Wording)
    (settings : Settings)
    (format : Report.Format)
    (input : String) :
    let step := scanInput ⟨access, wording, false, .standard, settings⟩
      (.ofFormat .reliable format) input
    (step.succeeded = true ↔ Loads access input ∧
      ∃ entry, Pass.Registry.standard.lookup settings.pass = .ok entry) ∧
      step.sink = .ofFormat .reliable format := by
  intro step
  rw [loads_iff]
  cases loaded : loadProgram access input with
  | error error =>
      have failed : step = ⟨"Failed to load " ++ input ++ ": " ++
          error.message wording ++ "\n", .ofFormat .reliable format, false⟩ := by
        simp only [step, scanInput, loaded]
      simp [failed]
  | ok program =>
      obtain ⟨succeeds, sameSink⟩ :=
        Run.run_standard settings.pass settings.marker format program
      have ran : step.succeeded = (run .standard settings.pass settings.marker false
            (.ofFormat .reliable format) program).error.isNone ∧
          step.sink = (run .standard settings.pass settings.marker false
            (.ofFormat .reliable format) program).sink := by
        simp only [step, scanInput, loaded]
        split <;> simp_all
      rw [ran.1, ran.2, Option.isNone_iff_eq_none, succeeds, sameSink]
      simp

/-! ## All inputs -/

/-- A result is put together from those for single inputs, up to the first that fails: it
has the status of the last of these and the error outputs of all of them. -/
def OneByOne
    (alone : String -> Result)
    (inputs : List String)
    (all : Result) : Prop :=
  ∃ early last late, inputs = early ++ last :: late ∧
    (∀ input ∈ early, (alone input).status = 0) ∧
    ((alone last).status ≠ 0 ∨ late = []) ∧
    all.status = (alone last).status ∧
    all.errors = String.join ((early ++ [last]).map fun input => (alone input).errors) ∧
    all.output = ""

namespace OneByOne

theorem status_eq_zero_iff
    {alone : String -> Result}
    {inputs : List String}
    {all : Result}
    (composed : OneByOne alone inputs all) :
    all.status = 0 ↔ ∀ input ∈ inputs, (alone input).status = 0 := by
  obtain ⟨early, last, late, rfl, before, ends, status, -⟩ := composed
  rw [status]
  constructor
  · intro succeeded
    obtain rfl := ends.resolve_left (not_not.mpr succeeded)
    intro input member
    rcases List.mem_append.mp member with inEarly | isLast
    · exact before input inEarly
    · rw [List.mem_singleton.mp isLast, succeeded]
  · intro succeed
    exact succeed last (by simp)

theorem exists_status_eq
    {alone : String -> Result}
    {inputs : List String}
    {all : Result}
    (composed : OneByOne alone inputs all) :
    ∃ input ∈ inputs, all.status = (alone input).status := by
  obtain ⟨early, last, late, rfl, -, -, status, -⟩ := composed
  exact ⟨last, by simp, status⟩

theorem errors_single
    {alone : String -> Result}
    {input : String}
    {all : Result}
    (composed : OneByOne alone [input] all) :
    all.errors = (alone input).errors := by
  obtain ⟨early, last, late, parts, -, -, -, errors, -⟩ := composed
  obtain ⟨rfl, same⟩ := List.singleton_eq_append_iff.mp parts |>.resolve_right (by simp)
  obtain ⟨rfl, rfl⟩ := List.cons.inj same
  simpa using errors

/-- Only the results for the given inputs count. -/
theorem congr
    {alone other : String -> Result}
    {inputs : List String}
    {all : Result}
    (composed : OneByOne alone inputs all)
    (same : ∀ input ∈ inputs, alone input = other input) :
    OneByOne other inputs all := by
  obtain ⟨early, last, late, rfl, before, ends, status, errors, output⟩ := composed
  have sameLast : alone last = other last := same last (by simp)
  have sameEarly : ∀ input ∈ early, alone input = other input :=
    fun input member => same input (List.mem_append_left _ member)
  refine ⟨early, last, late, rfl, ?_, sameLast ▸ ends, sameLast ▸ status, ?_, output⟩
  · intro input member
    rw [← sameEarly input member]
    exact before input member
  · rw [errors]
    congr 1
    apply List.map_congr_left
    intro input member
    rcases List.mem_append.mp member with inEarly | isLast
    · rw [sameEarly input inEarly]
    · rw [List.mem_singleton.mp isLast, sameLast]

end OneByOne

theorem scanInputs_single
    (setup : Setup)
    (sink : Report.Sink)
    (input : String) :
    scanInputs setup sink "" [input] = (scanInput setup sink input).result := by
  simp only [scanInputs, Step.result]
  split <;> simp_all [Result.fail]

/-- What was shown before is shown in front of the rest. -/
theorem scanInputs_shown
    (setup : Setup)
    (sink : Report.Sink)
    (shown : String)
    (inputs : List String) :
    scanInputs setup sink shown inputs =
      { scanInputs setup sink "" inputs with
        errors := shown ++ (scanInputs setup sink "" inputs).errors } := by
  induction inputs generalizing sink shown with
  | nil => simp [scanInputs]
  | cons input rest inductionHypothesis =>
      simp only [scanInputs]
      split
      · rw [inductionHypothesis, inductionHypothesis _ ("" ++ _)]
        simp [String.append_assoc]
      · simp [Result.fail]

/-- Inputs that leave the sink as it is are handled like single ones. -/
theorem oneByOne_scanInputs
    {setup : Setup}
    {sink : Report.Sink}
    (kept : ∀ input, (scanInput setup sink input).sink = sink)
    {inputs : List String}
    (given : inputs ≠ []) :
    OneByOne (fun input => (scanInput setup sink input).result) inputs
      (scanInputs setup sink "" inputs) := by
  induction inputs with
  | nil => contradiction
  | cons first rest inductionHypothesis =>
      by_cases succeeded : (scanInput setup sink first).succeeded = true
      · have status := (Step.status_result_eq_zero_iff _).mpr succeeded
        cases rest with
        | nil =>
            refine ⟨[], first, [], rfl, by simp, Or.inr rfl, ?_⟩
            simp [scanInputs_single, Step.result]
        | cons second others =>
            have unfolded : scanInputs setup sink "" (first :: second :: others) =
                scanInputs setup sink (scanInput setup sink first).errors (second :: others) := by
              rw [scanInputs]
              simp [succeeded, kept]
            rw [unfolded, scanInputs_shown]
            obtain ⟨early, last, late, parts, before, ends, sameStatus, errors, output⟩ :=
              inductionHypothesis (by simp)
            refine ⟨first :: early, last, late, by rw [parts]; rfl, ?_, ends, sameStatus, ?_,
              output⟩
            · exact List.forall_mem_cons.mpr ⟨status, before⟩
            · simp only [errors]
              simp [String.join_cons, Step.result]
      · refine ⟨[], first, rest, rfl, by simp, Or.inl ?_, ?_⟩
        · rwa [Ne, Step.status_result_eq_zero_iff]
        · simp [scanInputs, succeeded, Step.result, Result.fail]

/-- The settings that flags and file give, if they are valid. -/
structure Prepared
    (around : Surroundings)
    (choices : Choices)
    (settings : Settings) : Prop where
  /-- The file loads, and the flags are put on top of it. -/
  loads : ∃ loaded, loadSettings around choices.config = .ok loaded ∧
    choices.override loaded = settings
  /-- The settings are valid. -/
  valid : settings.Valid

theorem Prepared.unique
    {around : Surroundings}
    {choices : Choices}
    {first second : Settings}
    (preparedFirst : Prepared around choices first)
    (preparedSecond : Prepared around choices second) :
    first = second := by
  obtain ⟨loaded, loads, rfl⟩ := preparedFirst.loads
  obtain ⟨loadedAgain, loadsAgain, rfl⟩ := preparedSecond.loads
  rw [Except.ok.inj (loads.symm.trans loadsAgain)]

/-- With valid settings, the inputs decide. -/
theorem scan_of_prepared
    {around : Surroundings}
    {choices : Choices}
    {settings : Settings}
    (notListed : choices.list = false)
    (prepared : Prepared around choices settings) :
    ∃ format, ∀ {inputs : List String}, inputs ≠ [] ->
      scan around false choices inputs =
        scanInputs ⟨around.access, around.wording, false, .standard, settings⟩
          (.ofFormat .reliable format) "" inputs := by
  obtain ⟨loaded, loads, rfl⟩ := prepared.loads
  obtain ⟨format, known⟩ := Report.Format.exists_of_mem_names prepared.valid.format
  have noFault := (Settings.fault?_eq_none_iff _).mpr prepared.valid
  refine ⟨format, fun given => ?_⟩
  simp [scan, notListed, loads, scanWith, noFault, given, known]

/-- Without valid settings, the inputs do not count. -/
theorem scan_of_not_prepared
    {around : Surroundings}
    {choices : Choices}
    (notListed : choices.list = false)
    (unprepared : ¬ ∃ settings, Prepared around choices settings) :
    ∃ message, ∀ inputs, scan around false choices inputs = .fail message := by
  cases loads : loadSettings around choices.config with
  | error error =>
      refine ⟨error.message around.wording.toml ++ "\n", fun inputs => ?_⟩
      simp [scan, notListed, loads]
  | ok loaded =>
      cases checked : (choices.override loaded).fault? with
      | none =>
          have valid := (Settings.fault?_eq_none_iff _).mp checked
          exact absurd ⟨_, ⟨loaded, loads, rfl⟩, valid⟩ unprepared
      | some fault =>
          refine ⟨fault.message ++ "\n", fun inputs => ?_⟩
          simp [scan, notListed, loads, scanWith, checked]

/-- Definite settings files make the order in which their entries are visited irrelevant. -/
theorem scan_of_definite
    {around : Surroundings}
    {choices : Choices}
    (definite : Definite around.access choices.config)
    (order : Toml.Order)
    (inputs : List String) :
    scan { around with order := order } false choices inputs =
      scan around false choices inputs := by
  simp only [scan, loadSettings_of_definite definite order]

/-- The inputs are handled one by one, and succeed under the conditions for each of them. -/
theorem scan_of_inputs
    (around : Surroundings)
    {choices : Choices}
    (notListed : choices.list = false)
    {inputs : List String}
    (given : inputs ≠ []) :
    let all := scan around false choices inputs
    OneByOne (fun input => scan around false choices [input]) inputs all ∧
      (all.status = 0 ∨ all.status = 2) ∧
      (all.status = 0 ↔
        ∃ settings, Prepared around choices settings ∧
          (∃ entry, Pass.Registry.standard.lookup settings.pass = .ok entry) ∧
          ∀ input ∈ inputs, Loads around.access input) := by
  intro all
  by_cases prepared : ∃ settings, Prepared around choices settings
  · obtain ⟨settings, prepared⟩ := prepared
    obtain ⟨format, scanned⟩ := scan_of_prepared notListed prepared
    have composed := oneByOne_scanInputs
      (fun input => (scanInput_standard around.access around.wording settings format input).2) given
    rw [← scanned given] at composed
    refine ⟨composed.congr ?_, ?_, ?_⟩
    · intro input member
      rw [scanned (by simp), scanInputs_single]
    · obtain ⟨input, -, status⟩ := composed.exists_status_eq
      rw [status]
      exact Step.status_result_eq_or _
    · rw [composed.status_eq_zero_iff]
      simp only [Step.status_result_eq_zero_iff, scanInput_standard]
      constructor
      · intro succeed
        obtain ⟨first, rest, rfl⟩ := List.exists_cons_of_ne_nil given
        exact ⟨settings, prepared, (succeed first (by simp)).2,
          fun input member => (succeed input member).1⟩
      · rintro ⟨other, preparedOther, registered, loads⟩ input member
        obtain rfl := prepared.unique preparedOther
        exact ⟨loads input member, registered⟩
  · obtain ⟨message, failed⟩ := scan_of_not_prepared notListed prepared
    obtain ⟨first, rest, rfl⟩ := List.exists_cons_of_ne_nil given
    simp only [all, failed]
    refine ⟨⟨[], first, rest, rfl, by simp, Or.inl ?_, rfl, ?_, rfl⟩, Or.inr rfl, ?_⟩
    · simp [Result.fail, Result.failure]
    · simp
    · constructor
      · exact fun succeeded => absurd succeeded (Nat.succ_ne_zero 1)
      · rintro ⟨settings, isPrepared, -⟩
        exact absurd ⟨settings, isPrepared⟩ prepared

/-- What flags without inputs ask for is done on the inputs after them. -/
theorem execute_append
    {flags : List String}
    {choices : Choices}
    (complete : Request.ofArguments flags = .ok (.scan choices []))
    (around : Surroundings)
    {inputs : List String}
    (noDash : ∀ input ∈ inputs, input.toList.head? ≠ some '-') :
    execute around false (flags ++ inputs) = scan around false choices inputs := by
  have reads := (reads_of_readArguments complete).append noDash
  simp only [execute, Request.ofArguments, reads.readArguments_eq]

/-- Flags without inputs. -/
def sampleFlags : List String :=
  ["-v", "-jobs", "2", "-config", "c.toml"]

/-- A settings file, and a file in which a constructor is called. -/
def describedAccess : Files.Access := fun path =>
  if path = "c.toml" then
    .ok "format = \"json\"\nMarker = \"A\"\n"
  else if path = "a.yaml" then
    .ok "functions:\n- name: AC1\n- name: f\n  blocks:\n  - instrs:\n    - call: AC1\n"
  else
    .error (.missing path)

/-- The entries of the settings file are visited as they are written. -/
def describedAround : Surroundings :=
  ⟨describedAccess, .written, .plain⟩

/-- A settings file with two markers, one with two mistyped settings, and a program in
which a function is called. -/
def indefiniteAccess : Files.Access := fun path =>
  if path = "c.toml" then .ok "marker = \"A\"\nMARKER = \"B\"\n"
  else if path = "d.toml" then .ok "marker = 1\njobs = \"\"\n"
  else if path = "a.yaml" then
    .ok "functions:\n- name: A\n- name: f\n  blocks:\n  - instrs:\n    - call: A\n"
  else .error (.missing path)

/-- Words that tell the key of a mistyped value. -/
def tellingWords : Wording where
  toml
    | .malformed _ => "malformed"
    | .mistyped _ key => key ++ " has the wrong type"
  assembly _ := ""
  yaml _ := ""

/-- Two commands with a settings file over the same input disagree when its settings are
visited in another order. -/
def OrderMatters (path : String) : Prop :=
  ¬ OneByOne
    (fun input => execute ⟨indefiniteAccess, .reversed, tellingWords⟩ false
      ["-config", path, input])
    ["a.yaml"]
    (execute ⟨indefiniteAccess, .written, tellingWords⟩ false ["-config", path, "a.yaml"])

theorem orderMatters_of_errors
    {path : String}
    (apart : (execute ⟨indefiniteAccess, .written, tellingWords⟩ false
        ["-config", path, "a.yaml"]).errors ≠
      (execute ⟨indefiniteAccess, .reversed, tellingWords⟩ false
        ["-config", path, "a.yaml"]).errors) :
    OrderMatters path :=
  fun composed => apart composed.errors_single

end Command
end CtorScan
