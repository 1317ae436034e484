import CtorScan.Command.Choices
import Mathlib.Data.List.Basic

/-!
# How a command line is read

A command line that is understood gives flags values, one after the other, and then names
inputs.  The choices are those after giving all flags their values in order.  Inputs that
do not look like flags can be added to a command line without changing what it says.
-/

namespace CtorScan
namespace Command

/-! ## Command lines that are understood -/

/-- Reading a command line with the choices so far ends with choices and inputs. -/
inductive Reads :
    Choices -> List String -> Choices -> List String -> Prop
  /-- There are no more arguments. -/
  | done
      {choices : Choices} :
      Reads choices [] choices []
  /-- The inputs begin. -/
  | plain
      {choices : Choices}
      {argument : String}
      {rest : List String}
      (isPlain : Argument.ofText argument = .plain) :
      Reads choices (argument :: rest) choices (argument :: rest)
  /-- The flags are ended explicitly. -/
  | terminator
      {choices : Choices}
      {argument : String}
      {rest : List String}
      (isTerminator : Argument.ofText argument = .terminator) :
      Reads choices (argument :: rest) choices rest
  /-- A switch, with or without a value. -/
  | switch
      {choices next final : Choices}
      {argument name : String}
      {value : Option String}
      {flag : Flag}
      {rest inputs : List String}
      (isFlag : Argument.ofText argument = .flag name value)
      (named : Flag.ofName? name = some flag)
      (isSwitch : flag.isSwitch = true)
      (set : choices.set flag (value.getD "true") = .ok next)
      (later : Reads next rest final inputs) :
      Reads choices (argument :: rest) final inputs
  /-- A flag with its value after an equals sign. -/
  | attached
      {choices next final : Choices}
      {argument name value : String}
      {flag : Flag}
      {rest inputs : List String}
      (isFlag : Argument.ofText argument = .flag name (some value))
      (named : Flag.ofName? name = some flag)
      (needsValue : flag.isSwitch = false)
      (set : choices.set flag value = .ok next)
      (later : Reads next rest final inputs) :
      Reads choices (argument :: rest) final inputs
  /-- A flag with its value in the argument that follows. -/
  | separate
      {choices next final : Choices}
      {argument name value : String}
      {flag : Flag}
      {rest inputs : List String}
      (isFlag : Argument.ofText argument = .flag name none)
      (named : Flag.ofName? name = some flag)
      (needsValue : flag.isSwitch = false)
      (set : choices.set flag value = .ok next)
      (later : Reads next rest final inputs) :
      Reads choices (argument :: value :: rest) final inputs

theorem flagNamed_eq_ok_some_iff
    {name : String}
    {flag : Flag} :
    flagNamed name = .ok (some flag) ↔ Flag.ofName? name = some flag := by
  unfold flagNamed
  split
  · simp_all
  · split <;> simp_all

/-- What is understood is read in one of these ways. -/
theorem reads_of_readArguments
    {choices final : Choices}
    {arguments inputs : List String}
    (read : readArguments choices arguments = .ok (.scan final inputs)) :
    Reads choices arguments final inputs := by
  fun_induction readArguments choices arguments with
  | case1 choices =>
      obtain ⟨rfl, rfl⟩ := Request.scan.inj (Except.ok.inj read)
      exact .done
  | case2 choices argument rest isPlain =>
      obtain ⟨rfl, rfl⟩ := Request.scan.inj (Except.ok.inj read)
      exact .plain isPlain
  | case3 choices argument rest isTerminator =>
      obtain ⟨rfl, rfl⟩ := Request.scan.inj (Except.ok.inj read)
      exact .terminator isTerminator
  | case8 choices argument rest name value isFlag flag named isSwitch next set
      inductionHypothesis =>
      exact .switch isFlag (flagNamed_eq_ok_some_iff.mp named) isSwitch set
        (inductionHypothesis read)
  | case10 choices argument name flag named needsValue value rest next set isFlag
      inductionHypothesis =>
      exact .attached isFlag (flagNamed_eq_ok_some_iff.mp named) (by simpa using needsValue) set
        (inductionHypothesis read)
  | case12 choices argument name flag named needsValue value rest next set isFlag
      inductionHypothesis =>
      exact .separate isFlag (flagNamed_eq_ok_some_iff.mp named) (by simpa using needsValue) set
        (inductionHypothesis read)
  | _ => simp at read

/-- What is read in one of these ways is understood. -/
theorem Reads.readArguments_eq
    {choices final : Choices}
    {arguments inputs : List String}
    (reads : Reads choices arguments final inputs) :
    readArguments choices arguments = .ok (.scan final inputs) := by
  induction reads with
  | done => rfl
  | plain isPlain => simp only [readArguments, isPlain]
  | terminator isTerminator => simp only [readArguments, isTerminator]
  | switch isFlag named isSwitch set later inductionHypothesis =>
      simp only [readArguments, isFlag, flagNamed_eq_ok_some_iff.mpr named, isSwitch, set]
      exact inductionHypothesis
  | attached isFlag named needsValue set later inductionHypothesis =>
      simp only [readArguments, isFlag, flagNamed_eq_ok_some_iff.mpr named, needsValue, set]
      exact inductionHypothesis
  | separate isFlag named needsValue set later inductionHypothesis =>
      simp only [readArguments, isFlag, flagNamed_eq_ok_some_iff.mpr named, needsValue, set]
      exact inductionHypothesis

/-- A text that does not begin with a dash is no flag. -/
theorem Argument.ofText_eq_plain
    {text : String}
    (noDash : text.toList.head? ≠ some '-') :
    Argument.ofText text = .plain := by
  unfold Argument.ofText
  split <;> simp_all

/-- Inputs that do not look like flags can be added to flags alone. -/
theorem Reads.append
    {choices final : Choices}
    {arguments : List String}
    (reads : Reads choices arguments final [])
    {inputs : List String}
    (noDash : ∀ input ∈ inputs, input.toList.head? ≠ some '-') :
    Reads choices (arguments ++ inputs) final inputs := by
  generalize empty : [] = none at reads
  induction reads with
  | done =>
      cases inputs with
      | nil => exact .done
      | cons input rest => exact .plain (Argument.ofText_eq_plain (noDash input (by simp)))
  | plain => contradiction
  | terminator isTerminator =>
      subst empty
      exact .terminator isTerminator
  | switch isFlag named isSwitch set later inductionHypothesis =>
      exact .switch isFlag named isSwitch set (inductionHypothesis empty)
  | attached isFlag named needsValue set later inductionHypothesis =>
      exact .attached isFlag named needsValue set (inductionHypothesis empty)
  | separate isFlag named needsValue set later inductionHypothesis =>
      exact .separate isFlag named needsValue set (inductionHypothesis empty)

/-! ## Flags and their values -/

/-- The flags of a command line with the values they are given, in order.  A switch
without a value is given the word for true. -/
def occurrences : List String -> List (Flag × String)
  | [] => []
  | argument :: rest =>
      match Argument.ofText argument with
      | .flag name value =>
          match Flag.ofName? name with
          | none => []
          | some flag =>
              match value, rest with
              | some value, rest => (flag, value) :: occurrences rest
              | none, rest =>
                  if flag.isSwitch then
                    (flag, "true") :: occurrences rest
                  else
                    match rest with
                    | [] => []
                    | value :: rest => (flag, value) :: occurrences rest
      | _ => []

/-- The value that a flag is given last, if it is given one. -/
def lastValue?
    (flag : Flag)
    (arguments : List String) : Option String :=
  (occurrences arguments).reverse.lookup flag

/-- Give flags their values, one after the other. -/
def Choices.setAll
    (choices : Choices) : List (Flag × String) -> Except UsageError Choices
  | [] => .ok choices
  | (flag, value) :: rest =>
      match choices.set flag value with
      | .error error => .error error
      | .ok next => next.setAll rest

/-- The choices are those after all flags got their values. -/
theorem Reads.setAll_occurrences
    {choices final : Choices}
    {arguments inputs : List String}
    (reads : Reads choices arguments final inputs) :
    choices.setAll (occurrences arguments) = .ok final := by
  induction reads with
  | done => rfl
  | plain isPlain => simp [occurrences, isPlain, Choices.setAll]
  | terminator isTerminator => simp [occurrences, isTerminator, Choices.setAll]
  | @switch _ _ _ _ _ value _ _ _ isFlag named isSwitch set later inductionHypothesis =>
      cases value with
      | none =>
          rw [Option.getD_none] at set
          simp only [occurrences, isFlag, named, isSwitch, if_true, Choices.setAll, set]
          exact inductionHypothesis
      | some value =>
          rw [Option.getD_some] at set
          simp only [occurrences, isFlag, named, Choices.setAll, set]
          exact inductionHypothesis
  | attached isFlag named needsValue set later inductionHypothesis =>
      simp only [occurrences, isFlag, named, Choices.setAll, set]
      exact inductionHypothesis
  | separate isFlag named needsValue set later inductionHypothesis =>
      simp only [occurrences, isFlag, named, needsValue, Bool.false_eq_true, if_false,
        Choices.setAll, set]
      exact inductionHypothesis

end Command
end CtorScan
