import CtorScan.Command.Basic
import CtorScan.Proofs.Command.Flags

/-!
# Where settings come from

Each setting is taken from the last of its flags, else from its key in the settings file,
else from the defaults, whatever the other settings are.  What counts is that a flag or a
key is there, not its value.  The order in which the entries of the file are visited does
not count, as long as no setting is named by two keys.  A settings file with a key that
names no setting is refused before any input is read.
-/

namespace CtorScan
namespace Settings

/-! ## Keys of settings files -/

theorem sameName_iff
    {left right : String} :
    sameName left right = true ↔ left.toList.map foldChar = right.toList.map foldChar := by
  simp [sameName]

/-- A key names at most one setting. -/
theorem name?_eq_some_iff
    {key name : String} :
    name? key = some name ↔ name ∈ names ∧ sameName name key = true := by
  have distinct : ∀ first ∈ names, ∀ second ∈ names,
      first.toList.map foldChar = second.toList.map foldChar -> first = second := by
    decide +kernel
  constructor
  · intro found
    exact ⟨List.mem_of_find?_eq_some found, by simpa using List.find?_some found⟩
  · rintro ⟨known, same⟩
    cases found : name? key with
    | none =>
        have notSame := List.find?_eq_none.mp found name known
        contradiction
    | some other =>
        have otherKnown := List.mem_of_find?_eq_some found
        have otherSame : sameName other key = true := by simpa using List.find?_some found
        rw [distinct other otherKnown name known
          ((sameName_iff.mp otherSame).trans (sameName_iff.mp same).symm)]

/-- The item under the key that names a setting. -/
def fileItem?
    (name : String)
    (entries : Toml.Entries) : Option Toml.Item :=
  (List.find? (fun entry => sameName name entry.1) entries).map Prod.snd

/-- No setting is named by two keys. -/
def SpelledOnce (entries : Toml.Entries) : Prop :=
  ∀ name ∈ names, (entries.filter fun entry => sameName name entry.1).length ≤ 1

instance (entries : Toml.Entries) : Decidable (SpelledOnce entries) :=
  inferInstanceAs (Decidable (∀ name ∈ names, _))

/-- The key names a setting. -/
def Known (key : Toml.Key) : Prop :=
  ∃ spelled, key = [spelled] ∧ ∃ name ∈ names, sameName name spelled = true

/-- What a text in a file says. -/
def textOf? : Toml.Item -> Option String
  | .leaf (.text value) => some value
  | _ => none

/-- What a whole number in a file says. -/
def integerOf? : Toml.Item -> Option Int
  | .leaf (.integer value) => some value
  | _ => none

/-- What a truth value in a file says. -/
def boolOf? : Toml.Item -> Option Bool
  | .leaf (.bool value) => some value
  | _ => none

/-- The item is of the type of the setting: a whole number, a truth value or a text. -/
def fits : String -> Toml.Item -> Bool
  | "jobs", item => (integerOf? item).isSome
  | "verbose", item => (boolOf? item).isSome
  | _, item => (textOf? item).isSome

/-- The entry names a setting and does not have its type. -/
def isMistyped (entry : String × Toml.Item) : Bool :=
  names.any fun name => sameName name entry.1 && !fits name entry.2

/-- At most one entry is mistyped. -/
def MistypedOnce (entries : Toml.Entries) : Prop :=
  (entries.filter isMistyped).length ≤ 1

instance (entries : Toml.Entries) : Decidable (MistypedOnce entries) :=
  inferInstanceAs (Decidable (_ ≤ _))

/-- Storing an item changes the setting that it is for, and no other. -/
inductive Stores
    (settings : Settings) : String -> Toml.Item -> Settings -> Prop
  /-- The pass is a text. -/
  | pass (value : String) :
      Stores settings "pass" (.leaf (.text value)) { settings with pass := value }
  /-- The marker is a text. -/
  | marker (value : String) :
      Stores settings "marker" (.leaf (.text value)) { settings with marker := value }
  /-- The number of jobs is a whole number. -/
  | jobs (value : Int) :
      Stores settings "jobs" (.leaf (.integer value)) { settings with jobs := value }
  /-- The format is a text. -/
  | format (value : String) :
      Stores settings "format" (.leaf (.text value)) { settings with format := value }
  /-- Whether to log details is a truth value. -/
  | verbose (value : Bool) :
      Stores settings "verbose" (.leaf (.bool value)) { settings with verbose := value }

theorem stores_of_store?
    {settings after : Settings}
    {name : String}
    {item : Toml.Item}
    (stored : settings.store? name item = some after) :
    Stores settings name item after := by
  unfold store? at stored
  split at stored
  · exact Option.some.inj stored ▸ .pass _
  · exact Option.some.inj stored ▸ .marker _
  · exact Option.some.inj stored ▸ .jobs _
  · exact Option.some.inj stored ▸ .format _
  · exact Option.some.inj stored ▸ .verbose _
  · contradiction

/-- An item can be stored exactly if it is of the right type. -/
theorem store?_eq_none_iff
    (settings : Settings)
    {name : String}
    (known : name ∈ names)
    (item : Toml.Item) :
    settings.store? name item = none ↔ fits name item = false := by
  simp only [names, List.mem_cons, List.not_mem_nil, or_false] at known
  rcases known with rfl | rfl | rfl | rfl | rfl <;> cases item with
  | leaf value => cases value <;> simp [store?, fits, textOf?, integerOf?, boolOf?]
  | table => simp [store?, fits, textOf?, integerOf?, boolOf?]
  | tables => simp [store?, fits, textOf?, integerOf?, boolOf?]

theorem isMistyped_of_name?
    {key name : String}
    (named : name? key = some name)
    (item : Toml.Item) :
    isMistyped (key, item) = !fits name item := by
  obtain ⟨known, same⟩ := name?_eq_some_iff.mp named
  rw [Bool.eq_iff_iff, isMistyped, List.any_eq_true]
  constructor
  · rintro ⟨other, otherKnown, wrong⟩
    obtain ⟨otherSame, wrong⟩ := Bool.and_eq_true_iff.mp wrong
    rwa [Option.some.inj (named.symm.trans (name?_eq_some_iff.mpr ⟨otherKnown, otherSame⟩))]
  · exact fun wrong => ⟨name, known, Bool.and_eq_true_iff.mpr ⟨same, wrong⟩⟩

theorem isMistyped_of_name?_none
    {key : String}
    (unnamed : name? key = none)
    (item : Toml.Item) :
    isMistyped (key, item) = false := by
  rw [isMistyped, List.any_eq_false]
  intro name known
  have different := List.find?_eq_none.mp unnamed name known
  simp [different]

/-- Storing ends at the first mistyped entry, and only there. -/
theorem storeAll_eq_error_iff
    (settings : Settings)
    (entries : Toml.Entries)
    (key : String) :
    settings.storeAll entries = .error key ↔
      (List.find? isMistyped entries).map Prod.fst = some key := by
  induction entries generalizing settings with
  | nil => simp [storeAll]
  | cons first rest inductionHypothesis =>
      obtain ⟨own, item⟩ := first
      rw [List.find?_cons]
      cases named : name? own with
      | none =>
          simp only [storeAll, named, isMistyped_of_name?_none named]
          exact inductionHypothesis settings
      | some name =>
          have known := (name?_eq_some_iff.mp named).1
          simp only [storeAll, named, isMistyped_of_name? named]
          cases stored : settings.store? name item with
          | none => simp [(store?_eq_none_iff settings known item).mp stored]
          | some after =>
              have fitting : fits name item = true := by
                rw [← Bool.not_eq_false, ← store?_eq_none_iff settings known item, stored]
                simp
              simpa [fitting] using inductionHypothesis after

/-- An entry that names a setting is stored before the entries after it. -/
theorem storeAll_cons_eq_ok
    {settings after : Settings}
    {key name : String}
    {item : Toml.Item}
    {rest : Toml.Entries}
    (named : name? key = some name)
    (stored : settings.storeAll ((key, item) :: rest) = .ok after) :
    ∃ next, settings.store? name item = some next ∧ next.storeAll rest = .ok after := by
  simp only [storeAll, named] at stored
  cases storedFirst : settings.store? name item with
  | none => simp [storedFirst] at stored
  | some next => exact ⟨next, rfl, by simpa [storedFirst] using stored⟩

/-- The only element that passes a test is found in whatever order the elements are. -/
theorem find?_eq_of_perm
    {test : α -> Bool}
    {first second : List α}
    (perm : first.Perm second)
    (once : (first.filter test).length ≤ 1) :
    first.find? test = second.find? test := by
  have filtered := perm.filter test
  rw [← List.head?_filter, ← List.head?_filter]
  generalize second.filter test = others at filtered
  match passing : first.filter test, once with
  | [], _ => rw [passing] at filtered; rw [filtered.nil_eq]
  | [only], _ => rw [passing] at filtered; rw [List.singleton_perm.mp filtered]
  | _ :: _ :: _, once => simp at once

theorem SpelledOnce.perm
    {first second : Toml.Entries}
    (once : SpelledOnce first)
    (perm : first.Perm second) :
    SpelledOnce second := by
  intro name known
  rw [← (perm.filter fun entry => sameName name entry.1).length_eq]
  exact once name known

theorem SpelledOnce.fileItem?_eq
    {first second : Toml.Entries}
    (once : SpelledOnce first)
    (perm : first.Perm second)
    {name : String}
    (known : name ∈ names) :
    fileItem? name first = fileItem? name second := by
  rw [fileItem?, fileItem?, find?_eq_of_perm perm (once name known)]

end Settings

namespace Command

/-- Giving a flag its value changes what the flag is for, and nothing else. -/
inductive Sets
    (choices : Choices) : Flag -> String -> Choices -> Prop
  /-- Any text is a path. -/
  | config (value : String) :
      Sets choices .config value { choices with config := value }
  /-- Any text is a format. -/
  | format (value : String) :
      Sets choices .format value { choices with format := some value }
  /-- The number of jobs is a number. -/
  | jobs
      {value : String}
      {jobs : Int}
      (read : Number.readSigned value.toList = .ok jobs) :
      Sets choices .jobs value { choices with jobs := some jobs }
  /-- Listing is a switch. -/
  | list
      {value : String}
      {truth : Bool}
      (read : truth? value = some truth) :
      Sets choices .list value { choices with list := truth }
  /-- Any text is a marker. -/
  | marker (value : String) :
      Sets choices .marker value { choices with marker := some value }
  /-- Any text is a pass. -/
  | pass (value : String) :
      Sets choices .pass value { choices with pass := some value }
  /-- Logging details is a switch. -/
  | verbose
      {value : String}
      {truth : Bool}
      (read : truth? value = some truth) :
      Sets choices .verbose value { choices with verbose := some truth }

theorem truth?_of_map_readTruth
    {flag : Flag}
    {value : String}
    {change : Bool -> Choices}
    {after : Choices}
    (read : (readTruth flag value).map change = .ok after) :
    ∃ truth, truth? value = some truth ∧ change truth = after := by
  unfold readTruth at read
  split at read
  · rename_i truth found
    exact ⟨truth, found, Except.ok.inj read⟩
  · contradiction

theorem sets_of_set
    {choices after : Choices}
    {flag : Flag}
    {value : String}
    (set : choices.set flag value = .ok after) :
    Sets choices flag value after := by
  cases flag with
  | config => exact Except.ok.inj set ▸ .config value
  | format => exact Except.ok.inj set ▸ .format value
  | jobs =>
      simp only [Choices.set] at set
      split at set
      · contradiction
      · rename_i jobs read
        exact Except.ok.inj set ▸ .jobs read
  | list =>
      obtain ⟨truth, read, rfl⟩ := truth?_of_map_readTruth set
      exact .list read
  | marker => exact Except.ok.inj set ▸ .marker value
  | pass => exact Except.ok.inj set ▸ .pass value
  | verbose =>
      obtain ⟨truth, read, rfl⟩ := truth?_of_map_readTruth set
      exact .verbose read

/-! ## Settings one by one -/

/-- A setting: its key in files, its flag, what items and flags say about it, and where it
is kept in the settings and in the choices. -/
structure Setting (α : Type) where
  /-- The key in settings files. -/
  key : String
  /-- The flag. -/
  flag : Flag
  /-- What the value of the flag says. -/
  ofFlag? : String -> Option α
  /-- What the item under the key says. -/
  ofItem? : Toml.Item -> Option α
  /-- The value in settings. -/
  get : Settings -> α
  /-- The value that was chosen, if one was. -/
  chosen? : Choices -> Option α
  /-- The key is one of those that files may have. -/
  known : key ∈ Settings.names
  /-- Without flags nothing is chosen. -/
  chosen?_none : chosen? .none = none
  /-- The item under the key is stored, and no other item counts. -/
  get_of_stores : ∀ {settings after : Settings} {name : String} {item : Toml.Item},
    settings.Stores name item after ->
    if name = key then ofItem? item = some (get after) else get after = get settings
  /-- The value of the flag is chosen, and no other flag counts. -/
  chosen?_of_sets : ∀ {choices after : Choices} {other : Flag} {value : String},
    Sets choices other value after ->
    if other = flag then ∃ choice, ofFlag? value = some choice ∧ chosen? after = some choice
    else chosen? after = chosen? choices
  /-- What was chosen is used. -/
  get_override : ∀ (choices : Choices) (settings : Settings),
    get (choices.override settings) = (chosen? choices).getD (get settings)

namespace Setting

/-- The pass to run. -/
def pass : Setting String where
  key := "pass"
  flag := .pass
  ofFlag? := some
  ofItem? := Settings.textOf?
  get := Settings.pass
  chosen? := Choices.pass
  known := by decide
  chosen?_none := rfl
  get_of_stores := by
    intro settings after name item stores
    cases stores <;> simp [Settings.textOf?]
  chosen?_of_sets := by
    intro choices after other value sets
    cases sets <;> simp
  get_override := fun _ _ => rfl

/-- The marker of constructor names. -/
def marker : Setting String where
  key := "marker"
  flag := .marker
  ofFlag? := some
  ofItem? := Settings.textOf?
  get := Settings.marker
  chosen? := Choices.marker
  known := by decide
  chosen?_none := rfl
  get_of_stores := by
    intro settings after name item stores
    cases stores <;> simp [Settings.textOf?]
  chosen?_of_sets := by
    intro choices after other value sets
    cases sets <;> simp
  get_override := fun _ _ => rfl

/-- How many functions to look at at once. -/
def jobs : Setting Int where
  key := "jobs"
  flag := .jobs
  ofFlag? := fun value => (Number.readSigned value.toList).toOption
  ofItem? := Settings.integerOf?
  get := Settings.jobs
  chosen? := Choices.jobs
  known := by decide
  chosen?_none := rfl
  get_of_stores := by
    intro settings after name item stores
    cases stores <;> simp [Settings.integerOf?]
  chosen?_of_sets := by
    intro choices after other value sets
    cases sets <;> simp_all [Except.toOption]
  get_override := fun _ _ => rfl

/-- The format of the report. -/
def format : Setting String where
  key := "format"
  flag := .format
  ofFlag? := some
  ofItem? := Settings.textOf?
  get := Settings.format
  chosen? := Choices.format
  known := by decide
  chosen?_none := rfl
  get_of_stores := by
    intro settings after name item stores
    cases stores <;> simp [Settings.textOf?]
  chosen?_of_sets := by
    intro choices after other value sets
    cases sets <;> simp
  get_override := fun _ _ => rfl

/-- Whether to log details. -/
def verbose : Setting Bool where
  key := "verbose"
  flag := .verbose
  ofFlag? := truth?
  ofItem? := Settings.boolOf?
  get := Settings.verbose
  chosen? := Choices.verbose
  known := by decide
  chosen?_none := rfl
  get_of_stores := by
    intro settings after name item stores
    cases stores <;> simp [Settings.boolOf?]
  chosen?_of_sets := by
    intro choices after other value sets
    cases sets <;> simp_all
  get_override := fun _ _ => rfl

/-- The value of a setting by its layers: the last of its flags, else its key in the file,
else the default. -/
inductive FromLayers
    (setting : Setting α)
    (arguments : List String)
    (entries : Toml.Entries) : α -> Prop
  /-- The flag was given, last with a value that says this. -/
  | flag
      {written : String}
      {value : α}
      (given : lastValue? setting.flag arguments = some written)
      (read : setting.ofFlag? written = some value) :
      FromLayers setting arguments entries value
  /-- The flag was not given, and the item in the file says this. -/
  | file
      {item : Toml.Item}
      {value : α}
      (notGiven : lastValue? setting.flag arguments = none)
      (present : Settings.fileItem? setting.key entries = some item)
      (read : setting.ofItem? item = some value) :
      FromLayers setting arguments entries value
  /-- Nothing was said. -/
  | default
      (notGiven : lastValue? setting.flag arguments = none)
      (absent : Settings.fileItem? setting.key entries = none) :
      FromLayers setting arguments entries (setting.get .standard)

/-- The layers say one value. -/
theorem FromLayers.unique
    {setting : Setting α}
    {arguments : List String}
    {entries : Toml.Entries}
    {first second : α}
    (saysFirst : setting.FromLayers arguments entries first)
    (saysSecond : setting.FromLayers arguments entries second) :
    first = second := by
  cases saysFirst <;> cases saysSecond <;> simp_all

/-- The last of the flags decides what is chosen. -/
theorem chosen?_of_setAll
    (setting : Setting α)
    {choices final : Choices}
    {given : List (Flag × String)}
    (set : choices.setAll given = .ok final) :
    (given.reverse.lookup setting.flag = none ->
      setting.chosen? final = setting.chosen? choices) ∧
    ∀ written, given.reverse.lookup setting.flag = some written ->
      ∃ choice, setting.ofFlag? written = some choice ∧ setting.chosen? final = some choice := by
  induction given generalizing choices with
  | nil =>
      obtain rfl := Except.ok.inj set
      simp
  | cons first rest inductionHypothesis =>
      obtain ⟨flag, value⟩ := first
      simp only [Choices.setAll] at set
      split at set
      · contradiction
      rename_i next setFirst
      obtain ⟨untouched, decided⟩ := inductionHypothesis set
      have here := setting.chosen?_of_sets (sets_of_set setFirst)
      rw [List.reverse_cons, List.lookup_append]
      by_cases own : flag = setting.flag
      · rw [if_pos own] at here
        obtain ⟨choice, read, chosen⟩ := here
        have single : [(flag, value)].lookup setting.flag = some value := by simp [own]
        rw [single]
        cases later : rest.reverse.lookup setting.flag with
        | none =>
            refine ⟨by simp, ?_⟩
            rintro _ ⟨⟩
            exact ⟨choice, read, (untouched later).trans chosen⟩
        | some written =>
            refine ⟨by simp, ?_⟩
            rintro _ ⟨⟩
            exact decided written later
      · rw [if_neg own] at here
        have single : [(flag, value)].lookup setting.flag = none := by simp [Ne.symm own]
        rw [single, Option.or_none]
        exact ⟨fun absent => (untouched absent).trans here, decided⟩

/-- The key of a setting decides what is stored. -/
theorem get_of_storeAll
    (setting : Setting α)
    {settings after : Settings}
    {entries : Toml.Entries}
    (once : (entries.filter fun entry => Settings.sameName setting.key entry.1).length ≤ 1)
    (stored : settings.storeAll entries = .ok after) :
    (Settings.fileItem? setting.key entries = none -> setting.get after = setting.get settings) ∧
    ∀ item, Settings.fileItem? setting.key entries = some item ->
      setting.ofItem? item = some (setting.get after) := by
  induction entries generalizing settings with
  | nil =>
      obtain rfl := Except.ok.inj stored
      simp [Settings.fileItem?]
  | cons first rest inductionHypothesis =>
      obtain ⟨key, item⟩ := first
      rw [List.filter_cons] at once
      by_cases own : Settings.sameName setting.key key = true
      · -- The entry names the setting, so no later one does.
        rw [if_pos own, List.length_cons] at once
        have named : Settings.name? key = some setting.key :=
          Settings.name?_eq_some_iff.mpr ⟨setting.known, own⟩
        obtain ⟨next, storedFirst, storedRest⟩ := Settings.storeAll_cons_eq_ok named stored
        have noMore : Settings.fileItem? setting.key rest = none := by
          have empty := List.eq_nil_of_length_eq_zero (Nat.le_zero.mp (Nat.le_of_succ_le_succ once))
          simpa [Settings.fileItem?] using List.filter_eq_nil_iff.mp empty
        have here := setting.get_of_stores (Settings.stores_of_store? storedFirst)
        rw [if_pos rfl] at here
        have kept := (inductionHypothesis (by omega) storedRest).1 noMore
        have found : Settings.fileItem? setting.key ((key, item) :: rest) = some item := by
          simp [Settings.fileItem?, own]
        rw [found, kept]
        exact ⟨by simp, by rintro _ ⟨⟩; exact here⟩
      · rw [if_neg own] at once
        have found : Settings.fileItem? setting.key ((key, item) :: rest) =
            Settings.fileItem? setting.key rest := by
          simp [Settings.fileItem?, own]
        rw [found]
        cases named : Settings.name? key with
        | none =>
            simp only [Settings.storeAll, named] at stored
            exact inductionHypothesis once stored
        | some name =>
            obtain ⟨next, storedFirst, storedRest⟩ := Settings.storeAll_cons_eq_ok named stored
            have here := setting.get_of_stores (Settings.stores_of_store? storedFirst)
            have other : name ≠ setting.key := by
              rintro rfl
              exact own (Settings.name?_eq_some_iff.mp named).2
            rw [if_neg other] at here
            obtain ⟨untouched, decided⟩ := inductionHypothesis once storedRest
            exact ⟨fun absent => (untouched absent).trans here, decided⟩

/-- A setting that is named once has the same value in whatever order entries are stored. -/
theorem get_eq_of_perm
    (setting : Setting α)
    {settings afterFirst afterSecond : Settings}
    {first second : Toml.Entries}
    (once : Settings.SpelledOnce first)
    (perm : first.Perm second)
    (storedFirst : settings.storeAll first = .ok afterFirst)
    (storedSecond : settings.storeAll second = .ok afterSecond) :
    setting.get afterFirst = setting.get afterSecond := by
  obtain ⟨keptFirst, changedFirst⟩ :=
    setting.get_of_storeAll (once setting.key setting.known) storedFirst
  obtain ⟨keptSecond, changedSecond⟩ :=
    setting.get_of_storeAll (once.perm perm setting.key setting.known) storedSecond
  rw [← once.fileItem?_eq perm setting.known] at keptSecond changedSecond
  cases present : Settings.fileItem? setting.key first with
  | none => rw [keptFirst present, keptSecond present]
  | some item =>
      exact Option.some.inj ((changedFirst item present).symm.trans (changedSecond item present))

/-- The flags are put on top of what the file says on top of the defaults, in whatever
order the entries of the file are visited. -/
theorem fromLayers
    (setting : Setting α)
    {arguments : List String}
    {entries : Toml.Entries}
    {choices : Choices}
    {loaded : Settings}
    (order : Toml.Order)
    (set : Choices.none.setAll (occurrences arguments) = .ok choices)
    (once : Settings.SpelledOnce entries)
    (stored : Settings.standard.storeAll (order.arrange entries) = .ok loaded) :
    setting.FromLayers arguments entries (setting.get (choices.override loaded)) := by
  have perm := (order.perm entries).symm
  obtain ⟨notChosen, chosen⟩ := setting.chosen?_of_setAll set
  obtain ⟨kept, changed⟩ :=
    setting.get_of_storeAll (once.perm perm setting.key setting.known) stored
  rw [← once.fileItem?_eq perm setting.known] at kept changed
  rw [setting.get_override]
  cases given : lastValue? setting.flag arguments with
  | some written =>
      obtain ⟨choice, read, chosenChoice⟩ := chosen written given
      rw [chosenChoice]
      exact .flag given read
  | none =>
      rw [notChosen given, setting.chosen?_none, Option.getD_none]
      cases present : Settings.fileItem? setting.key entries with
      | some item => exact .file given present (changed item present)
      | none =>
          rw [kept present]
          exact .default given present

end Setting

/-- All settings have the values of their layers. -/
structure Layered
    (arguments : List String)
    (entries : Toml.Entries)
    (settings : Settings) : Prop where
  /-- The pass. -/
  pass : Setting.pass.FromLayers arguments entries settings.pass
  /-- The marker. -/
  marker : Setting.marker.FromLayers arguments entries settings.marker
  /-- The number of jobs. -/
  jobs : Setting.jobs.FromLayers arguments entries settings.jobs
  /-- The format. -/
  format : Setting.format.FromLayers arguments entries settings.format
  /-- Whether to log details. -/
  verbose : Setting.verbose.FromLayers arguments entries settings.verbose

theorem Layered.unique
    {arguments : List String}
    {entries : Toml.Entries}
    {first second : Settings}
    (layersFirst : Layered arguments entries first)
    (layersSecond : Layered arguments entries second) :
    first = second := by
  cases first
  cases second
  obtain rfl := layersFirst.pass.unique layersSecond.pass
  obtain rfl := layersFirst.marker.unique layersSecond.marker
  obtain rfl := layersFirst.jobs.unique layersSecond.jobs
  obtain rfl := layersFirst.format.unique layersSecond.format
  obtain rfl := layersFirst.verbose.unique layersSecond.verbose
  rfl

/-! ## The settings file -/

/-- The settings file that a command line names; empty when it names none. -/
def settingsPath (arguments : List String) : String :=
  (lastValue? .config arguments).getD ""

theorem config_of_setAll
    {choices final : Choices}
    {given : List (Flag × String)}
    (set : choices.setAll given = .ok final) :
    final.config = (given.reverse.lookup .config).getD choices.config := by
  induction given generalizing choices with
  | nil =>
      obtain rfl := Except.ok.inj set
      rfl
  | cons first rest inductionHypothesis =>
      obtain ⟨flag, value⟩ := first
      simp only [Choices.setAll] at set
      split at set
      · contradiction
      rename_i next setFirst
      rw [inductionHypothesis set, List.reverse_cons, List.lookup_append]
      cases rest.reverse.lookup Flag.config with
      | some written => rfl
      | none => cases sets_of_set setFirst <;> rfl

/-- The entries of the settings file at a path; there are none without a path. -/
def fileEntries?
    (access : Files.Access)
    (path : String) : Option Toml.Entries :=
  if path = "" then
    some []
  else
    match access path with
    | .error _ => none
    | .ok text => (Toml.Document.ofText? text).map Toml.Document.root

theorem storeAll_of_ofText
    {order : Toml.Order}
    {path text : String}
    {loaded : Settings}
    (loads : Settings.ofText order path text = .ok loaded) :
    ∃ entries, (Toml.Document.ofText? text).map Toml.Document.root = some entries ∧
      Settings.standard.storeAll (order.arrange entries) = .ok loaded := by
  unfold Settings.ofText at loads
  split at loads
  · contradiction
  · rename_i document read
    split at loads
    · contradiction
    · rename_i settings stored
      split at loads
      · contradiction
      · obtain rfl := Except.ok.inj loads
        exact ⟨document.root, by rw [read]; rfl, stored⟩

/-- Settings that load are what the entries of the file say on top of the defaults. -/
theorem storeAll_of_loadSettings
    {around : Surroundings}
    {path : String}
    {loaded : Settings}
    (loads : loadSettings around path = .ok loaded) :
    ∃ entries, fileEntries? around.access path = some entries ∧
      Settings.standard.storeAll (around.order.arrange entries) = .ok loaded := by
  unfold loadSettings at loads
  unfold fileEntries?
  split at loads
  · rename_i noPath
    refine ⟨[], if_pos noPath, ?_⟩
    rw [← Except.ok.inj loads, (around.order.perm []).eq_nil]
    rfl
  · rename_i somePath
    rw [if_neg somePath]
    unfold Settings.load at loads
    cases found : around.access path with
    | error fault => simp [found] at loads
    | ok text =>
        simp only [found] at loads ⊢
        exact storeAll_of_ofText loads

/-- In whatever order entries are stored, the same settings come of it, or the same key is
told. -/
theorem storeAll_eq_of_perm
    (settings : Settings)
    {first second : Toml.Entries}
    (once : Settings.SpelledOnce first)
    (mistyped : Settings.MistypedOnce first)
    (perm : first.Perm second) :
    settings.storeAll first = settings.storeAll second := by
  have sameError : ∀ key,
      settings.storeAll first = .error key ↔ settings.storeAll second = .error key := by
    intro key
    rw [Settings.storeAll_eq_error_iff, Settings.storeAll_eq_error_iff,
      Settings.find?_eq_of_perm perm mistyped]
  cases storedFirst : settings.storeAll first with
  | error key => rw [(sameError key).mp storedFirst]
  | ok afterFirst =>
      cases storedSecond : settings.storeAll second with
      | error key =>
          rw [(sameError key).mpr storedSecond] at storedFirst
          contradiction
      | ok afterSecond =>
          have same {α : Type} (setting : Setting α) :
              setting.get afterFirst = setting.get afterSecond :=
            setting.get_eq_of_perm once perm storedFirst storedSecond
          cases afterFirst
          cases afterSecond
          obtain rfl := same Setting.pass
          obtain rfl := same Setting.marker
          obtain rfl := same Setting.jobs
          obtain rfl := same Setting.format
          obtain rfl := same Setting.verbose
          rfl

/-- If there are entries at a path, no setting is named by two of them, and at most one of
them is mistyped. -/
def Definite
    (access : Files.Access)
    (path : String) : Prop :=
  ∀ entries, fileEntries? access path = some entries ->
    Settings.SpelledOnce entries ∧ Settings.MistypedOnce entries

instance (access : Files.Access) (path : String) : Decidable (Definite access path) :=
  decidable_of_iff
    ((fileEntries? access path).all
      (fun entries => Settings.SpelledOnce entries ∧ Settings.MistypedOnce entries) = true)
    (by simp [Definite, Option.all_eq_true])

/-- Definite files load in the same way in whatever order their entries are visited. -/
theorem loadSettings_of_definite
    {around : Surroundings}
    {path : String}
    (definite : Definite around.access path)
    (order : Toml.Order) :
    loadSettings { around with order := order } path = loadSettings around path := by
  unfold loadSettings
  split
  · rfl
  · rename_i somePath
    simp only [Settings.load]
    cases found : around.access path with
    | error fault => rfl
    | ok text =>
        simp only [Settings.ofText]
        cases read : Toml.Document.ofText? text with
        | none => rfl
        | some document =>
            obtain ⟨once, mistyped⟩ := definite document.root
              (by simp [fileEntries?, somePath, found, read])
            simp only [← storeAll_eq_of_perm .standard once mistyped
              (order.perm document.root).symm, ← storeAll_eq_of_perm .standard once mistyped
              (around.order.perm document.root).symm]

/-- A document with a key that names no setting is refused. -/
theorem exists_error_of_unknown_key
    (order : Toml.Order)
    (path : String)
    {text : String}
    {document : Toml.Document}
    {key : Toml.Key}
    (read : Toml.Document.ofText? text = some document)
    (written : key ∈ document.keys)
    (unknown : ¬ Settings.Known key) :
    ∃ error, Settings.ofText order path text = .error error := by
  have stray : Settings.strayKey? document ≠ none := by
    intro none
    have passed := List.find?_eq_none.mp none key written
    apply unknown
    split at passed
    · rename_i spelled
      obtain ⟨name, named⟩ : ∃ name, Settings.name? spelled = some name := by
        simpa [Option.isSome_iff_exists, ← Option.isSome_iff_ne_none] using passed
      exact ⟨spelled, rfl, name, Settings.name?_eq_some_iff.mp named⟩
    · simp at passed
  cases stored : Settings.standard.storeAll (order.arrange document.root) with
  | error key =>
      exact ⟨.malformed path (.mistyped text key), by simp only [Settings.ofText, read, stored]⟩
  | ok settings =>
      cases found : Settings.strayKey? document with
      | none => contradiction
      | some key =>
          exact ⟨.unknownKey path key, by simp only [Settings.ofText, read, stored, found]⟩

/-- Each setting that a run uses is decided by its own layers: the last of its flags, else
its key in the settings file, else the default, in whatever order the entries of the file
are visited.  A settings file with a key that names no setting makes the run fail in the
same way whatever can be read otherwise. -/
theorem settings_follow_layers
    {arguments inputs : List String}
    {choices : Choices}
    (read : Request.ofArguments arguments = .ok (.scan choices inputs))
    (notListed : choices.list = false)
    (around : Surroundings)
    (canceled : Bool) :
    (∀ {loaded : Settings}, loadSettings around (settingsPath arguments) = .ok loaded ->
      ∃ entries, fileEntries? around.access (settingsPath arguments) = some entries ∧
        (Settings.SpelledOnce entries ->
          ∃ settings, (∀ other, Layered arguments entries other ↔ other = settings) ∧
            execute around canceled arguments =
              scanWith ⟨around.access, around.wording, canceled, .standard, settings⟩ inputs)) ∧
    ∀ {text : String} {document : Toml.Document} {key : Toml.Key},
      settingsPath arguments ≠ "" -> around.access (settingsPath arguments) = .ok text ->
      Toml.Document.ofText? text = some document -> key ∈ document.keys -> ¬ Settings.Known key ->
      ∃ message, ∀ (other : Files.Access) (canceled : Bool),
        other (settingsPath arguments) = .ok text ->
        execute { around with access := other } canceled arguments = ⟨2, "", message⟩ := by
  have set := (reads_of_readArguments read).setAll_occurrences
  have path : choices.config = settingsPath arguments := config_of_setAll set
  constructor
  · intro loaded loads
    obtain ⟨entries, found, stored⟩ := storeAll_of_loadSettings loads
    refine ⟨entries, found, fun once => ⟨choices.override loaded, ?_,
      by simp [execute, read, scan, notListed, path, loads]⟩⟩
    have layered : Layered arguments entries (choices.override loaded) :=
      { pass := Setting.pass.fromLayers around.order set once stored
        marker := Setting.marker.fromLayers around.order set once stored
        jobs := Setting.jobs.fromLayers around.order set once stored
        format := Setting.format.fromLayers around.order set once stored
        verbose := Setting.verbose.fromLayers around.order set once stored }
    intro other
    constructor
    · exact fun otherLayered => otherLayered.unique layered
    · rintro rfl
      exact layered
  · intro text document key somePath found readDocument written unknown
    obtain ⟨error, refused⟩ := exists_error_of_unknown_key around.order (settingsPath arguments)
      readDocument written unknown
    refine ⟨error.message around.wording.toml ++ "\n", ?_⟩
    intro other canceled sameText
    have fails : loadSettings { around with access := other } (settingsPath arguments) =
        .error error := by
      simp only [loadSettings, if_neg somePath, Settings.load, sameText, refused]
    simp [execute, read, scan, notListed, path, fails, Result.fail, Result.failure]

/-- Flags that are given twice, and flags that are given the values they have anyway. -/
def sampleArguments : List String :=
  ["-marker", "X", "-jobs=7", "-v=false", "--marker=", "-jobs", "0", "-config=c.toml", "in.yaml"]

/-- Two settings files; the second one has a key that names no setting. -/
def sampleAccess : Files.Access := fun path =>
  if path = "c.toml" then .ok "Marker = \"C2\"\nFORMAT = \"json\"\nverbose = true\n"
  else if path = "d.toml" then .ok "passs = 1\n"
  else .error (.missing path)

/-- The files, where entries that are written later are visited first. -/
def sampleAround : Surroundings :=
  ⟨sampleAccess, .reversed, .plain⟩

theorem settings_follow_layers_sample :
    (∃ choices, Request.ofArguments sampleArguments = .ok (.scan choices ["in.yaml"]) ∧
      choices.list = false) ∧
    (∃ loaded, loadSettings sampleAround (settingsPath sampleArguments) = .ok loaded) ∧
    (∃ entries, fileEntries? sampleAround.access (settingsPath sampleArguments) = some entries ∧
      Settings.SpelledOnce entries) ∧
    execute sampleAround false sampleArguments =
      scanWith
        ⟨sampleAccess, .plain, false, .standard, ⟨"implicit-ctor", "", 0, "json", false⟩⟩
        ["in.yaml"] ∧
    ∃ message, ∀ (other : Files.Access) (canceled : Bool),
      other "d.toml" = .ok "passs = 1\n" ->
      execute { sampleAround with access := other } canceled
        ["-jobs=0", "-config", "d.toml", "in.yaml"] = ⟨2, "", message⟩ := by
  have read : Request.ofArguments sampleArguments =
      .ok (.scan ⟨"c.toml", false, none, some "", some 0, none, some false⟩ ["in.yaml"]) := by
    decide +kernel
  have loads : loadSettings sampleAround (settingsPath sampleArguments) =
      .ok ⟨"implicit-ctor", "C2", 0, "json", true⟩ := by
    decide +kernel
  obtain ⟨entries, found, decided⟩ := (settings_follow_layers read rfl sampleAround false).1 loads
  have once : Settings.SpelledOnce entries := by
    have all : (fileEntries? sampleAround.access (settingsPath sampleArguments)).all
        (fun entries => decide (Settings.SpelledOnce entries)) = true := by
      decide +kernel
    rw [found] at all
    exact of_decide_eq_true all
  obtain ⟨settings, unique, executed⟩ := decided once
  have inFile : ((fileEntries? sampleAround.access (settingsPath sampleArguments)).bind
      (Settings.fileItem? "format")).bind Settings.textOf? = some "json" := by
    decide +kernel
  have notInFile : ((fileEntries? sampleAround.access (settingsPath sampleArguments)).map
      fun entries => (Settings.fileItem? "pass" entries).isNone) = some true := by
    decide +kernel
  rw [found] at inFile notInFile
  obtain ⟨item, present, text⟩ := Option.bind_eq_some_iff.mp inFile
  have absent : Settings.fileItem? "pass" entries = none := by simpa using notInFile
  have layered : Layered sampleArguments entries ⟨"implicit-ctor", "", 0, "json", false⟩ :=
    { pass := .default (by decide +kernel) absent
      marker := .flag (by decide +kernel : _ = some "") rfl
      jobs := .flag (by decide +kernel : _ = some "0") (by decide +kernel)
      format := .file (by decide +kernel) present text
      verbose := .flag (by decide +kernel : _ = some "false") (by decide +kernel) }
  obtain rfl := (unique _).mp layered
  have strayRead : Request.ofArguments ["-jobs=0", "-config", "d.toml", "in.yaml"] =
      .ok (.scan ⟨"d.toml", false, none, none, some 0, none, none⟩ ["in.yaml"]) := by
    decide +kernel
  have keys : (Toml.Document.ofText? "passs = 1\n").map Toml.Document.keys =
      some [["passs"]] := by
    decide +kernel
  obtain ⟨document, readDocument, sameKeys⟩ := Option.map_eq_some_iff.mp keys
  have unknown : ¬ Settings.Known ["passs"] := by
    have differs : ∀ name ∈ Settings.names, Settings.sameName name "passs" = false := by
      decide +kernel
    rintro ⟨spelled, ⟨⟩, name, known, same⟩
    exact Bool.false_ne_true ((differs name known).symm.trans same)
  have path : settingsPath ["-jobs=0", "-config", "d.toml", "in.yaml"] = "d.toml" := by
    decide +kernel
  have stray := (settings_follow_layers strayRead rfl sampleAround false).2
    (by rw [path]; decide) (by rw [path]; rfl) readDocument
    (by rw [sameKeys]; exact List.mem_singleton.mpr rfl) unknown
  rw [path] at stray
  exact ⟨⟨_, read, rfl⟩, ⟨_, loads⟩, ⟨entries, found, once⟩, executed, stray⟩

end Command
end CtorScan
