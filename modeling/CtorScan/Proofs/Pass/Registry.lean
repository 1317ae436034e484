import CtorScan.Pass.Registry
import CtorScan.Proofs.Text.ByteOrder
import Mathlib.Data.List.Basic
import Mathlib.Data.List.Nodup

/-!
# The first registration of a name stands

A registry is asked one request after the other.  All its answers can be told from the
requests before and from which of them registered a pass: a pass that was registered is
found under its name from then on, no other pass is ever registered under that name, and a
request that was refused leaves no trace.
-/

namespace CtorScan
namespace Pass

/-- The entry that a registered pass was registered by. -/
def Registered.entry (registered : Registered) : Entry where
  name := registered.name
  summary := registered.summary
  mutates := registered.mutates
  build? := some registered.build

theorem Registered.entry_injective : Function.Injective Registered.entry := by
  rintro ⟨name, summary, mutates, build⟩ ⟨other, _, _, _⟩ same
  obtain ⟨rfl, rfl, rfl, sameBuild⟩ := Entry.mk.inj same
  obtain rfl := Option.some.inj sameBuild
  rfl

/-- The entry has no name or cannot be built. -/
def Entry.IsInvalid (entry : Entry) : Prop :=
  entry.name = "" ∨ entry.build? = none

namespace Registry

/-! ## Requests one after the other -/

/-- What a registry can be asked. -/
inductive Request where
  /-- To register a pass. -/
  | register (entry : Entry)
  /-- To register the passes that are always there. -/
  | registerStandard
  /-- The pass under a name. -/
  | lookup (name : String)
  /-- All names. -/
  | names

/-- What a registry answers. -/
inductive Answer where
  /-- The pass is registered. -/
  | registered
  /-- The request is refused. -/
  | refused (problem : RegistryError)
  /-- The pass under the name. -/
  | found (pass : Registered)
  /-- All names. -/
  | listed (names : List String)

/-- The entry that a request asks to register. -/
def Request.submitted? : Request -> Option Entry
  | .register entry => some entry
  | .registerStandard => some constructorCallsEntry
  | .lookup _ => none
  | .names => none

/-- The answer to a registration, and the registry after it. -/
def settle
    (registry : Registry) :
    Except RegistryError Registry -> Answer × Registry
  | .ok after => (.registered, after)
  | .error problem => (.refused problem, registry)

/-- The answer to a request, and the registry after it. -/
def serve
    (registry : Registry) : Request -> Answer × Registry
  | .register entry => registry.settle (registry.register entry)
  | .registerStandard => registry.settle registry.registerStandard
  | .lookup name =>
      match registry.lookup name with
      | .ok pass => (.found pass, registry)
      | .error problem => (.refused problem, registry)
  | .names => (.listed registry.names, registry)

/-- The answers to requests one after the other. -/
def answers (registry : Registry) : List Request -> List Answer
  | [] => []
  | request :: rest => (registry.serve request).1 :: (registry.serve request).2.answers rest

/-- The registry after some requests. -/
def after (registry : Registry) : List Request -> Registry
  | [] => registry
  | request :: rest => (registry.serve request).2.after rest

/-! ## What is to be answered -/

/-- At some time a pass was registered. -/
def Registers
    (requests : List Request)
    (answers : List Answer)
    (time : Nat)
    (entry : Entry) : Prop :=
  (requests[time]?).bind Request.submitted? = some entry ∧ answers[time]? = some .registered

/-- Before some time a pass was registered under a name. -/
def IsTaken
    (requests : List Request)
    (answers : List Answer)
    (time : Nat)
    (name : String) : Prop :=
  ∃ earlier < time, ∃ entry, Registers requests answers earlier entry ∧ entry.name = name

/-- Every request is answered as by a finite map in which the first registration of a name
stands. -/
structure FirstStands
    (requests : List Request)
    (answers : List Answer) : Prop where
  /-- There is one answer to each request. -/
  answered : answers.length = requests.length
  /-- Exactly the entries without a name or a way to build them are invalid. -/
  invalid : ∀ (time : Nat) (entry : Entry),
    (requests[time]?).bind Request.submitted? = some entry ->
    (answers[time]? = some (.refused (.invalidEntry entry.name)) ↔ entry.IsInvalid)
  /-- Of the others, exactly those are duplicates whose name is taken. -/
  duplicate : ∀ (time : Nat) (entry : Entry),
    (requests[time]?).bind Request.submitted? = some entry ->
    (answers[time]? = some (.refused (.duplicate entry.name)) ↔
      ¬ entry.IsInvalid ∧ IsTaken requests answers time entry.name)
  /-- All others are registered. -/
  accepted : ∀ (time : Nat) (entry : Entry),
    (requests[time]?).bind Request.submitted? = some entry ->
    (answers[time]? = some .registered ↔
      ¬ entry.IsInvalid ∧ ¬ IsTaken requests answers time entry.name)
  /-- No two passes are registered under one name. -/
  unique : ∀ (first second : Nat) (entry other : Entry), Registers requests answers first entry ->
    Registers requests answers second other -> entry.name = other.name -> first = second
  /-- What is found under a name is the pass that was registered under it. -/
  found : ∀ (time : Nat) (name : String), requests[time]? = some (.lookup name) -> ∀ pass,
    (answers[time]? = some (.found pass) ↔
      pass.name = name ∧ ∃ earlier < time, Registers requests answers earlier pass.entry)
  /-- A name is unknown exactly if it is not taken. -/
  unknown : ∀ (time : Nat) (name : String), requests[time]? = some (.lookup name) ->
    (answers[time]? = some (.refused (.unknown name)) ↔ ¬ IsTaken requests answers time name)
  /-- The names are listed in the order of their bytes, each once, and none of them is
  empty. -/
  listed : ∀ time : Nat, requests[time]? = some .names -> ∃ names,
    answers[time]? = some (.listed names) ∧
      names.Pairwise (fun early late => Text.bytes early < Text.bytes late) ∧
      "" ∉ names ∧ ∀ name, name ∈ names ↔ IsTaken requests answers time name

/-! ## One request -/

/-- What one registration can do: add a valid entry under a free name, or be refused. -/
theorem register_cases
    (registry : Registry)
    (entry : Entry) :
    (∃ pass : Registered, entry = pass.entry ∧ pass.name ≠ "" ∧
      registry.find? pass.name = none ∧
      registry.register entry = .ok ⟨registry.entries ++ [pass]⟩) ∨
    (entry.IsInvalid ∧ registry.register entry = .error (.invalidEntry entry.name)) ∨
    (¬ entry.IsInvalid ∧ (registry.find? entry.name).isSome ∧
      registry.register entry = .error (.duplicate entry.name)) := by
  obtain ⟨name, summary, mutates, build?⟩ := entry
  cases build? with
  | none => exact Or.inr (Or.inl ⟨Or.inr rfl, rfl⟩)
  | some build =>
      by_cases unnamed : name = ""
      · exact Or.inr (Or.inl ⟨Or.inl unnamed, by simp [register, unnamed]⟩)
      · cases taken : registry.find? name with
        | none =>
            refine Or.inl ⟨⟨name, summary, mutates, build⟩, rfl, unnamed, taken, ?_⟩
            simp [register, unnamed, taken]
        | some pass =>
            refine Or.inr (Or.inr ⟨?_, by simp, by simp [register, unnamed, taken]⟩)
            simp [Entry.IsInvalid, unnamed]

theorem serve_of_submitted?
    (registry : Registry)
    {request : Request}
    {entry : Entry}
    (asks : request.submitted? = some entry) :
    registry.serve request = registry.settle (registry.register entry) := by
  cases request with
  | register own => rw [← Option.some.inj asks, serve]
  | registerStandard => rw [← Option.some.inj asks, serve, registerStandard]
  | lookup name => contradiction
  | names => contradiction

/-- What one request can do: register a pass under a free name, or leave the registry as
it is. -/
theorem serve_cases
    (registry : Registry)
    (request : Request) :
    (∃ pass : Registered, request.submitted? = some pass.entry ∧ pass.name ≠ "" ∧
      registry.find? pass.name = none ∧
      registry.serve request = (.registered, ⟨registry.entries ++ [pass]⟩)) ∨
    ((registry.serve request).1 ≠ .registered ∧ (registry.serve request).2 = registry) := by
  cases asks : request.submitted? with
  | some entry =>
      rw [registry.serve_of_submitted? asks]
      rcases registry.register_cases entry with
        ⟨pass, rfl, named, free, accepted⟩ | ⟨-, refused⟩ | ⟨-, -, refused⟩
      · exact Or.inl ⟨pass, rfl, named, free, by rw [accepted, settle]⟩
      · exact Or.inr (by simp [refused, settle])
      · exact Or.inr (by simp [refused, settle])
  | none =>
      refine Or.inr ?_
      cases request with
      | register entry => contradiction
      | registerStandard => contradiction
      | lookup name => cases found : registry.lookup name <;> simp [serve, found]
      | names => simp [serve]

/-! ## All requests -/

theorem after_append
    (registry : Registry)
    (before rest : List Request) :
    registry.after (before ++ rest) = (registry.after before).after rest := by
  induction before generalizing registry with
  | nil => rfl
  | cons request before inductionHypothesis => exact inductionHypothesis _

theorem answers_append
    (registry : Registry)
    (before rest : List Request) :
    registry.answers (before ++ rest) =
      registry.answers before ++ (registry.after before).answers rest := by
  induction before generalizing registry with
  | nil => rfl
  | cons request before inductionHypothesis =>
      rw [List.cons_append, answers, answers, after, inductionHypothesis, List.cons_append]

@[simp] theorem length_answers
    (registry : Registry)
    (requests : List Request) :
    (registry.answers requests).length = requests.length := by
  induction requests generalizing registry with
  | nil => rfl
  | cons request rest inductionHypothesis => simp [answers, inductionHypothesis]

/-- The answer to a request depends on the registry at its time. -/
theorem getElem?_answers
    (registry : Registry)
    (requests : List Request)
    (time : Nat) :
    (registry.answers requests)[time]? = (requests[time]?).map fun request =>
      ((registry.after (requests.take time)).serve request).1 := by
  induction requests generalizing registry time with
  | nil => rfl
  | cons request rest inductionHypothesis =>
      cases time with
      | zero => rfl
      | succ time => exact inductionHypothesis _ time

/-- The registry at some time of a sequence of requests. -/
def registryAt
    (requests : List Request)
    (time : Nat) : Registry :=
  empty.after (requests.take time)

theorem registryAt_succ
    {requests : List Request}
    {time : Nat}
    {request : Request}
    (asked : requests[time]? = some request) :
    registryAt requests (time + 1) = ((registryAt requests time).serve request).2 := by
  rw [registryAt, List.take_add_one, asked, after_append]
  rfl

theorem registryAt_succ_of_none
    {requests : List Request}
    {time : Nat}
    (nothing : requests[time]? = none) :
    registryAt requests (time + 1) = registryAt requests time := by
  rw [registryAt, List.take_add_one, nothing, Option.toList_none, List.append_nil, registryAt]

/-- Registrations are told by the registry at their time. -/
theorem registers_iff
    {requests : List Request}
    {time : Nat}
    {entry : Entry} :
    Registers requests (empty.answers requests) time entry ↔
      ∃ request, requests[time]? = some request ∧ request.submitted? = some entry ∧
        ((registryAt requests time).serve request).1 = .registered := by
  rw [Registers, getElem?_answers]
  cases requests[time]? with
  | none => simp
  | some request => simp [registryAt]

/-- The registry holds exactly the passes that were registered before. -/
theorem mem_registryAt_iff
    {requests : List Request}
    {time : Nat}
    {pass : Registered} :
    pass ∈ (registryAt requests time).entries ↔
      ∃ earlier < time, Registers requests (empty.answers requests) earlier pass.entry := by
  induction time with
  | zero => simp [registryAt, after, empty]
  | succ time inductionHypothesis =>
      have split : (∃ earlier < time + 1,
            Registers requests (empty.answers requests) earlier pass.entry) ↔
          (∃ earlier < time, Registers requests (empty.answers requests) earlier pass.entry) ∨
            Registers requests (empty.answers requests) time pass.entry := by
        constructor
        · rintro ⟨earlier, before, registers⟩
          rcases Nat.lt_succ_iff_lt_or_eq.mp before with less | rfl
          · exact Or.inl ⟨earlier, less, registers⟩
          · exact Or.inr registers
        · rintro (⟨earlier, before, registers⟩ | registers)
          · exact ⟨earlier, Nat.lt_succ_of_lt before, registers⟩
          · exact ⟨time, Nat.lt_succ_self time, registers⟩
      rw [split, ← inductionHypothesis, registers_iff]
      cases asked : requests[time]? with
      | none => simp [registryAt_succ_of_none asked]
      | some request =>
          rw [registryAt_succ asked]
          rcases (registryAt requests time).serve_cases request with
            ⟨added, asks, -, -, served⟩ | ⟨notRegistered, unchanged⟩
          · simp [served, asks, Registered.entry_injective.eq_iff, eq_comm]
          · simp [unchanged, notRegistered]

/-! ## Names -/

/-- No two passes have the same name, and none has the empty one. -/
structure Orderly (registry : Registry) : Prop where
  /-- No two passes have the same name. -/
  distinct : (registry.entries.map Registered.name).Nodup
  /-- No pass has the empty name. -/
  named : ∀ pass ∈ registry.entries, pass.name ≠ ""

theorem find?_eq_none_iff
    {registry : Registry}
    {name : String} :
    registry.find? name = none ↔ ∀ pass ∈ registry.entries, pass.name ≠ name := by
  simp [find?]

theorem Orderly.serve
    {registry : Registry}
    (orderly : Orderly registry)
    (request : Request) :
    Orderly (registry.serve request).2 := by
  rcases registry.serve_cases request with ⟨pass, -, named, free, served⟩ | ⟨-, unchanged⟩
  · rw [served]
    constructor
    · rw [List.map_append, List.map_singleton, ← List.concat_eq_append]
      refine orderly.distinct.concat fun among => ?_
      obtain ⟨other, member, same⟩ := List.mem_map.mp among
      exact find?_eq_none_iff.mp free other member same
    · intro other member
      rcases List.mem_append.mp member with before | added
      · exact orderly.named other before
      · rwa [List.mem_singleton.mp added]
  · rwa [unchanged]

theorem Orderly.after
    {registry : Registry}
    (orderly : Orderly registry)
    (requests : List Request) :
    Orderly (registry.after requests) := by
  induction requests generalizing registry with
  | nil => exact orderly
  | cons request rest inductionHypothesis => exact inductionHypothesis (orderly.serve request)

theorem orderly_registryAt
    (requests : List Request)
    (time : Nat) :
    Orderly (registryAt requests time) := by
  have start : Orderly empty := ⟨List.nodup_nil, by simp [empty]⟩
  exact start.after _

theorem Orderly.find?_eq_some_iff
    {registry : Registry}
    (orderly : Orderly registry)
    {name : String}
    {pass : Registered} :
    registry.find? name = some pass ↔ pass ∈ registry.entries ∧ pass.name = name := by
  constructor
  · intro found
    exact ⟨List.mem_of_find?_eq_some found, by simpa using List.find?_some found⟩
  · rintro ⟨member, rfl⟩
    cases found : registry.find? pass.name with
    | none => exact absurd rfl (find?_eq_none_iff.mp found pass member)
    | some other =>
        have sameName : other.name = pass.name := by simpa using List.find?_some found
        rw [List.inj_on_of_nodup_map orderly.distinct (List.mem_of_find?_eq_some found) member
          sameName]

theorem mem_names_iff
    {registry : Registry}
    {name : String} :
    name ∈ registry.names ↔ (registry.find? name).isSome := by
  rw [names, List.mem_mergeSort, ← Option.ne_none_iff_isSome, ne_eq, find?_eq_none_iff]
  simp

/-- The names come in the order of their bytes. -/
theorem Orderly.names_increasing
    {registry : Registry}
    (orderly : Orderly registry) :
    registry.names.Pairwise fun early late => Text.bytes early < Text.bytes late := by
  have sorted : registry.names.Pairwise fun early late => decide (early ≤ late) = true := by
    apply List.pairwise_mergeSort
    · intro first second third
      simpa using le_trans
    · intro first second
      simpa using le_total first second
  have distinct : registry.names.Nodup :=
    (List.mergeSort_perm _ _).nodup_iff.mpr orderly.distinct
  apply (sorted.and distinct).imp
  rintro early late ⟨ordered, different⟩
  exact Text.bytes_lt_bytes (lt_of_le_of_ne (by simpa using ordered) different)

/-- A name is taken exactly if there is a pass under it. -/
theorem isTaken_iff
    {requests : List Request}
    {time : Nat}
    {name : String} :
    IsTaken requests (empty.answers requests) time name ↔
      ((registryAt requests time).find? name).isSome := by
  have orderly := orderly_registryAt requests time
  rw [Option.isSome_iff_exists]
  constructor
  · rintro ⟨earlier, before, entry, registers, rfl⟩
    obtain ⟨request, -, asks, registered⟩ := registers_iff.mp registers
    rw [serve_of_submitted? _ asks] at registered
    rcases (registryAt requests earlier).register_cases entry with
      ⟨pass, rfl, -⟩ | ⟨-, refused⟩ | ⟨-, -, refused⟩
    · exact ⟨pass, orderly.find?_eq_some_iff.mpr
        ⟨mem_registryAt_iff.mpr ⟨earlier, before, registers⟩, rfl⟩⟩
    · simp [refused, settle] at registered
    · simp [refused, settle] at registered
  · rintro ⟨pass, found⟩
    obtain ⟨member, rfl⟩ := orderly.find?_eq_some_iff.mp found
    obtain ⟨earlier, before, registers⟩ := mem_registryAt_iff.mp member
    exact ⟨earlier, before, pass.entry, registers, rfl⟩

/-! ## All answers -/

/-- A registration is answered by the registry at its time. -/
theorem answer_of_submitted?
    {requests : List Request}
    {time : Nat}
    {entry : Entry}
    (asks : (requests[time]?).bind Request.submitted? = some entry) :
    (empty.answers requests)[time]? = some
      ((registryAt requests time).settle ((registryAt requests time).register entry)).1 := by
  obtain ⟨request, asked, asks⟩ := Option.bind_eq_some_iff.mp asks
  rw [getElem?_answers, asked, Option.map_some, ← serve_of_submitted? _ asks, registryAt]

/-- A question about a name is answered by the registry at its time. -/
theorem answer_of_lookup
    {requests : List Request}
    {time : Nat}
    {name : String}
    (asks : requests[time]? = some (.lookup name)) :
    (empty.answers requests)[time]? =
      some (((registryAt requests time).find? name).elim (.refused (.unknown name)) .found) := by
  rw [getElem?_answers, asks, Option.map_some, ← registryAt, serve, lookup]
  cases (registryAt requests time).find? name <;> rfl

theorem answer_of_names
    {requests : List Request}
    {time : Nat}
    (asks : requests[time]? = some .names) :
    (empty.answers requests)[time]? = some (.listed (registryAt requests time).names) := by
  rw [getElem?_answers, asks, Option.map_some, ← registryAt, serve]

/-- A registration is refused for its entry, refused for its name, or accepted. -/
theorem answer_cases
    {requests : List Request}
    {time : Nat}
    {entry : Entry}
    (asks : (requests[time]?).bind Request.submitted? = some entry) :
    let answer := (empty.answers requests)[time]?
    let isTaken := IsTaken requests (empty.answers requests) time entry.name
    (entry.IsInvalid ∧ answer = some (.refused (.invalidEntry entry.name))) ∨
      (¬ entry.IsInvalid ∧ isTaken ∧ answer = some (.refused (.duplicate entry.name))) ∨
      (¬ entry.IsInvalid ∧ ¬ isTaken ∧ answer = some .registered) := by
  dsimp only
  rw [answer_of_submitted? asks, isTaken_iff]
  rcases (registryAt requests time).register_cases entry with
    ⟨pass, rfl, named, free, accepted⟩ | ⟨invalid, refused⟩ | ⟨valid, taken, refused⟩
  · have valid : ¬ pass.entry.IsInvalid := by
      rintro (unnamed | unbuilt)
      · exact named unnamed
      · exact Option.some_ne_none _ unbuilt
    have untaken : ¬ ((registryAt requests time).find? pass.entry.name).isSome = true := by
      rw [Registered.entry, free]
      exact Bool.false_ne_true
    exact Or.inr (Or.inr ⟨valid, untaken, by rw [accepted, settle]⟩)
  · exact Or.inl ⟨invalid, by rw [refused, settle]⟩
  · exact Or.inr (Or.inl ⟨valid, taken, by rw [refused, settle]⟩)

/-- Once a name is taken, nothing is registered under it. -/
theorem not_isTaken_of_registers
    {requests : List Request}
    {time : Nat}
    {entry : Entry}
    (registers : Registers requests (empty.answers requests) time entry) :
    ¬ IsTaken requests (empty.answers requests) time entry.name := by
  obtain ⟨asks, registered⟩ := registers
  rcases answer_cases asks with ⟨-, refused⟩ | ⟨-, -, refused⟩ | ⟨-, free, -⟩
  · simp [registered] at refused
  · simp [registered] at refused
  · exact free

theorem firstStands_answers (requests : List Request) :
    FirstStands requests (empty.answers requests) where
  answered := empty.length_answers requests
  invalid := by
    intro time entry asks
    rcases answer_cases asks with ⟨invalid, answer⟩ | ⟨valid, -, answer⟩ | ⟨valid, -, answer⟩
    · simp [answer, invalid]
    · simp [answer, valid]
    · simp [answer, valid]
  duplicate := by
    intro time entry asks
    rcases answer_cases asks with ⟨invalid, answer⟩ | ⟨valid, taken, answer⟩ | ⟨-, free, answer⟩
    · simp [answer, invalid]
    · simp [answer, valid, taken]
    · simp [answer, free]
  accepted := by
    intro time entry asks
    rcases answer_cases asks with ⟨invalid, answer⟩ | ⟨-, taken, answer⟩ | ⟨valid, free, answer⟩
    · simp [answer, invalid]
    · simp [answer, taken]
    · simp [answer, valid, free]
  unique := by
    intro first second entry other firstRegisters secondRegisters sameName
    rcases Nat.lt_trichotomy first second with before | same | after
    · exact absurd ⟨first, before, entry, firstRegisters, sameName⟩
        (not_isTaken_of_registers secondRegisters)
    · exact same
    · exact absurd ⟨second, after, other, secondRegisters, sameName.symm⟩
        (not_isTaken_of_registers firstRegisters)
  found := by
    intro time name asks pass
    have holds : (registryAt requests time).find? name = some pass ↔ _ :=
      (orderly_registryAt requests time).find?_eq_some_iff
    rw [answer_of_lookup asks, ← mem_registryAt_iff, and_comm, ← holds]
    cases (registryAt requests time).find? name <;> simp
  unknown := by
    intro time name asks
    rw [answer_of_lookup asks, isTaken_iff]
    cases (registryAt requests time).find? name <;> simp
  listed := by
    intro time asks
    have orderly := orderly_registryAt requests time
    refine ⟨_, answer_of_names asks, orderly.names_increasing, ?_, fun name => ?_⟩
    · rw [mem_names_iff, Option.isSome_iff_exists]
      rintro ⟨pass, found⟩
      obtain ⟨member, unnamed⟩ := orderly.find?_eq_some_iff.mp found
      exact orderly.named pass member unnamed
    · rw [mem_names_iff, isTaken_iff]

/-- Leaving out a request that registered nothing changes no other answer. -/
theorem eraseIdx_answers
    {before rest : List Request}
    {request : Request}
    (nothing : (empty.answers (before ++ request :: rest))[before.length]? ≠ some .registered) :
    (empty.answers (before ++ request :: rest)).eraseIdx before.length =
      empty.answers (before ++ rest) := by
  have length : (empty.answers before).length = before.length := empty.length_answers before
  rw [answers_append, ← length] at nothing ⊢
  rcases (empty.after before).serve_cases request with ⟨pass, -, -, -, served⟩ | ⟨-, unchanged⟩
  · simp [answers, served] at nothing
  · rw [List.eraseIdx_append_of_length_le le_rfl, Nat.sub_self, answers, List.eraseIdx_cons_zero,
      unchanged, answers_append]

/-- All requests to a registry are answered as the first registrations of names say.  A
request that registered nothing can be left out without changing any other answer, and the
names that are listed are those under which a pass would be found. -/
theorem registry_keeps_first_registrations (requests : List Request) :
    FirstStands requests (empty.answers requests) ∧
      (∀ before request rest, requests = before ++ request :: rest ->
        (empty.answers requests)[before.length]? ≠ some .registered ->
          (empty.answers requests).eraseIdx before.length = empty.answers (before ++ rest)) ∧
      (∀ (time : Nat) names, requests[time]? = some .names ->
        (empty.answers requests)[time]? = some (.listed names) ->
          ∀ name, name ∈ names ↔
            ∃ pass, (empty.answers (requests.take time ++ [.lookup name]))[time]? =
              some (.found pass)) := by
  refine ⟨firstStands_answers requests, ?_, ?_⟩
  · rintro before request rest rfl nothing
    exact eraseIdx_answers nothing
  · intro time names asks listed name
    obtain rfl : (registryAt requests time).names = names := by
      simpa [answer_of_names asks] using listed
    obtain ⟨inside, -⟩ := List.getElem?_eq_some_iff.mp asks
    have length : (requests.take time).length = time := by simp [inside.le]
    have asksName : (requests.take time ++ [.lookup name])[time]? = some (.lookup name) := by
      simp [length]
    have sameRegistry : registryAt (requests.take time ++ [.lookup name]) time =
        registryAt requests time := by
      rw [registryAt, List.take_append_of_le_length length.ge, List.take_take, min_self, registryAt]
    rw [answer_of_lookup asksName, sameRegistry, mem_names_iff]
    cases (registryAt requests time).find? name <;> simp

/-- The standard pass, another one under its name, one without a name, and two questions. -/
def sampleRequests : List Request :=
  [.registerStandard, .register { constructorCallsEntry with summary := "another" },
    .register { constructorCallsEntry with name := "" }, .lookup constructorCalls, .lookup ""]

theorem registry_keeps_first_registrations_sample :
    (empty.answers sampleRequests)[1]? = some (.refused (.duplicate constructorCalls)) ∧
      (empty.answers sampleRequests)[2]? = some (.refused (.invalidEntry "")) ∧
      (∃ pass, (empty.answers sampleRequests)[3]? = some (.found pass) ∧
        pass.entry = constructorCallsEntry) ∧
      (empty.answers sampleRequests).eraseIdx 1 = empty.answers (sampleRequests.eraseIdx 1) := by
  obtain ⟨stands, leaveOut, -⟩ := registry_keeps_first_registrations sampleRequests
  have registers : Registers sampleRequests (empty.answers sampleRequests) 0
      constructorCallsEntry := by
    refine ⟨rfl, (stands.accepted 0 _ rfl).mpr ⟨?_, ?_⟩⟩
    · simp [Entry.IsInvalid, constructorCallsEntry, constructorCalls]
    · rintro ⟨earlier, before, -⟩
      exact Nat.not_lt_zero earlier before
  have refused : (empty.answers sampleRequests)[1]? =
      some (.refused (.duplicate constructorCalls)) := by
    refine (stands.duplicate 1 _ rfl).mpr ⟨?_, 0, Nat.zero_lt_one, _, registers, rfl⟩
    simp [Entry.IsInvalid, constructorCallsEntry, constructorCalls]
  refine ⟨refused, (stands.invalid 2 _ rfl).mpr (Or.inl rfl), ?_, ?_⟩
  · refine ⟨⟨constructorCalls, _, _, _⟩, (stands.found 3 constructorCalls rfl _).mpr ⟨rfl, 0, ?_⟩,
      rfl⟩
    exact ⟨by decide, registers⟩
  · exact leaveOut [.registerStandard] _ _ rfl (by simp [refused])

end Registry
end Pass
end CtorScan
