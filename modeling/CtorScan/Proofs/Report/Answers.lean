import CtorScan.Proofs.Report.Sink

/-!
# What a sink answers

Records are handed to a sink one after the other, and it answers each of them.  A sink for
JSON lines fails in two ways.  A record whose kind has no name is not written, and that is
forgotten at once.  A write that the writer refuses is remembered for good: from then on
every record gets that answer, and the writer is not asked any more.
-/

namespace CtorScan

theorem Kind.shortName?_of_notMem_named
    {kind : Kind}
    (unnamed : kind ∉ named) :
    kind.shortName? = none := by
  simp only [named, List.mem_cons, List.not_mem_nil, or_false, not_or] at unnamed
  obtain ⟨notDefault, notCopy, notParameterized⟩ := unnamed
  simp [shortName?, notDefault, notCopy, notParameterized]

namespace Report

/-- The records whose kinds have names, in order. -/
def writable (records : List Record) : List Record :=
  records.filter fun record => record.kind ∈ Kind.named

theorem writable_cons_of_mem
    {record : Record}
    (named : record.kind ∈ Kind.named)
    (rest : List Record) :
    writable (record :: rest) = record :: writable rest :=
  List.filter_cons_of_pos (by simpa using named)

theorem writable_cons_of_notMem
    {record : Record}
    (unnamed : record.kind ∉ Kind.named)
    (rest : List Record) :
    writable (record :: rest) = writable rest :=
  List.filter_cons_of_neg (by simpa using unnamed)

namespace Sink

/-! ## One record after the other -/

/-- The sink after it was handed some records. -/
def after
    (sink : Sink)
    (records : List Record) : Sink :=
  records.foldl (fun sink record => (sink.write record).1) sink

/-- Its answers to these records. -/
def answers (sink : Sink) : List Record -> List (Except WriteError String)
  | [] => []
  | record :: rest => (sink.write record).2 :: (sink.write record).1.answers rest

/-- All that it writes for them; what is answered with an error adds nothing. -/
def output
    (sink : Sink)
    (records : List Record) : String :=
  String.join ((sink.answers records).map fun answer => answer.toOption.getD "")

theorem after_cons
    (sink : Sink)
    (record : Record)
    (rest : List Record) :
    sink.after (record :: rest) = (sink.write record).1.after rest := rfl

/-- The answer to a record is that of the sink after the records before it. -/
theorem getElem?_answers
    (sink : Sink)
    (records : List Record)
    (index : Nat) :
    (sink.answers records)[index]? =
      (records[index]?).map fun record => ((sink.after (records.take index)).write record).2 := by
  induction records generalizing sink index with
  | nil => rfl
  | cons record rest inductionHypothesis =>
      cases index with
      | zero => rfl
      | succ index =>
          rw [answers, List.getElem?_cons_succ, inductionHypothesis, List.getElem?_cons_succ,
            List.take_succ_cons, after_cons]

theorem output_cons
    (sink : Sink)
    (record : Record)
    (rest : List Record) :
    sink.output (record :: rest) =
      (sink.write record).2.toOption.getD "" ++ (sink.write record).1.output rest := by
  rw [output, answers, List.map_cons, String.join_cons]
  rfl

/-- A sink that takes all records writes their texts. -/
theorem output_of_writeAll?
    {sink last : Sink}
    {records : List Record}
    {texts : List String}
    (taken : sink.writeAll? records = some (last, texts)) :
    sink.output records = String.join texts := by
  induction records generalizing sink texts with
  | nil =>
      obtain ⟨-, rfl⟩ := Prod.mk.inj (Option.some.inj taken)
      rfl
  | cons record rest inductionHypothesis =>
      obtain ⟨next, piece, others, written, later, rfl⟩ := writeAll?_cons_eq_some taken
      rw [output_cons, written, inductionHypothesis later, String.join_cons]
      rfl

/-! ## JSON lines and a writer that fails -/

/-- A sink for JSON lines whose writer takes a number of writes, after a number of records
whose kinds have names. -/
def jsonAfter
    (writes : Nat)
    (failure : String)
    (count : Nat) : Sink :=
  json (.failingFrom (writes - count) failure) (writes < count)

section Step

variable {writes count : Nat} {failure : String} {record : Record}

theorem ofFormat_json_eq_jsonAfter :
    ofFormat (.failingFrom writes failure) .json = jsonAfter writes failure 0 := by
  simp [ofFormat, jsonAfter]

theorem write_jsonAfter_of_lt
    (room : count < writes)
    (named : record.kind ∈ Kind.named) :
    (jsonAfter writes failure count).write record =
      (jsonAfter writes failure (count + 1), .ok (Format.json.encoding record)) := by
  have intact : ¬ writes < count := Nat.not_lt_of_lt room
  have accepted : (Writer.failingFrom (writes - count) failure).accept? =
      some (.failingFrom (writes - (count + 1)) failure) := by
    obtain ⟨left, rfl⟩ := Nat.exists_eq_add_of_lt room
    rw [show count + left + 1 - count = left + 1 by omega,
      show count + left + 1 - (count + 1) = left by omega]
    rfl
  simpa [jsonAfter, ofFormat, intact, Nat.not_lt_of_le room] using
    write_ofFormat .json accepted named

theorem write_jsonAfter_self (named : record.kind ∈ Kind.named) :
    (jsonAfter writes failure writes).write record =
      (jsonAfter writes failure (writes + 1), .error (.refused failure)) := by
  simp [jsonAfter, write, Kind.shortName?_of_mem_named named, Writer.failingFrom, Writer.accept?]

/-- A kind without a name is noticed before the writer is asked. -/
theorem write_jsonAfter_of_unnamed
    (intact : count ≤ writes)
    (unnamed : record.kind ∉ Kind.named) :
    (jsonAfter writes failure count).write record =
      (jsonAfter writes failure count, .error (.unwritable record.kind)) := by
  simp [jsonAfter, write, Kind.shortName?_of_notMem_named unnamed, Nat.not_lt_of_le intact]

/-- After a refused write the kind is not looked at and the writer is not asked. -/
theorem write_jsonAfter_of_gt (broken : writes < count) :
    (jsonAfter writes failure count).write record =
      (jsonAfter writes failure count, .error (.refused failure)) := by
  simp [jsonAfter, write, broken, Writer.failingFrom]

theorem jsonAfter_succ_of_gt (broken : writes < count) :
    jsonAfter writes failure (count + 1) = jsonAfter writes failure count := by
  have exhausted : writes - (count + 1) = writes - count := by omega
  simp [jsonAfter, exhausted, broken, Nat.lt_succ_of_lt broken]

/-- One record takes the sink on if its kind has a name, and leaves it otherwise. -/
theorem write_jsonAfter_fst
    (writes count : Nat)
    (failure : String)
    (record : Record) :
    ((jsonAfter writes failure count).write record).1 =
      jsonAfter writes failure (count + (writable [record]).length) := by
  by_cases named : record.kind ∈ Kind.named
  · rw [writable_cons_of_mem named]
    rcases Nat.lt_trichotomy count writes with room | rfl | broken
    · rw [write_jsonAfter_of_lt room named]
      rfl
    · rw [write_jsonAfter_self named]
      rfl
    · rw [write_jsonAfter_of_gt broken]
      exact (jsonAfter_succ_of_gt broken).symm
  · rw [writable_cons_of_notMem named]
    rcases Nat.lt_or_ge writes count with broken | intact
    · rw [write_jsonAfter_of_gt broken]
      rfl
    · rw [write_jsonAfter_of_unnamed intact named]
      rfl

end Step

/-- Only the records whose kinds have names take a sink for JSON lines on. -/
theorem after_jsonAfter
    (writes count : Nat)
    (failure : String)
    (records : List Record) :
    (jsonAfter writes failure count).after records =
      jsonAfter writes failure (count + (writable records).length) := by
  induction records generalizing count with
  | nil => rfl
  | cons record rest inductionHypothesis =>
      have parts : writable (record :: rest) = writable [record] ++ writable rest :=
        List.filter_append [record] rest
      rw [after_cons, write_jsonAfter_fst, inductionHypothesis, parts, List.length_append,
        Nat.add_assoc]

/-- What is written are the lines of the first records whose kinds have names, as many as
the writer takes. -/
theorem output_jsonAfter
    (writes count : Nat)
    (failure : String)
    (records : List Record) :
    (jsonAfter writes failure count).output records =
      String.join (((writable records).take (writes - count)).map Format.json.encoding) := by
  induction records generalizing count with
  | nil => simp [output, answers, writable]
  | cons record rest inductionHypothesis =>
      rcases Nat.lt_or_ge writes count with broken | intact
      · have exhausted : writes - count = 0 := by omega
        rw [output_cons, write_jsonAfter_of_gt broken, inductionHypothesis, exhausted]
        rfl
      · by_cases named : record.kind ∈ Kind.named
        · rw [writable_cons_of_mem named]
          rcases Nat.lt_or_eq_of_le intact with room | rfl
          · have left : writes - count = writes - (count + 1) + 1 := by omega
            rw [output_cons, write_jsonAfter_of_lt room named, inductionHypothesis, left,
              List.take_succ_cons, List.map_cons, String.join_cons]
            rfl
          · have exhausted : count - (count + 1) = count - count := by omega
            rw [output_cons, write_jsonAfter_self named, inductionHypothesis, exhausted,
              Nat.sub_self]
            rfl
        · rw [output_cons, write_jsonAfter_of_unnamed intact named, inductionHypothesis,
            writable_cons_of_notMem named]
          exact String.empty_append

/-- A sink for JSON lines gives up for good when its writer fails.  As long as the writer
takes writes, a record whose kind has a name is answered with its line.  One whose kind has
no name is answered with that; the sink is left as it was, so that its writer was not asked
and later records are not affected.  The first record with a name for which the writer has
no write left is answered with the words of the writer, and so is every record after it,
whatever its kind.  So the lines of the first records with named kinds are all that is
written. -/
theorem json_sink_gives_up_for_good
    (records : List Record)
    (writes : Nat)
    (failure : String) :
    let sink := ofFormat (.failingFrom writes failure) .json
    (∀ {index : Nat} {record : Record}, records[index]? = some record ->
      let count := (writable (records.take index)).length
      let answer := (sink.answers records)[index]?
      (record.kind ∈ Kind.named -> count < writes ->
        answer = some (.ok (Format.json.encoding record))) ∧
      (record.kind ∉ Kind.named -> count ≤ writes ->
        answer = some (.error (.unwritable record.kind)) ∧
          sink.after (records.take (index + 1)) = sink.after (records.take index)) ∧
      (record.kind ∈ Kind.named -> count = writes -> answer = some (.error (.refused failure))) ∧
      (writes < count -> answer = some (.error (.refused failure)))) ∧
    sink.output records =
      String.join (((writable records).take writes).map Format.json.encoding) := by
  intro sink
  have started : sink = jsonAfter writes failure 0 := ofFormat_json_eq_jsonAfter
  have reached : ∀ early : List Record,
      sink.after early = jsonAfter writes failure (writable early).length := by
    intro early
    rw [started, after_jsonAfter, Nat.zero_add]
  refine ⟨?_, by rw [started, output_jsonAfter, Nat.sub_zero]⟩
  intro index record found count answer
  have answered : answer = some ((jsonAfter writes failure count).write record).2 := by
    rw [← reached]
    simp only [answer, getElem?_answers, found, Option.map_some]
  refine ⟨?_, ?_, ?_, ?_⟩
  · intro named room
    rw [answered, write_jsonAfter_of_lt room named]
  · intro unnamed intact
    have same : writable (records.take (index + 1)) = writable (records.take index) := by
      rw [List.take_add_one, found, writable, List.filter_append]
      simp [writable, unnamed]
    rw [answered, write_jsonAfter_of_unnamed intact unnamed, reached, reached, same]
    exact ⟨rfl, rfl⟩
  · intro named exhausted
    rw [answered, exhausted, write_jsonAfter_self named]
  · intro broken
    rw [answered, write_jsonAfter_of_gt broken]

/-- Records with and without names for their kinds, by turns. -/
def mixedRecords : List Record :=
  [⟨"main", "AC1", .default, 1⟩, ⟨"main", "x", ⟨9⟩, 2⟩, ⟨"main", "BC1", .copy, 3⟩,
    ⟨"", "y", ⟨0⟩, 4⟩, ⟨"", "AC1", .parameterized, 5⟩, ⟨"", "z", ⟨-1⟩, 6⟩]

/-- With a writer of two writes, the fourth record still fails on its own, while the sixth
is refused like the fifth. -/
theorem json_sink_gives_up_for_good_mixed :
    let sink := ofFormat (.failingFrom 2 "disk full") .json
    mixedRecords[0]? = some ⟨"main", "AC1", .default, 1⟩ ∧
      (sink.answers mixedRecords)[0]? =
        some (.ok "\x7b\"caller\":\"main\",\"callee\":\"AC1\",\"kind\":\"default\"\x7d\n") ∧
      (sink.answers mixedRecords)[3]? = some (.error (.unwritable ⟨0⟩)) ∧
      (sink.answers mixedRecords)[4]? = some (.error (.refused "disk full")) ∧
      (sink.answers mixedRecords)[5]? = some (.error (.refused "disk full")) ∧
      sink.output mixedRecords =
        "\x7b\"caller\":\"main\",\"callee\":\"AC1\",\"kind\":\"default\"\x7d\n" ++
          "\x7b\"caller\":\"main\",\"callee\":\"BC1\",\"kind\":\"copy\"\x7d\n" := by
  intro sink
  obtain ⟨each, written⟩ := json_sink_gives_up_for_good mixedRecords 2 "disk full"
  have first : mixedRecords[0]? = some ⟨"main", "AC1", .default, 1⟩ := rfl
  have fourth : mixedRecords[3]? = some ⟨"", "y", ⟨0⟩, 4⟩ := rfl
  have fifth : mixedRecords[4]? = some ⟨"", "AC1", .parameterized, 5⟩ := rfl
  have sixth : mixedRecords[5]? = some ⟨"", "z", ⟨-1⟩, 6⟩ := rfl
  refine ⟨first, ((each first).1 (by decide) (by decide)).trans (by decide +kernel),
    ((each fourth).2.1 (by decide) (by decide)).1, (each fifth).2.2.1 (by decide) (by decide),
    (each sixth).2.2.2 (by decide), written.trans (by decide +kernel)⟩

end Sink
end Report
end CtorScan
