import CtorScan.Report.Sink
import Mathlib.Data.List.Basic

/-!
# What a sink takes

A sink takes records one after the other until it refuses one.  The sinks that write
take as many records as their writer accepts writes, and write the encoding of each in
their format, as long as the kinds of the records have names.
-/

namespace CtorScan

namespace Kind

/-- The kinds that have names are those that can be written. -/
theorem shortName?_of_mem_named
    {kind : Kind}
    (valid : kind ∈ named) :
    kind.shortName? = some kind.shortName := by
  simp only [named, List.mem_cons, List.not_mem_nil, or_false] at valid
  rcases valid with rfl | rfl | rfl <;> rfl

end Kind

namespace Report

namespace Format

/-- The words for a kind in a format. -/
def kindText : Format -> Kind -> String
  | text, ⟨1⟩ => "Default Constructor"
  | text, ⟨2⟩ => "Copy Constructor"
  | text, ⟨3⟩ => "Parameterized Constructor"
  | json, ⟨1⟩ => "default"
  | json, ⟨2⟩ => "copy"
  | json, ⟨3⟩ => "parameterized"
  | _, _ => ""

/-- What is written for a record whose kind has a name: two lines, or an object on one line
without the caller if that is empty. -/
def encoding (format : Format) (record : Record) : String :=
  let kind := format.kindText record.kind
  match format with
  | text => "Implicit constructor detected: " ++ record.callee ++ "\nType: " ++ kind ++ "\n"
  | json =>
      let caller := if record.caller = "" then "" else "\"caller\":" ++ quoted record.caller ++ ","
      "\x7b" ++ caller ++ "\"callee\":" ++ quoted record.callee ++ ",\"kind\":\"" ++ kind ++
        "\"\x7d\n"
where
  /-- A text as it stands in an object. -/
  quoted (text : String) : String := String.ofList (Json.string text)

theorem encoding_text
    {record : Record}
    (valid : record.kind ∈ Kind.named) :
    text.encoding record = Sink.textLines record := by
  have title : ∀ kind ∈ Kind.named, text.kindText kind = kind.title := by decide
  unfold encoding Sink.textLines
  rw [title record.kind valid]

theorem encoding_json
    {record : Record}
    (valid : record.kind ∈ Kind.named) :
    json.encoding record = Json.line record record.kind.shortName := by
  have kinds : ∀ kind ∈ Kind.named,
      Json.string kind.shortName = '"' :: (json.kindText kind).toList ++ ['"'] := by
    decide
  have kind := kinds record.kind valid
  have keys : Json.string "caller" = "\"caller\"".toList ∧
      Json.string "callee" = "\"callee\"".toList ∧ Json.string "kind" = "\"kind\"".toList := by
    decide
  apply String.toList_inj.mp
  unfold encoding Json.line Json.members
  by_cases noCaller : record.caller = "" <;>
    simp [noCaller, Json.member, Text.joinWith, kind, keys, encoding.quoted]

end Format

namespace Writer

/-- The writer after a number of writes, if all of them succeed. -/
def acceptAll? (writer : Writer) : Nat -> Option Writer
  | 0 => some writer
  | count + 1 => writer.accept?.bind fun next => next.acceptAll? count

theorem acceptAll?_reliable (count : Nat) :
    reliable.acceptAll? count = some reliable := by
  induction count with
  | zero => rfl
  | succ count inductionHypothesis => exact inductionHypothesis

/-- A writer takes all writes before the one from which on it fails. -/
theorem acceptAll?_failingFrom
    {write count : Nat}
    (early : count ≤ write)
    (failure : String) :
    (failingFrom write failure).acceptAll? count = some (failingFrom (write - count) failure) := by
  induction count generalizing write with
  | zero => rfl
  | succ count inductionHypothesis =>
      obtain ⟨left, rfl⟩ := Nat.exists_eq_add_of_lt early
      rw [Nat.add_sub_add_right]
      exact inductionHypothesis (Nat.le_add_right count left)

end Writer

namespace Sink

/-- Hand records to a sink one after the other: the sink afterwards and the texts
it wrote, if it takes them all. -/
def writeAll? (sink : Sink) : List Record -> Option (Sink × List String)
  | [] => some (sink, [])
  | record :: rest =>
      match sink.write record with
      | (next, .ok piece) =>
          (writeAll? next rest).map fun (last, texts) => (last, piece :: texts)
      | (_, .error _) => none

theorem writeAll?_cons_eq_some
    {sink last : Sink}
    {record : Record}
    {rest : List Record}
    {texts : List String}
    (taken : sink.writeAll? (record :: rest) = some (last, texts)) :
    ∃ next piece others, sink.write record = (next, .ok piece) ∧
      next.writeAll? rest = some (last, others) ∧ texts = piece :: others := by
  unfold writeAll? at taken
  split at taken
  · rename_i next piece written
    obtain ⟨⟨final, others⟩, later, equal⟩ := Option.map_eq_some_iff.mp taken
    obtain ⟨rfl, rfl⟩ := Prod.mk.inj equal
    exact ⟨next, piece, others, written, later, rfl⟩
  · contradiction

/-- A sink that takes two lists of records takes the second after the first. -/
theorem writeAll?_append_eq_some
    {sink last : Sink}
    {first second : List Record}
    {texts : List String}
    (taken : sink.writeAll? (first ++ second) = some (last, texts)) :
    ∃ middle before after, sink.writeAll? first = some (middle, before) ∧
      middle.writeAll? second = some (last, after) ∧ texts = before ++ after := by
  induction first generalizing sink texts with
  | nil => exact ⟨sink, [], texts, rfl, taken, rfl⟩
  | cons record rest inductionHypothesis =>
      obtain ⟨next, piece, others, written, later, rfl⟩ := writeAll?_cons_eq_some taken
      obtain ⟨middle, before, after, firstTaken, secondTaken, rfl⟩ := inductionHypothesis later
      refine ⟨middle, piece :: before, after, ?_, secondTaken, rfl⟩
      simp [writeAll?, written, firstTaken]

/-- A sink writes one text for each record that it takes. -/
theorem length_of_writeAll?
    {sink last : Sink}
    {records : List Record}
    {texts : List String}
    (taken : sink.writeAll? records = some (last, texts)) :
    texts.length = records.length := by
  induction records generalizing sink texts with
  | nil =>
      obtain ⟨-, rfl⟩ := Prod.mk.inj (Option.some.inj taken)
      rfl
  | cons record rest inductionHypothesis =>
      obtain ⟨next, piece, others, -, later, rfl⟩ := writeAll?_cons_eq_some taken
      rw [List.length_cons, List.length_cons, inductionHypothesis later]

/-! ## Sinks for the formats -/

theorem write_ofFormat
    {writer next : Writer}
    (format : Format)
    {record : Record}
    (accepted : writer.accept? = some next)
    (valid : record.kind ∈ Kind.named) :
    (ofFormat writer format).write record =
      (ofFormat next format, .ok (format.encoding record)) := by
  cases format with
  | text => simp [ofFormat, write, accepted, Format.encoding_text valid]
  | json =>
      simp [ofFormat, write, accepted, Format.encoding_json valid,
        Kind.shortName?_of_mem_named valid]

/-- A writer that fails makes the sink fail with what the writer says. -/
theorem write_ofFormat_of_refused
    {writer : Writer}
    (format : Format)
    {record : Record}
    (refused : writer.accept? = none)
    (valid : record.kind ∈ Kind.named) :
    ∃ broken, (ofFormat writer format).write record =
      (broken, .error (.refused writer.failure)) := by
  cases format with
  | text => exact ⟨text writer, by simp [ofFormat, write, refused]⟩
  | json =>
      refine ⟨json writer true, ?_⟩
      simp [ofFormat, write, refused, Kind.shortName?_of_mem_named valid]

/-- A sink takes as many records as its writer accepts writes. -/
theorem writeAll?_ofFormat
    {writer last : Writer}
    (format : Format)
    {records : List Record}
    (accepted : writer.acceptAll? records.length = some last)
    (valid : ∀ record ∈ records, record.kind ∈ Kind.named) :
    (ofFormat writer format).writeAll? records =
      some (ofFormat last format, records.map format.encoding) := by
  induction records generalizing writer with
  | nil =>
      obtain rfl := Option.some.inj accepted
      rfl
  | cons record rest inductionHypothesis =>
      obtain ⟨next, first, later⟩ := Option.bind_eq_some_iff.mp accepted
      obtain ⟨validRecord, validRest⟩ := List.forall_mem_cons.mp valid
      rw [writeAll?, write_ofFormat format first validRecord]
      simp [inductionHypothesis later validRest]

end Sink
end Report
end CtorScan
