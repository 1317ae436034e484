import CtorScan.Proofs.Directive.Writing

/-!
# A dash without a reason

A reason is cut off at a dash between spaces.  Blanks at the end of a comment are trimmed
before that, so a dash with nothing after it has no space behind it and is not cut off.  A
directive without names still takes it for an empty reason, but a directive with names takes
it for a part of the last one.
-/

namespace CtorScan
namespace Directive

/-! ## Names joined by commas -/

/-- Names with nothing but commas between them. -/
def joined (names : List Name) : List Char :=
  Text.joinWith [','] (names.map fun name => name.text.toList)

/-- Names before a last one, with nothing but commas between them. -/
def Listing.ofNames
    (last : Name) : List Name -> Listing
  | [] => .last last
  | name :: rest => .more name 0 0 (ofNames last rest)

namespace Listing

theorem init_ofNames
    (last : Name)
    (early : List Name) :
    (ofNames last early).init = early := by
  induction early with
  | nil => rfl
  | cons name rest inductionHypothesis => rw [ofNames, init, inductionHypothesis]

theorem final_ofNames
    (last : Name)
    (early : List Name) :
    (ofNames last early).final = last := by
  induction early with
  | nil => rfl
  | cons name rest inductionHypothesis => rw [ofNames, final, inductionHypothesis]

theorem text_ofNames
    (last : Name)
    (early : List Name) :
    (ofNames last early).text = joined (early ++ [last]) := by
  induction early with
  | nil => rfl
  | cons name rest inductionHypothesis =>
      rw [ofNames, text, inductionHypothesis]
      cases rest <;> simp [spaces, joined, Text.joinWith]

end Listing

/-! ## The dash -/

theorem trimEnd_dash
    (text : List Char)
    {blanks : List Char}
    (blank : Text.Blank blanks) :
    Text.trimEnd (text ++ ' ' :: '-' :: blanks) = text ++ [' ', '-'] := by
  have visible : Text.isBlank '-' = false := by decide
  have trimmed := Text.trimEnd_append_cons visible (text ++ [' ']) blanks
  rw [Text.trimEnd_eq_nil_of_blank blank] at trimmed
  simpa using trimmed

theorem solid_text_dash (listing : Listing) : Text.Solid (listing.text ++ [' ', '-']) := by
  have dash : Text.Solid ['-'] := Text.solid_of_visible (by simp) (by simp [Text.isBlank])
  exact listing.solid_text.append [' '] dash

/-- The dash is not cut off the names. -/
theorem withoutReason_dash (listing : Listing) :
    withoutReason (spaces 1 ++ (listing.text ++ [' ', '-'])) = listing.text ++ [' ', '-'] := by
  have nothing : Text.Blank [] := by simp [Text.Blank]
  have noReason : Text.before [' ', '-', ' '] [' ', '-'] = [' ', '-'] := rfl
  have noComment : Text.before [' ', '/', '/'] [' ', '-'] = [' ', '-'] := rfl
  have surrounded := Text.trim_surrounded (blank_spaces 1) (solid_text_dash listing) nothing
  rw [withoutReason, listing.before_text isMark_dash (endsName_space _), noReason,
    listing.before_text isMark_comment (endsName_space _), noComment]
  simpa using surrounded

/-- The dash is read as part of the last name. -/
theorem ofComment?_names_dash
    (leading : Nat)
    (listing : Listing)
    {blanks : List Char}
    (blank : Text.Blank blanks) :
    ofComment? (written leading (spaces 1 ++ (listing.text ++ ' ' :: '-' :: blanks))) =
      some (some (listing.init.map Name.text ++ [listing.final.text ++ " -"])) := by
  have trimmed : Text.trimEnd (spaces 1 ++ (listing.text ++ ' ' :: '-' :: blanks)) =
      spaces 1 ++ (listing.text ++ [' ', '-']) := by
    rw [← List.append_assoc, trimEnd_dash _ blank, List.append_assoc]
  have found : body? (written leading
      (spaces 1 ++ (listing.text ++ ' ' :: '-' :: blanks))).toList =
        some (spaces 1 ++ (listing.text ++ [' ', '-'])) :=
    body?_written_of_cons trimmed leading
  have list := withoutReason_dash listing
  have solid : Text.Solid (listing.final.text.toList ++ [' ', '-']) :=
    solid_text_dash (.last listing.final)
  have names := listing.names_text (by decide) solid
  have lastName : String.ofList (listing.final.text.toList ++ [' ', '-']) =
      listing.final.text ++ " -" := by
    apply String.toList_inj.mp
    simp
  obtain ⟨c, tail, chars, -⟩ := listing.solid_text.starts
  have notDash : listing.text ++ [' ', '-'] ≠ ['-'] := by simp [chars]
  simp [ofComment?, found, list, notDash, names, lastName]

/-- Without names, the dash is an empty reason. -/
theorem ofComment?_nothing_dash
    (leading : Nat)
    {blanks : List Char}
    (blank : Text.Blank blanks) :
    ofComment? (written leading (' ' :: ' ' :: '-' :: blanks)) = some none := by
  have found : body? (written leading (' ' :: ' ' :: '-' :: blanks)).toList =
      some [' ', ' ', '-'] :=
    body?_written_of_cons (trimEnd_dash [' '] blank) leading
  have list : withoutReason [' ', ' ', '-'] = ['-'] := by decide
  simp [ofComment?, found, list]

/-! ## With and without the dash -/

theorem ofComment?_joined
    (leading : Nat)
    (early : List Name)
    (last : Name) :
    ofComment? (written leading (' ' :: joined (early ++ [last]))) =
      some (some (early.map Name.text ++ [last.text])) := by
  have read := ofComment?_written_names leading 0 (.ofNames last early) .nothing
  rw [Listing.text_ofNames, Trailer.text, List.append_nil, Listing.names, Listing.init_ofNames,
    Listing.final_ofNames] at read
  exact read

theorem ofComment?_joined_dash
    (leading : Nat)
    (early : List Name)
    (last : Name)
    {blanks : List Char}
    (blank : Text.Blank blanks) :
    ofComment? (written leading (' ' :: (joined (early ++ [last]) ++ ' ' :: '-' :: blanks))) =
      some (some (early.map Name.text ++ [last.text ++ " -"])) := by
  have read := ofComment?_names_dash leading (.ofNames last early) blank
  rw [Listing.text_ofNames, Listing.init_ofNames, Listing.final_ofNames] at read
  exact read

/-- A dash with only white space after it leaves a directive as it is exactly when no names
are listed.  After names, all but the last are still read, and the dash is read as the end of
the last one. -/
theorem dash_without_reason_joins_last_name
    (leading : Nat)
    (names : List Name)
    {blanks : List Char}
    (blank : Text.Blank blanks) :
    let plain := ofComment? (written leading (' ' :: joined names))
    let dashed := ofComment? (written leading (' ' :: (joined names ++ ' ' :: '-' :: blanks)))
    (dashed = plain ↔ names = []) ∧
      (names = [] -> plain = some none) ∧
      ∀ {early : List Name} {last : Name}, names = early ++ [last] ->
        plain = some (some (early.map Name.text ++ [last.text])) ∧
          dashed = some (some (early.map Name.text ++ [last.text ++ " -"])) := by
  have nothing : ofComment? (written leading [' ']) = some none :=
    ofComment?_written_nothing leading 1 .nothing
  refine ⟨⟨?_, ?_⟩, ?_, ?_⟩
  · intro same
    rcases List.eq_nil_or_concat names with empty | ⟨early, last, rfl⟩
    · exact empty
    · rw [List.concat_eq_append, ofComment?_joined, ofComment?_joined_dash _ _ _ blank] at same
      simp at same
  · rintro rfl
    exact (ofComment?_nothing_dash leading blank).trans nothing.symm
  · rintro rfl
    exact nothing
  · rintro early last rfl
    exact ⟨ofComment?_joined leading early last,
      ofComment?_joined_dash leading early last blank⟩

theorem dash_without_reason_joins_last_name_sample :
    Text.Blank [' ', '\t'] ∧
      written 0 (' ' :: (joined [sampleMarked, sampleCopy] ++ [' ', '-', ' ', '\t'])) =
        "//implicitctor:ignore -//-,copy - \t" ∧
      ofComment? "//implicitctor:ignore -//-,copy - \t" = some (some ["-//-", "copy -"]) := by
  have blank : Text.Blank [' ', '\t'] := by simp [Text.Blank, Text.isBlank]
  have text : written 0 (' ' :: (joined [sampleMarked, sampleCopy] ++ [' ', '-', ' ', '\t'])) =
      "//implicitctor:ignore -//-,copy - \t" := by decide
  refine ⟨blank, text, ?_⟩
  obtain ⟨-, -, listed⟩ :=
    dash_without_reason_joins_last_name 0 [sampleMarked, sampleCopy] blank
  rw [← text]
  have split : [sampleMarked, sampleCopy] = [sampleMarked] ++ [sampleCopy] := rfl
  exact (listed split).2

/-- A dash without a reason turns a directive for a known kind into one for an unknown. -/
theorem dash_without_reason_hides_copy :
    written 0 (' ' :: joined [sampleCopy]) = "//implicitctor:ignore copy" ∧
      written 0 (' ' :: (joined [sampleCopy] ++ [' ', '-'])) = "//implicitctor:ignore copy -" ∧
      ofComment? "//implicitctor:ignore copy -" ≠ ofComment? "//implicitctor:ignore copy" := by
  decide

end Directive
end CtorScan
