import Mathlib.Data.String.Basic

/-!
# The order of bytes

Texts are compared character by character.  This is the order of their bytes too: the
encoding of a smaller character comes before that of a larger one, whatever follows.
-/

namespace CtorScan
namespace Text

/-- The bytes of a text. -/
def bytes (text : String) : List UInt8 :=
  text.toByteArray.data.toList

theorem bytes_eq_flatMap (text : String) :
    bytes text = text.toList.flatMap String.utf8EncodeChar := by
  have encoded : text.toByteArray = text.toList.utf8Encode := by
    rw [← String.toByteArray_ofList, String.ofList_toList]
  rw [bytes, encoded, List.utf8Encode, List.data_toByteArray]

/-- Numbers are compared by all digits but the last, and then by the last. -/
theorem div_lt_or_mod_lt
    {small large : Nat}
    (less : small < large)
    (base : Nat) :
    small / base < large / base ∨
      small / base = large / base ∧ small % base < large % base := by
  rcases Nat.lt_or_eq_of_le (Nat.div_le_div_right less.le : small / base ≤ large / base) with
    leading | same
  · exact Or.inl leading
  · refine Or.inr ⟨same, ?_⟩
    have left := Nat.div_add_mod small base
    have right := Nat.div_add_mod large base
    rw [same] at left
    omega

/-- The encodings of two characters differ at some byte of both, and there the smaller
character has the smaller byte. -/
theorem utf8EncodeChar_append_lt
    {small large : Char}
    (less : small < large)
    (first second : List UInt8) :
    String.utf8EncodeChar small ++ first < String.utf8EncodeChar large ++ second := by
  have codes : small.val.toNat < large.val.toNat := less
  have bound : large.val.toNat < 0x110000 := by
    have valid := large.valid
    rw [UInt32.isValidChar, Nat.isValidChar] at valid
    omega
  unfold String.utf8EncodeChar
  simp only
  generalize small.val.toNat = low at *
  generalize large.val.toNat = high at *
  -- codes are compared digit by digit in base 64, as the continuation bytes hold them
  have last := div_lt_or_mod_lt codes 64
  have middle : low / 64 < high / 64 -> _ := fun before => div_lt_or_mod_lt before 64
  have leading : low / 4096 < high / 4096 -> _ := fun before => div_lt_or_mod_lt before 64
  simp only [Nat.div_div_eq_div_mul, Nat.reduceMul] at middle leading
  split_ifs
  all_goals
    simp only [List.cons_append, List.nil_append, List.cons_lt_cons_iff, UInt8.lt_iff_toNat_lt,
      ← UInt8.toNat_inj, UInt8.toNat_ofNat']
    simp (disch := omega) only [Nat.mod_eq_of_lt]
    omega

theorem flatMap_utf8EncodeChar_lt
    {small large : List Char}
    (less : small < large) :
    small.flatMap String.utf8EncodeChar < large.flatMap String.utf8EncodeChar := by
  induction small generalizing large with
  | nil =>
      obtain ⟨c, rest, rfl⟩ : ∃ c rest, large = c :: rest := by
        cases large with
        | nil => exact absurd less (List.not_lt_nil _)
        | cons c rest => exact ⟨c, rest, rfl⟩
      obtain ⟨byte, bytes, encoded⟩ :=
        List.exists_cons_of_ne_nil (String.utf8EncodeChar_ne_nil (c := c))
      rw [List.flatMap_cons, encoded]
      exact List.nil_lt_cons byte _
  | cons c rest inductionHypothesis =>
      cases large with
      | nil => exact absurd less (List.not_lt_nil _)
      | cons d others =>
          rw [List.flatMap_cons, List.flatMap_cons]
          rcases List.cons_lt_cons_iff.mp less with before | ⟨rfl, within⟩
          · exact utf8EncodeChar_append_lt before _ _
          · exact List.append_left_lt (inductionHypothesis within)

/-- The smaller text has the smaller bytes. -/
theorem bytes_lt_bytes
    {small large : String}
    (less : small < large) :
    bytes small < bytes large := by
  rw [bytes_eq_flatMap, bytes_eq_flatMap]
  exact flatMap_utf8EncodeChar_lt (String.lt_iff_toList_lt.mp less)

end Text
end CtorScan
