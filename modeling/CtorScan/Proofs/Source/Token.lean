import CtorScan.Source.Token
import Mathlib.Data.List.Infix

/-!
# Items are taken from the front of a text

Whatever stands at the start of a source text, the text that it takes is a start of
that text.  Line feeds end lines, and a comment after two slashes takes the rest of
its line.
-/

namespace CtorScan
namespace Source

/-! ## Parts of a text in a row -/

/-- What follows a start of a text may be taken too. -/
theorem append_isPrefix_of_drop
    {first second text : List α}
    (taken : first <+: text)
    (next : second <+: text.drop first.length) :
    first ++ second <+: text := by
  obtain ⟨rest, rfl⟩ := taken
  rw [List.drop_left] at next
  exact (List.prefix_append_right_inj first).mpr next

theorem upToQuote_isPrefix
    {quote : Char}
    {text taken : List Char}
    (found : upToQuote quote text = some taken) :
    taken <+: text := by
  fun_induction upToQuote quote text generalizing taken with
  | case1 => contradiction
  | case2 c rest inductionHypothesis =>
      obtain ⟨later, inner, rfl⟩ := Option.map_eq_some_iff.mp found
      exact List.cons_prefix_cons.mpr ⟨rfl, List.cons_prefix_cons.mpr
        ⟨rfl, inductionHypothesis inner⟩⟩
  | case3 => contradiction
  | case4 c rest =>
      obtain rfl := Option.some.inj found
      exact List.cons_prefix_cons.mpr ⟨rfl, List.nil_prefix⟩
  | case5 c rest _ _ _ inductionHypothesis =>
      obtain ⟨later, inner, rfl⟩ := Option.map_eq_some_iff.mp found
      exact List.cons_prefix_cons.mpr ⟨rfl, inductionHypothesis inner⟩

theorem upToCommentEnd_isPrefix
    {text taken : List Char}
    (found : upToCommentEnd text = some taken) :
    taken <+: text := by
  fun_induction upToCommentEnd text generalizing taken with
  | case1 => contradiction
  | case2 rest =>
      obtain rfl := Option.some.inj found
      exact ⟨rest, rfl⟩
  | case3 c rest _ inductionHypothesis =>
      obtain ⟨later, inner, rfl⟩ := Option.map_eq_some_iff.mp found
      exact List.cons_prefix_cons.mpr ⟨rfl, inductionHypothesis inner⟩

/-! ## Numbers -/

namespace NumberParts

theorem splitStart_append (text : List Char) :
    (splitStart text).2.1 ++ (splitStart text).2.2 = text := by
  unfold splitStart
  split
  · split <;> rfl
  · rfl
  · rfl

theorem exponentOf_isPrefix (text : List Char) :
    exponentOf text <+: text := by
  unfold exponentOf
  split
  · rename_i letter rest
    split
    · refine List.cons_prefix_cons.mpr ⟨rfl, ?_⟩
      split
      · exact List.cons_prefix_cons.mpr ⟨rfl, List.takeWhile_prefix _⟩
      · exact List.cons_prefix_cons.mpr ⟨rfl, List.takeWhile_prefix _⟩
      · exact List.takeWhile_prefix _
    · exact List.nil_prefix
  · exact List.nil_prefix

theorem fraction_isPrefix
    (mark : Char)
    (text : List Char) :
    (match text with
      | '.' :: rest => '.' :: rest.takeWhile (takesDigit mark)
      | _ => []) <+: text := by
  split
  · exact List.cons_prefix_cons.mpr ⟨rfl, List.takeWhile_prefix _⟩
  · exact List.nil_prefix

theorem imaginary_isPrefix (text : List Char) :
    (if (text.head? == some 'i') = true then ['i'] else []) <+: text := by
  cases text with
  | nil => exact List.nil_prefix
  | cons c rest =>
      split
      · rename_i isLetter
        obtain rfl : c = 'i' := by simpa using isLetter
        exact ⟨rest, rfl⟩
      · exact List.nil_prefix

/-- A number is taken from the front of its text. -/
theorem text_ofText_isPrefix (text : List Char) :
    (ofText text).text <+: text := by
  have whole := splitStart_append text
  unfold ofText NumberParts.text body
  generalize splitStart text = parts at whole
  obtain ⟨mark, start, rest⟩ := parts
  subst whole
  simp only [List.append_assoc]
  refine (List.prefix_append_right_inj start).mpr ?_
  refine append_isPrefix_of_drop ( List.takeWhile_prefix _) ?_
  refine append_isPrefix_of_drop (fraction_isPrefix mark _) ?_
  refine append_isPrefix_of_drop (exponentOf_isPrefix _) ?_
  exact imaginary_isPrefix _

end NumberParts

/-! ## Items -/

theorem quotedItem?_isPrefix
    {quote : Char}
    {rest taken : List Char}
    {item : Item}
    (found : quotedItem? quote rest = some (item, taken)) :
    taken <+: quote :: rest ∧ ∃ token, item = .token token := by
  simp only [quotedItem?, Option.bind_eq_bind, Option.bind_eq_some_iff] at found
  obtain ⟨body, atQuote, found⟩ := found
  have front : quote :: body <+: quote :: rest :=
    List.cons_prefix_cons.mpr ⟨rfl, upToQuote_isPrefix atQuote⟩
  split at found
  · obtain ⟨bytes, -, found⟩ := Option.bind_eq_some_iff.mp found
    obtain ⟨rfl, rfl⟩ := Prod.mk.inj (Option.some.inj found)
    exact ⟨front, _, rfl⟩
  · obtain ⟨code, -, found⟩ := Option.bind_eq_some_iff.mp found
    obtain ⟨rfl, rfl⟩ := Prod.mk.inj (Option.some.inj found)
    exact ⟨front, _, rfl⟩

theorem closing_isPrefix
    {closing : Char}
    {text : List Char}
    (closed : closing ∈ text) :
    [closing] <+: text.drop (text.takeWhile (· != closing)).length := by
  induction text with
  | nil => simp at closed
  | cons c rest inductionHypothesis =>
      by_cases here : c = closing
      · subst here
        simp
      · have later := inductionHypothesis (by simpa [Ne.symm here] using closed)
        simpa [here] using later

theorem rawItem?_isPrefix
    {rest taken : List Char}
    {item : Item}
    (found : rawItem? rest = some (item, taken)) :
    taken <+: rawQuote :: rest ∧ ∃ token, item = .token token := by
  unfold rawItem? at found
  split at found
  · rename_i closed
    obtain ⟨rfl, rfl⟩ := Prod.mk.inj (Option.some.inj found)
    refine ⟨List.cons_prefix_cons.mpr ⟨rfl, ?_⟩, _, rfl⟩
    exact append_isPrefix_of_drop ( List.takeWhile_prefix _)
      (closing_isPrefix (by simpa using closed))
  · contradiction

theorem numberItem?_isPrefix
    {text taken : List Char}
    {item : Item}
    (found : numberItem? text = some (item, taken)) :
    taken <+: text ∧ ∃ token, item = .token token := by
  simp only [numberItem?] at found
  split at found
  · obtain ⟨rfl, rfl⟩ := Prod.mk.inj (Option.some.inj found)
    exact ⟨NumberParts.text_ofText_isPrefix text, _, rfl⟩
  · contradiction

theorem symbolItem?_isPrefix
    {text taken : List Char}
    {item : Item}
    (found : symbolItem? text = some (item, taken)) :
    taken <+: text ∧ ∃ token, item = .token token := by
  obtain ⟨symbol, atSymbol, equal⟩ := Option.map_eq_some_iff.mp found
  obtain ⟨rfl, rfl⟩ := Prod.mk.inj equal
  have starts := List.find?_some atSymbol
  exact ⟨by simpa [ List.isPrefixOf_iff_prefix] using starts, _, rfl⟩

/-- What an item takes, by the kind of the item. -/
def Item.Takes : Item -> List Char -> List Char -> Prop
  | .token _, text, _ => ∀ rest, text ≠ '\n' :: rest
  | .blank, text, _ => ∀ rest, text ≠ '\n' :: rest
  | .lineEnd, text, taken => taken = ['\n'] ∧ ∃ rest, text = '\n' :: rest
  | .comment, text, taken =>
      (∃ rest, text = '/' :: '/' :: rest ∧ taken = '/' :: '/' :: rest.takeWhile (· != '\n')) ∨
        (∃ rest body, text = '/' :: '*' :: rest ∧ taken = '/' :: '*' :: body)

/-- An item takes a start of the text, a line end takes a line feed, and a comment
after two slashes takes the rest of the line. -/
theorem item?_takes
    {text taken : List Char}
    {item : Item}
    (found : item? text = some (item, taken)) :
    taken <+: text ∧ item.Takes text taken := by
  unfold item? at found
  split at found
  · contradiction
  · obtain ⟨rfl, rfl⟩ := Prod.mk.inj (Option.some.inj found)
    exact ⟨⟨_, rfl⟩, rfl, _, rfl⟩
  · obtain ⟨rfl, rfl⟩ := Prod.mk.inj (Option.some.inj found)
    exact ⟨⟨_, rfl⟩, by simp [Item.Takes]⟩
  · obtain ⟨rfl, rfl⟩ := Prod.mk.inj (Option.some.inj found)
    exact ⟨⟨_, rfl⟩, by simp [Item.Takes]⟩
  · obtain ⟨rfl, rfl⟩ := Prod.mk.inj (Option.some.inj found)
    exact ⟨⟨_, rfl⟩, by simp [Item.Takes]⟩
  · rename_i rest
    obtain ⟨rfl, rfl⟩ := Prod.mk.inj (Option.some.inj found)
    refine ⟨?_, Or.inl ⟨rest, rfl, rfl⟩⟩
    exact List.cons_prefix_cons.mpr ⟨rfl, List.cons_prefix_cons.mpr
      ⟨rfl, List.takeWhile_prefix _⟩⟩
  · rename_i rest
    obtain ⟨body, ends, equal⟩ := Option.map_eq_some_iff.mp found
    obtain ⟨rfl, rfl⟩ := Prod.mk.inj equal
    refine ⟨?_, Or.inr ⟨rest, body, rfl, rfl⟩⟩
    exact List.cons_prefix_cons.mpr ⟨rfl, List.cons_prefix_cons.mpr
      ⟨rfl, upToCommentEnd_isPrefix ends⟩⟩
  · obtain ⟨front, token, rfl⟩ := quotedItem?_isPrefix found
    exact ⟨front, by simp [Item.Takes]⟩
  · obtain ⟨front, token, rfl⟩ := quotedItem?_isPrefix found
    exact ⟨front, by simp [Item.Takes]⟩
  · rename_i c rest notFeed _ _ _ _ _ _ _
    have elsewhere : ∀ token, (Item.token token).Takes (c :: rest) taken := by
      intro token others equal
      exact notFeed (List.cons.inj equal).1
    split at found
    · rename_i isRaw
      obtain rfl : c = rawQuote := by simpa using isRaw
      obtain ⟨front, token, rfl⟩ := rawItem?_isPrefix found
      exact ⟨front, elsewhere token⟩
    · split at found
      · obtain ⟨rfl, rfl⟩ := Prod.mk.inj (Option.some.inj found)
        exact ⟨List.cons_prefix_cons.mpr ⟨rfl, List.takeWhile_prefix _⟩, elsewhere _⟩
      · split at found
        · obtain ⟨front, token, rfl⟩ := numberItem?_isPrefix found
          exact ⟨front, elsewhere token⟩
        · obtain ⟨front, token, rfl⟩ := symbolItem?_isPrefix found
          exact ⟨front, elsewhere token⟩

end Source
end CtorScan
