/-!
# Texts and their parts

Texts are searched as lists of characters: a pattern occurs in a text when the
text is something, then the pattern, then something.  A character is blank when
the character standard gives it the white-space property, and trimming removes
blanks at both ends of a text.
-/

namespace CtorScan
namespace Text

/-- White space: the controls from tab to carriage return, the spaces of all
widths, and the line and paragraph separators. -/
def isBlank (c : Char) : Bool :=
  let code := c.toNat
  (9 ≤ code && code ≤ 13) || code == 0x20 || code == 0x85 || code == 0xa0 ||
    code == 0x1680 || (0x2000 ≤ code && code ≤ 0x200a) || code == 0x2028 ||
    code == 0x2029 || code == 0x202f || code == 0x205f || code == 0x3000

/-- The text without its leading blanks. -/
def trimStart (text : List Char) : List Char :=
  text.dropWhile isBlank

/-- The text without its trailing blanks. -/
def trimEnd (text : List Char) : List Char :=
  (text.reverse.dropWhile isBlank).reverse

/-- The text without the blanks at its two ends. -/
def trim (text : List Char) : List Char :=
  trimEnd (trimStart text)

/-- The pattern occurs somewhere in the text. -/
def occursIn
    (pattern : List Char) : List Char -> Bool
  | [] => pattern.isEmpty
  | c :: rest => pattern.isPrefixOf (c :: rest) || occursIn pattern rest

@[simp]
theorem occursIn_nil (pattern : List Char) :
    occursIn pattern [] = pattern.isEmpty := rfl

@[simp]
theorem occursIn_cons (pattern : List Char) (c : Char) (rest : List Char) :
    occursIn pattern (c :: rest) =
      (pattern.isPrefixOf (c :: rest) || occursIn pattern rest) := rfl

/-- The part of the text before the first occurrence of the pattern, and the
whole text when there is none. -/
def before
    (pattern : List Char) : List Char -> List Char
  | [] => []
  | c :: rest =>
      if pattern.isPrefixOf (c :: rest) then [] else c :: before pattern rest

/-- The text without the leading pattern, if it starts with it. -/
def afterStart?
    (pattern text : List Char) : Option (List Char) :=
  if pattern.isPrefixOf text then some (text.drop pattern.length) else none

/-- The parts of the text between occurrences of the separator; a text without
separator is one part. -/
def splitAt
    (separator : Char) : List Char -> List (List Char)
  | [] => [[]]
  | c :: rest =>
      if c = separator then
        [] :: splitAt separator rest
      else
        match splitAt separator rest with
        | [] => [[c]]
        | first :: others => (c :: first) :: others

/-- The texts with the separator between each two. -/
def joinWith
    (separator : List Char) : List (List Char) -> List Char
  | [] => []
  | [text] => text
  | text :: texts => text ++ separator ++ joinWith separator texts

/-- The lines of a text, each without the line feed that ends it. -/
def lines (text : String) : List (List Char) :=
  splitAt '\n' text.toList

end Text
end CtorScan
