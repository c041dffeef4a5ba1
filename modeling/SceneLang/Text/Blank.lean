import SceneLang.Text.Ranges

/-!
# Blank characters

`isBlank` is the set of characters that count as white space in names: the Unicode spaces and line
separators together with the ASCII controls from tab to carriage return and the four information
separators.  Around a number the information separators do not count, which is `isMargin`.
-/

namespace SceneLang.Text

/-- The ranges of blank characters. -/
def blanks : Ranges := #[
    (0x9, 0xD), (0x1C, 0x20), (0x85, 0x85), (0xA0, 0xA0), (0x1680, 0x1680),
    (0x2000, 0x200A), (0x2028, 0x2029), (0x202F, 0x202F), (0x205F, 0x205F), (0x3000, 0x3000)]

/-- **White space.** -/
def isBlank (c : Char) : Bool := blanks.contains c

/-- **White space that may surround a number**: every blank but the four information separators. -/
def isMargin (c : Char) : Bool :=
  isBlank c && !(0x1C ≤ c.toNat && c.toNat ≤ 0x1F)

/-- Drop the characters of a class from both ends. -/
def trim (p : Char → Bool) (s : List Char) : List Char :=
  ((s.dropWhile p).reverse.dropWhile p).reverse

end SceneLang.Text
