import StoryMix.Text.Split

/-!
# Blanks

Which characters are blank, and cutting blanks off the ends of a text. Blank are the horizontal and
vertical spaces, the four line terminators and the byte order mark; the next-line control U+0085 and
the zero-width space U+200B are not.
-/

namespace StoryMix.Text

/-- A space of any width, a tab, a line terminator or a byte order mark. -/
def isBlank (c : Char) : Bool :=
  let n := c.toNat
  (0x9 ≤ n && n ≤ 0xD) || n == 0x20 || n == 0xA0 || n == 0x1680 || (0x2000 ≤ n && n ≤ 0x200A) ||
    n == 0x2028 || n == 0x2029 || n == 0x202F || n == 0x205F || n == 0x3000 || n == 0xFEFF

/-- Cuts the blanks off the front. -/
def trimStart (cs : List Char) : List Char :=
  cs.dropWhile isBlank

/-- Cuts the blanks off the end. -/
def trimEnd (cs : List Char) : List Char :=
  (cs.reverse.dropWhile isBlank).reverse

/-- Cuts the blanks off both ends. -/
def trim (cs : List Char) : List Char :=
  trimEnd (trimStart cs)

/-- The texts between runs of blanks, empty ones left out. -/
def words (cs : List Char) : List (List Char) :=
  (cut isBlank cs).filter (· ≠ [])

/-- Cuts the blanks off both ends of a string. -/
def trimmed (s : String) : String :=
  String.ofList (trim s.toList)

end StoryMix.Text
