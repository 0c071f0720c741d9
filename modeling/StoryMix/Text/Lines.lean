import StoryMix.Text.Split

/-!
# Lines

A line ends at a carriage return, at a line feed, or at the two together, which count as one end.
-/

namespace StoryMix.Text

/-- The lines of a text, without their ends. There is always at least one. -/
def lines : List Char → List (List Char)
  | [] => [[]]
  | '\r' :: '\n' :: cs => [] :: lines cs
  | c :: cs => if c = '\r' ∨ c = '\n' then [] :: lines cs else onHead (c :: ·) (lines cs)

end StoryMix.Text
