/-!
# Spans of code points

A property of characters is given as data: the runs of code points that have it.
-/

namespace StoryMix.Text

/-- A run of code points: the first and the last one. -/
abbrev Span := Nat × Nat

/-- The character lies in one of the runs. -/
def spanned (spans : List Span) (c : Char) : Bool :=
  spans.any fun s => s.1 ≤ c.toNat && c.toNat ≤ s.2

end StoryMix.Text
