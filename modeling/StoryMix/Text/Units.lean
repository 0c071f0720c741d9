/-!
# Sixteen-bit units

Lengths that are reported, the cut of a long text and the places within a text count sixteen-bit units:
a character outside the basic plane counts twice. Half of such a character is no text, and the
replacement character stands for it.
-/

namespace StoryMix.Text

/-- The units of one character: two outside the basic plane. -/
def units (c : Char) : Nat :=
  if 0x10000 ≤ c.toNat then 2 else 1

/-- What stands for half a character. -/
def replacement : Char :=
  Char.ofNat 0xFFFD

/-- The units of a text, one by one. -/
def unitTexts (s : String) : List String :=
  s.toList.flatMap fun c =>
    if 0x10000 ≤ c.toNat then [replacement.toString, replacement.toString] else [c.toString]

/-- The length of a text in units. -/
def unitLength (s : String) : Nat :=
  s.toList.foldl (fun n c => n + units c) 0

/-- The first `n` units. A character that the cut would part leaves a replacement. -/
def takeUnits : Nat → List Char → List Char
  | 0, _ => []
  | _, [] => []
  | n + 1, c :: cs =>
    if 0x10000 ≤ c.toNat then
      match n with
      | 0 => [replacement]
      | m + 1 => c :: takeUnits m cs
    else c :: takeUnits n cs

/-- The two halves of a character outside the basic plane, or the character itself. -/
def unitsOf (c : Char) : List Nat :=
  let n := c.toNat
  if 0x10000 ≤ n then
    [0xD800 + (n - 0x10000) / 0x400, 0xDC00 + (n - 0x10000) % 0x400]
  else [n]

/-- Compares texts unit by unit; the shorter of two texts that agree so far comes first. -/
def unitLe (s t : String) : Bool :=
  let rec go : List Nat → List Nat → Bool
    | [], _ => true
    | _ :: _, [] => false
    | a :: as, b :: bs => if a == b then go as bs else a < b
  go (s.toList.flatMap unitsOf) (t.toList.flatMap unitsOf)

end StoryMix.Text
