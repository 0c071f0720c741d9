import StoryMix.Numeral.Text

/-!
# Fixed places

A number with a fixed number of places after the point, rounded from its exact value, a half going
away from zero. From `10 ^ 21` on the plain text of the number is written instead. A negative number
keeps its sign even if it rounds to zero; negative zero has none.
-/

namespace StoryMix.Numeral

/-- Digits with a point before the last `places` of them, and at least one digit in front. -/
def pointed (places : Nat) (n : Nat) : List Char :=
  let digits := digitsOf n
  let padded := zeros (places + 1 - digits.length) ++ digits
  padded.take (padded.length - places) ++ '.' :: padded.drop (padded.length - places)

/-- The value times `10 ^ places`, rounded. -/
def scaled (places m : Nat) (q : Int) : Nat :=
  roundHalfUp (numerator m q * tenTo places) (denominator q)

/-- A number with `places` places after the point. -/
def fixed (places : Nat) (x : Float) : String :=
  match Exact.ofFloat x with
  | .finite negative m q =>
    if tenTo 21 * denominator q ≤ numerator m q then text x
    else signText (negative && m != 0) ++ String.ofList (pointed places (scaled places m q))
  | _ => text x

/-- Cuts the zeros off the end of a text, and a point that then stands last. A text without a zero
at its end stays whole. -/
def withoutTrailingZeros (cs : List Char) : List Char :=
  let kept := dropTrailingZeros cs
  if kept.length = cs.length then cs
  else if kept.getLast? = some '.' then kept.dropLast
  else kept

end StoryMix.Numeral
