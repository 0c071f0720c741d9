import StoryMix.Numeral.Exact

/-!
# Shortest decimals

The decimal with the fewest digits among those that read back as a given float. The float stands for
the interval of numbers that round to it, whose ends belong to it when its mantissa is even. On the
grid of decimals of a given length only the two neighbours of the value need a look: if any point of
the grid lies in the interval, one of them does. The first grid with a hit wins, of two hits the
nearer, and of two equally near the even one.
-/

namespace StoryMix.Numeral

/-- The number `digits * 10 ^ exponent`. -/
structure Decimal where
  digits : Nat
  exponent : Int
  deriving DecidableEq, Repr

/-- `m * 2 ^ q < 10 ^ k`. -/
def belowPower (m : Nat) (q k : Int) : Bool :=
  numerator m q * tenTo (-k).toNat < tenTo k.toNat * denominator q

/-- The least power of ten above the value, looked for from `k` upwards in `fuel` steps. -/
def magnitudeFrom (m : Nat) (q : Int) : Nat → Int → Int
  | 0, k => k
  | fuel + 1, k => if belowPower m q k then k else magnitudeFrom m q fuel (k + 1)

/-- The least `k` with `m * 2 ^ q < 10 ^ k`. The binary logarithm tells it but for the last steps. -/
def magnitude (m : Nat) (q : Int) : Int :=
  magnitudeFrom m q 4 ((m.log2 + q) * 30103 / 100000)

/-- The interval of numbers that round to `m * 2 ^ q`, in units of `2 ^ (q - 2)`. Below a power of
two the neighbouring float is only half as far away. -/
def lowerEnd (m : Nat) (q : Int) : Nat :=
  if m = hiddenBit ∧ -1074 < q then 4 * m - 1 else 4 * m - 2

/-- The other end of the interval, in the same units. -/
def upperEnd (m : Nat) : Nat :=
  4 * m + 2

/-- `d * 10 ^ t` rounds to `m * 2 ^ q`. -/
def readsBack (m : Nat) (q : Int) (d : Nat) (t : Int) : Bool :=
  let unit := numerator 1 (q - 2) * tenTo (-t).toNat
  let point := d * tenTo t.toNat * denominator (q - 2)
  if m % 2 = 0 then lowerEnd m q * unit ≤ point && point ≤ upperEnd m * unit
  else lowerEnd m q * unit < point && point < upperEnd m * unit

/-- The greatest `d` with `d * 10 ^ t ≤ m * 2 ^ q`. -/
def gridFloor (m : Nat) (q t : Int) : Nat :=
  numerator m q * tenTo (-t).toNat / (tenTo t.toNat * denominator q)

/-- Twice the value lies above, on or below `(2 * d + 1) * 10 ^ t`. -/
def compareMiddle (m : Nat) (q : Int) (d : Nat) (t : Int) : Ordering :=
  compare (2 * (numerator m q * tenTo (-t).toNat)) ((2 * d + 1) * (tenTo t.toNat * denominator q))

/-- The point of the grid of step `10 ^ t` that reads back and is nearest to the value. -/
def onGrid (m : Nat) (q t : Int) : Option Nat :=
  let d := gridFloor m q t
  match readsBack m q d t, readsBack m q (d + 1) t with
  | true, false => some d
  | false, true => some (d + 1)
  | false, false => none
  | true, true =>
    match compareMiddle m q d t with
    | .lt => some d
    | .gt => some (d + 1)
    | .eq => some (if d % 2 = 0 then d else d + 1)

/-- Tries grids of step `10 ^ t`, each ten times finer than the last. -/
def shortestFrom (m : Nat) (q : Int) : Nat → Int → Decimal
  | 0, t => ⟨gridFloor m q t, t⟩
  | fuel + 1, t =>
    match onGrid m q t with
    | some d => ⟨d, t⟩
    | none => shortestFrom m q fuel (t - 1)

/-- The shortest decimal that reads back as `m * 2 ^ q`. Seventeen digits are always enough. -/
def shortest (m : Nat) (q : Int) : Decimal :=
  shortestFrom m q 17 (magnitude m q - 1)

end StoryMix.Numeral
