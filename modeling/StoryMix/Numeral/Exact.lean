/-!
# Exact values of floats

A finite float is a whole number times a power of two. Printing, rounding and truncating all start
from that exact value and calculate with whole numbers only.
-/

namespace StoryMix.Numeral

/-- What a float stands for: a finite one is `mantissa * 2 ^ exponent`, with a sign. -/
inductive Exact where
  | nan
  | infinite (negative : Bool)
  | finite (negative : Bool) (mantissa : Nat) (exponent : Int)
  deriving DecidableEq, Repr

/-- The bit of a mantissa that is not written down. -/
def hiddenBit : Nat :=
  0x10000000000000

/-- Reads the sign, the exponent and the fraction of a float off its bits. -/
def Exact.ofFloat (x : Float) : Exact :=
  let bits : Nat := x.toBits.toNat
  let negative := bits / 0x8000000000000000 == 1
  let biased := bits / hiddenBit % 0x800
  let fraction := bits % hiddenBit
  if biased = 2047 then
    if fraction = 0 then .infinite negative else .nan
  else if biased = 0 then .finite negative fraction (-1074)
  else .finite negative (hiddenBit + fraction) ((biased : Int) - 1075)

/-- A power of two. -/
def twoTo (n : Nat) : Nat :=
  Nat.pow 2 n

/-- A power of ten. -/
def tenTo (n : Nat) : Nat :=
  Nat.pow 10 n

/-- The numerator of `m * 2 ^ q`. -/
def numerator (m : Nat) (q : Int) : Nat :=
  m * twoTo q.toNat

/-- The denominator of `m * 2 ^ q`. -/
def denominator (q : Int) : Nat :=
  twoTo (-q).toNat

/-- The nearest whole number to a quotient; a half goes up. -/
def roundHalfUp (num den : Nat) : Nat :=
  (2 * num + den) / (2 * den)

def notANumber : Float :=
  Float.ofBits 0x7FF8000000000000

def infinity : Float :=
  Float.ofBits 0x7FF0000000000000

/-- A float with the sign set as told. -/
def signed (negative : Bool) (x : Float) : Float :=
  if negative then -x else x

/-- The value is a whole number. -/
def isWhole (x : Float) : Bool :=
  match Exact.ofFloat x with
  | .finite _ m q => numerator m q % denominator q == 0
  | _ => false

/-- The whole part, counted modulo `2 ^ 32`; what is not finite counts as zero. -/
def wrapped (x : Float) : UInt32 :=
  match Exact.ofFloat x with
  | .finite negative m q =>
    let whole := UInt32.ofNat (numerator m q / denominator q)
    if negative then -whole else whole
  | _ => 0

/-- The nearest whole number, a half going up: `2.5` to `3` and `-2.5` to `-2`. A negative value
that comes to nothing gives negative zero. -/
def nearestWhole (x : Float) : Float :=
  match Exact.ofFloat x with
  | .finite negative m q =>
    if 0 ≤ q then x
    else if negative then
      -Float.ofNat ((2 * m - denominator q + (2 * denominator q - 1)) / (2 * denominator q))
    else Float.ofNat (roundHalfUp m (denominator q))
  | _ => x

/-- The greater of a number and zero, which is never negative zero. -/
def atLeastZero (x : Float) : Float :=
  if x.isNaN then x else if 0 < x then x else 0

end StoryMix.Numeral
