import StoryMix.Numeral.Shortest

/-!
# Numbers as text

The text of a number: its shortest decimal, written out while the point lies within twenty-one
digits, or up to six places before them, and with an exponent otherwise. Zero has no sign.
-/

namespace StoryMix.Numeral

/-- The decimal digits of a whole number. -/
def digitsOf (n : Nat) : List Char :=
  Nat.toDigits 10 n

def zeros (n : Nat) : List Char :=
  List.replicate n '0'

/-- Cuts the zeros off the end. -/
def dropTrailingZeros (cs : List Char) : List Char :=
  (cs.reverse.dropWhile (· == '0')).reverse

/-- The exponent of a number, with its sign. -/
def exponentText (e : Int) : List Char :=
  'e' :: (if e < 0 then '-' else '+') :: digitsOf e.natAbs

/-- A decimal as text. The point stands after `point` digits. -/
def Decimal.text (d : Decimal) : List Char :=
  let all := digitsOf d.digits
  let digits := dropTrailingZeros all
  let point := d.exponent + all.length
  let n := digits.length
  if n ≤ point ∧ point ≤ 21 then digits ++ zeros (point.toNat - n)
  else if 0 < point ∧ point ≤ 21 then
    digits.take point.toNat ++ '.' :: digits.drop point.toNat
  else if -6 < point ∧ point ≤ 0 then '0' :: '.' :: zeros (-point).toNat ++ digits
  else
    match digits with
    | [c] => c :: exponentText (point - 1)
    | cs => cs.take 1 ++ '.' :: cs.drop 1 ++ exponentText (point - 1)

def signText (negative : Bool) : String :=
  if negative then "-" else ""

/-- A number as text. -/
def text (x : Float) : String :=
  match Exact.ofFloat x with
  | .nan => "NaN"
  | .infinite negative => signText negative ++ "Infinity"
  | .finite negative m q =>
    if m = 0 then "0" else signText negative ++ String.ofList (shortest m q).text

/-- A whole number as text. -/
def natText (n : Nat) : String :=
  String.ofList (digitsOf n)

end StoryMix.Numeral
