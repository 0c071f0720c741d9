import StoryMix.Numeral.Exact
import StoryMix.Text.Blank

/-!
# Reading numbers

Two readings of numerals. `readDecimal` takes decimal notation with an optional exponent and nothing
else; it is what scripts are written in. `readNumber` is the reading of settings and options: it takes
blanks around the numeral, a blank text for zero, the word `Infinity`, and whole numbers to the base
sixteen, eight and two. Both give the float nearest to the written value.
-/

namespace StoryMix.Numeral

/-- An ASCII decimal digit. -/
def isDigit (c : Char) : Bool :=
  '0' ≤ c && c ≤ '9'

/-- The value of a digit, letters counting on from ten. -/
def digitValue (c : Char) : Nat :=
  if isDigit c then c.toNat - '0'.toNat
  else if 'a' ≤ c && c ≤ 'f' then c.toNat - 'a'.toNat + 10
  else if 'A' ≤ c && c ≤ 'F' then c.toNat - 'A'.toNat + 10
  else 16

/-- The value of a run of digits. -/
def wholeValue (base : Nat) (cs : List Char) : Nat :=
  cs.foldl (fun n c => n * base + digitValue c) 0

/-- Takes a sign off the front; true for minus. -/
def takeSign : List Char → Bool × List Char
  | '+' :: cs => (false, cs)
  | '-' :: cs => (true, cs)
  | cs => (false, cs)

/-- The exponent that ends a numeral: nothing, or a letter e and a whole number. -/
def readExponent : List Char → Option Int
  | [] => some 0
  | c :: cs =>
    let (negative, digits) := takeSign cs
    if (c = 'e' ∨ c = 'E') ∧ digits ≠ [] ∧ digits.all isDigit then
      let n := wholeValue 10 digits
      some (if negative then -n else n)
    else none

/-- The digits before the point, those after it, and the rest. -/
def takeMantissa (cs : List Char) : List Char × List Char × List Char :=
  let whole := cs.takeWhile isDigit
  match cs.dropWhile isDigit with
  | '.' :: rest => (whole, rest.takeWhile isDigit, rest.dropWhile isDigit)
  | rest => (whole, [], rest)

/-- The float nearest to `digits * 10 ^ exponent`. -/
def nearest (digits : Nat) (exponent : Int) : Float :=
  Float.ofScientific digits (exponent < 0) exponent.natAbs

/-- A numeral without a sign. It has a digit before or after the point. -/
def readUnsigned (cs : List Char) : Option Float :=
  let (whole, places, rest) := takeMantissa cs
  if whole = [] ∧ places = [] then none
  else (readExponent rest).map fun e => nearest (wholeValue 10 (whole ++ places)) (e - places.length)

/-- Decimal notation: a sign, digits with a point, an exponent, of which only a digit is required. -/
def readDecimal (cs : List Char) : Option Float :=
  let (negative, numeral) := takeSign cs
  (readUnsigned numeral).map (signed negative)

/-- A whole number to the base sixteen, eight or two, as the letter after the zero says. -/
def readBased : List Char → Option Float
  | '0' :: c :: cs =>
    let base := if c = 'x' ∨ c = 'X' then 16 else if c = 'o' ∨ c = 'O' then 8
      else if c = 'b' ∨ c = 'B' then 2 else 0
    if cs ≠ [] ∧ cs.all (fun d => digitValue d < base) then some (Float.ofNat (wholeValue base cs))
    else none
  | _ => none

/-- The word for infinity, with an optional sign. -/
def readInfinity (cs : List Char) : Option Float :=
  let (negative, word) := takeSign cs
  if word = "Infinity".toList then some (signed negative infinity) else none

/-- Any numeral, blanks around it left aside. What is none is not a number. -/
def readNumber (s : String) : Float :=
  let cs := Text.trim s.toList
  if cs = [] then 0
  else ((readBased cs).or ((readInfinity cs).or (readDecimal cs))).getD notANumber

end StoryMix.Numeral
