import StoryMix.Numeral.Text
import StoryMix.Text.Units

/-!
# Values

Data of no fixed shape, as it comes from outside: a job payload, the metadata of a sound file, a
value raised by a tool, an argument of a log entry. A field without a value is `missing`.
-/

namespace StoryMix

inductive Value where
  | missing
  | null
  | bool (b : Bool)
  | number (x : Float)
  | text (s : String)
  | list (members : List Value)
  | record (fields : List (String × Value))
  deriving Inhabited

namespace Value

/-- The field of a record; `missing` where there is none. -/
def field (name : String) : Value → Value
  | record fields => (fields.lookup name).getD missing
  | _ => missing

/-- Neither `missing` nor `null`. -/
def isGiven : Value → Bool
  | missing => false
  | null => false
  | _ => true

/-- The first value if it is given, else the second. -/
def orElse (v w : Value) : Value :=
  if v.isGiven then v else w

/-- A value that counts as false: nothing, false, zero, not a number, the empty text. -/
def isFalsy : Value → Bool
  | missing => true
  | null => true
  | bool b => !b
  | number x => x == 0 || x.isNaN
  | text s => s == ""
  | _ => false

/-- An optional text as a value. -/
def ofText? : Option String → Value
  | some s => text s
  | none => missing

/-- A whole number as a value. -/
def ofNat (n : Nat) : Value :=
  number (Float.ofNat n)

mutual

/-- A value written out within a message, if it can be. The members of a list stand between commas, and
nothing stands for a member without a value. A record is only called one, and not even that if a field
of its own stands where all records have the way they are written out. -/
def written? : Value → Option String
  | missing => some "undefined"
  | null => some "null"
  | bool b => some (if b then "true" else "false")
  | number x => some (Numeral.text x)
  | text s => some s
  | list members => (membersWritten? members).map (",".intercalate ·)
  | record fields =>
    match fields.lookup "toString" with
    | none => some "[object Object]"
    | some _ => none

def membersWritten? : List Value → Option (List String)
  | [] => some []
  | missing :: vs => (membersWritten? vs).map ("" :: ·)
  | null :: vs => (membersWritten? vs).map ("" :: ·)
  | v :: vs => do return (← written? v) :: (← membersWritten? vs)

end

/-- The text of a value; no text if it cannot be written out. -/
def written (v : Value) : String :=
  v.written?.getD ""

/-- The parts of a value by name: the fields of a record, the members of a list by their place, the
units of a text by theirs. -/
def parts : Value → List (String × Value)
  | record fields => fields
  | list members => members.zipIdx.map fun (v, i) => (Numeral.natText i, v)
  | text s => (Text.unitTexts s).zipIdx.map fun (t, i) => (Numeral.natText i, text t)
  | _ => []

end Value

end StoryMix
