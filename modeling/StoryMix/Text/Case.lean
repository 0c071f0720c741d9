import StoryMix.Text.CaseTable

/-!
# Upper and lower case

Full case mapping, in which one character can become several. To lower case a capital sigma becomes
a final sigma where a word ends: after a cased character and before none, those that are passed over
left aside.
-/

namespace StoryMix.Text

/-- The image of a code point under simple mappings. -/
def caseImage (runs : List CaseRun) (n : Nat) : Option Nat :=
  (runs.find? fun r => r.first ≤ n && n ≤ r.last && (n - r.first) % r.step == 0).map fun r =>
    (Int.ofNat n + r.offset).toNat

/-- The image of a character: its expansion, else its simple mapping, else itself. -/
def caseMap (runs : List CaseRun) (expansions : List (Nat × List Nat)) (c : Char) : List Char :=
  match expansions.lookup c.toNat with
  | some image => image.map Char.ofNat
  | none =>
    match caseImage runs c.toNat with
    | some n => [Char.ofNat n]
    | none => [c]

/-- The upper case of a character. -/
def upperChar (c : Char) : List Char :=
  caseMap upperRuns upperExpansions c

/-- The lower case of a character that stands alone. -/
def lowerChar (c : Char) : List Char :=
  caseMap lowerRuns lowerExpansions c

/-- The upper case of a text. -/
def upper (cs : List Char) : List Char :=
  cs.flatMap upperChar

/-- A cased character comes next, those that are passed over left aside. -/
def casedNext (cs : List Char) : Bool :=
  match cs.dropWhile (spanned caseIgnorableSpans) with
  | [] => false
  | c :: _ => spanned casedSpans c

/-- The lower case of a text, of which `before` came earlier, nearest character first. -/
def lowerAfter (before : List Char) : List Char → List Char
  | [] => []
  | c :: cs =>
    (if c = 'Σ' ∧ casedNext before ∧ !casedNext cs then ['ς'] else lowerChar c) ++
      lowerAfter (c :: before) cs

/-- The lower case of a text. -/
def lower (cs : List Char) : List Char :=
  lowerAfter [] cs

/-- The lower case of a string. -/
def lowered (s : String) : String :=
  String.ofList (lower s.toList)

end StoryMix.Text
