import StoryMix.Config.Producer
import StoryMix.Value

/-!
# Checking values from outside

A value of no fixed shape is checked field by field and read into a typed one. Nothing is skipped after
a first issue: every field is checked, and all issues are named with the path that leads to them, in the
order of the fields. Fields that are not asked for are ignored.
-/

namespace StoryMix

/-- The kinds of values that an issue can speak of. -/
inductive Kind where
  | missing
  | null
  | boolean
  | number
  | notANumber
  | text
  | list
  | record
  deriving DecidableEq, Repr

def Kind.name : Kind → String
  | missing => "undefined"
  | null => "null"
  | boolean => "boolean"
  | number => "number"
  | notANumber => "nan"
  | text => "string"
  | list => "array"
  | record => "object"

def Value.kind : Value → Kind
  | missing => .missing
  | null => .null
  | bool _ => .boolean
  | number x => if x.isNaN then .notANumber else .number
  | text _ => .text
  | list _ => .list
  | record _ => .record

/-- What is wrong with a value. -/
inductive Fault where
  | required
  | wrongKind (expected received : Kind)
  | emptyText
  | notFinite
  deriving DecidableEq, Repr

def Fault.message : Fault → String
  | required => "Required"
  | wrongKind expected received => "Expected " ++ expected.name ++ ", received " ++ received.name
  | emptyText => "String must contain at least 1 character(s)"
  | notFinite => "Number must be finite"

/-- A fault and the names that lead to it. -/
structure Issue where
  path : List String
  fault : Fault
  deriving DecidableEq, Repr

/-- The path as one text. -/
def Issue.place (issue : Issue) : String :=
  ".".intercalate issue.path

/-- An issue within a list of issues. `whole` stands for the path that leads nowhere. -/
def Issue.text (whole : String) (issue : Issue) : String :=
  (if issue.place = "" then whole else issue.place) ++ ": " ++ issue.fault.message

/-- All issues in one text. -/
def issuesText (whole : String) (issues : List Issue) : String :=
  "; ".intercalate (issues.map (Issue.text whole))

/-- What a check gives: a typed value, or all that is wrong. -/
inductive Checked (α : Type) where
  | ok (a : α)
  | failed (issues : List Issue)

namespace Checked

variable {α β : Type}

/-- Applies one answer to another. The issues of both are kept. -/
def apply : Checked (α → β) → Checked α → Checked β
  | ok f, ok a => ok (f a)
  | ok _, failed issues => failed issues
  | failed issues, ok _ => failed issues
  | failed issues, failed more => failed (issues ++ more)

instance : Applicative Checked where
  pure := ok
  seq f a := apply f (a ())

/-- An answer about the field of this name. -/
def within (name : String) : Checked α → Checked α
  | ok a => ok a
  | failed issues => failed (issues.map fun i => { i with path := name :: i.path })

end Checked

/-- A check of a value. -/
abbrev Check (α : Type) :=
  Value → Checked α

namespace Check

variable {α : Type}

def fault (f : Fault) : Checked α :=
  .failed [⟨[], f⟩]

/-- The fault of a value that should have been of another kind. -/
def mismatch (expected : Kind) : Value → Checked α
  | .missing => fault .required
  | v => fault (.wrongKind expected v.kind)

/-- A text that is not empty. -/
def text : Check String
  | .text s => if s = "" then fault .emptyText else .ok s
  | v => mismatch .text v

/-- A number other than the infinities. -/
def number : Check Float
  | .number x =>
    if x.isNaN then mismatch .number (.number x)
    else if x.isFinite then .ok x
    else fault .notFinite
  | v => mismatch .number v

def flag : Check Bool
  | .bool b => .ok b
  | v => mismatch .boolean v

/-- Checks the entries one after the other and keeps them all, or all their issues. -/
def entries : List (String × Value) → Checked (List (String × String))
  | [] => .ok []
  | (name, v) :: rest => (fun ref refs => (name, ref) :: refs) <$> (text v).within name <*> entries rest

/-- References by speaker, none of them empty. -/
def refs : Check SpeakerRefs
  | .record fields =>
    (fun refs => ⟨refs.filter (·.1 ≠ SpeakerRefs.reserved)⟩) <$> entries (Entries.inOrder fields)
  | v => mismatch .record v

/-- Checks a value only if there is one. -/
def optional (check : Check α) : Check (Option α)
  | .missing => .ok none
  | v => some <$> check v

/-- Checks a value, or takes `default` where there is none. -/
def orDefault (default : α) (check : Check α) : Check α
  | .missing => .ok default
  | v => check v

/-- Checks a field of a record. -/
def field (name : String) (check : Check α) (v : Value) : Checked α :=
  (check (v.field name)).within name

/-- Checks what must be a record. -/
def record (check : Check α) : Check α
  | .record fields => check (.record fields)
  | v => mismatch .record v

end Check

/-- The settings of a render, with what they are when nothing is said. -/
def ProducerConfig.check : Check ProducerConfig :=
  .record fun v => ProducerConfig.mk
    <$> Check.field "assetsDir" (.orDefault "assets" .text) v
    <*> Check.field "outDir" (.orDefault "out" .text) v
    <*> Check.field "speakerRefs" (.orDefault .empty .refs) v
    <*> Check.field "narrationGainDb" (.orDefault 0 .number) v
    <*> Check.field "musicGainDb" (.orDefault (-18) .number) v
    <*> Check.field "ambienceGainDb" (.orDefault (-22) .number) v

end StoryMix
