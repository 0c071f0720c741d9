import StoryMix.Config.SpeakerRefs
import StoryMix.Studio.Files
import StoryMix.Text.Lines
import StoryMix.Text.Pattern

/-!
# Files of variables

A `.env` file sets variables, one a line: `NAME=value` or `NAME: value`, with `export` in front or not,
and a comment after `#`. A value may stand between quotes and then run over several lines. Variables
that are set already keep their value.
-/

namespace StoryMix.EnvFile

open Text (Pattern)

/-- A character of a name: a letter or digit of the basic alphabet, `_`, `.` or `-`. -/
def isNameChar (c : Char) : Bool :=
  c.isAlphanum || c == '_' || c == '.' || c == '-'

/-- Between quotes, in which the quote itself may stand after a backslash. -/
def quotedValue (quote : Char) : Pattern :=
  .all [.blanks, .char quote,
    .many (.either (.both (.char '\\') (.char quote)) (.one (· != quote))), .char quote]

/-- The quotes that a value can stand between. -/
def quotes : List Char :=
  ['\'', '"', Char.ofNat 0x60]

def bareValue : Pattern :=
  .atLeastOne (.one fun c => c != '#' && c != '\r' && c != '\n')

/-- The numbers under which a line holds its name and its value. -/
def nameKey : Nat := 1

def valueKey : Nat := 2

/-- A line that sets a variable. -/
def linePattern : Pattern :=
  .all [.lineStart, .blanks,
    .optional (.all [.word "export", .atLeastOne (.one Text.isBlank)]),
    .hold nameKey (.atLeastOne (.one isNameChar)),
    .either (.all [.blanks, .char '=', .few (.one Text.isBlank)])
      (.all [.char ':', .one Text.isBlank, .few (.one Text.isBlank)]),
    .optional (.hold valueKey (.anyOf (quotes.map quotedValue ++ [bareValue]))),
    .blanks,
    .optional (.both (.char '#') (.many (.one fun c => !Text.endsLine c))),
    .lineEnd]

/-- Lines that stand between two equal quotes. -/
def betweenQuotes : Pattern :=
  .anyOf <| quotes.map fun quote =>
    .all [.lineStart, .char quote, .hold valueKey (.many (.one fun _ => true)), .char quote, .lineEnd]

/-- The line breaks that a value in double quotes can hold as escapes. -/
def withLineBreaks : List Char → List Char
  | '\\' :: 'n' :: cs => '\n' :: withLineBreaks cs
  | '\\' :: 'r' :: cs => '\r' :: withLineBreaks cs
  | c :: cs => c :: withLineBreaks cs
  | [] => []

/-- The value that is meant by what stands after a name. -/
def readValue (cs : List Char) : List Char :=
  let value := Text.trim cs
  let bare := betweenQuotes.replaced valueKey value
  if value.head? = some '"' then withLineBreaks bare else bare

/-- The variables that a text sets, in the order of its lines. -/
def assignments (text : String) : List (String × String) :=
  let lines := Text.joined ['\n'] (Text.lines text.toList)
  ((linePattern.fits lines).map fun line =>
    (String.ofList (line.piece nameKey), String.ofList (readValue (line.piece valueKey)))).filter
      (·.1 ≠ SpeakerRefs.reserved)

/-- Adds the variables of a text. A later line wins over an earlier one, and an environment that has
the variable already wins over both. -/
def addTo (env : Environment) (text : String) : Environment :=
  (assignments text).reverse.foldl (fun env v => env.setNew v.1 v.2) env

/-- Where a file of variables is looked for: in the working directory, then in the one above. -/
def candidates (cwd : String) : List String :=
  [Path.join [cwd, ".env"], Path.join [cwd, "..", ".env"]]

/-- The files of variables that are there. -/
def found (s : Studio) : List String :=
  (candidates s.cwd).filter s.present

/-- Adds the variables of the file at a path. -/
def addFile (path : String) : Action Unit := do
  Files.permit (.read path)
  let text ← Files.find path
  modify fun s => { s with env := addTo s.env text }

/-- Adds the variables of the first file that is there. A file that cannot be read adds nothing, and
developers are warned of it. -/
def load : Action (Option String) := do
  match (found (← get)).head? with
  | none => pure none
  | some path =>
    match ← (addFile path).outcome with
    | .ok _ => pure none
    | .error e =>
      if (← get).env.get? "NODE_ENV" = some "development" then
        pure (some ("[env] Warning loading " ++ path ++ ": " ++ e.message))
      else pure none

end StoryMix.EnvFile
