import StoryMix.Failure
import StoryMix.Script.Line
import StoryMix.Text.Lines

/-!
# Reading a script

A script is read line by line, and the reading stops at the first line that is ill-formed: there is
either an event for every line that says something, or an error that names the line.
-/

namespace StoryMix.Script

/-- The first ill-formed line: its number, counted from one, its text as it stands, what is wrong. -/
structure ScriptError where
  line : Nat
  raw : String
  fault : LineFault
  deriving DecidableEq, Repr

/-- A script error among the failures of a render. -/
def ScriptError.failure (e : ScriptError) : Failure :=
  match e.fault with
  | .unknownAnchor written => .anchor written (some (Float.ofNat e.line))
  | fault => .parse (Float.ofNat e.line) e.raw fault.reason

/-- Reads lines of which the first has number `n`. -/
def readLines (strict : Bool) (n : Nat) : List (List Char) → Except ScriptError (List Event)
  | [] => .ok []
  | raw :: rest =>
    match readLine strict raw with
    | .error fault => .error ⟨n, String.ofList raw, fault⟩
    | .ok said =>
      match readLines strict (n + 1) rest with
      | .error e => .error e
      | .ok events => .ok (said.toList ++ events)

/-- The events of a script. A strict reading refuses unknown parameters of sound effects. -/
def parse (strict : Bool) (script : String) : Except ScriptError (List Event) :=
  readLines strict 1 (Text.lines script.toList)

end StoryMix.Script
