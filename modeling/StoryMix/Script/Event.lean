import StoryMix.Text.Case
import StoryMix.Text.Blank

/-!
# Script events

What a script says, line by line. Order matters: the timeline is built by walking the events as they
stand.
-/

namespace StoryMix

/-- The point of the timeline a cue is placed against. Events that were not read from a script can
name a point that there is not. -/
inductive Anchor where
  | now
  | lastStart
  | lastEnd
  | other (name : String)
  deriving DecidableEq, Repr

namespace Anchor

def name : Anchor → String
  | now => "now"
  | lastStart => "last_start"
  | lastEnd => "last_end"
  | other name => name

/-- The anchor of that name. -/
def ofName (name : String) : Anchor :=
  if name = "now" then now
  else if name = "last_start" then lastStart
  else if name = "last_end" then lastEnd
  else other name

theorem name_ofName (name : String) : (ofName name).name = name := by
  unfold ofName
  split
  · simp [Anchor.name, *]
  · split
    · simp [Anchor.name, *]
    · split <;> simp [Anchor.name, *]

end Anchor

inductive Event where
  /-- Something said of the whole document: its title, its music. -/
  | directive (key value : String)
  | utterance (speaker text : String)
  | pause (seconds : Float)
  /-- A sound effect, placed against an anchor. It takes no time of its own. -/
  | cue (asset : String) (anchor : Anchor) (offset : Float)
  /-- An event of a kind that is not known here, passed over by every walk. -/
  | other (kind : String)
  deriving DecidableEq

namespace Event

def isUtterance : Event → Bool
  | utterance .. => true
  | _ => false

/-- The value of a directive with this key in lower case. -/
def directiveValue? (wanted : String) : Event → Option String
  | directive key value => if Text.lowered key = wanted then some value else none
  | _ => none

end Event

/-- The value of the first directive whose key is `key` but for upper and lower case. -/
def directive? (events : List Event) (key : String) : Option String :=
  events.findSome? (Event.directiveValue? (Text.lowered key))

/-- The value of a directive, unless it is empty. -/
def nonEmptyDirective? (events : List Event) (key : String) : Option String :=
  (directive? events key).filter (· ≠ "")

def countUtterances (events : List Event) : Nat :=
  events.countP Event.isUtterance

end StoryMix
