import StoryMix.Failure
import StoryMix.Numeral.Exact
import StoryMix.Script.Event

/-!
# The clock

The running time of the narration and the two points that cues can look back to. An utterance and a
pause move the clock on; a cue reads it and leaves it alone.
-/

namespace StoryMix

structure Clock where
  /-- The end of all that has been placed so far. -/
  currentTime : Float
  /-- The start of the most recent utterance. -/
  lastStart : Float
  /-- The end of the most recent utterance or pause. -/
  lastEnd : Float

namespace Clock

def start : Clock :=
  ⟨0, 0, 0⟩

def afterUtterance (c : Clock) (duration : Float) : Clock :=
  ⟨c.currentTime + duration, c.currentTime, c.currentTime + duration⟩

def afterPause (c : Clock) (seconds : Float) : Clock :=
  ⟨c.currentTime + seconds, c.lastStart, c.currentTime + seconds⟩

/-- The time of an anchor. -/
def anchorTime (c : Clock) : Anchor → Except Failure Float
  | .now => .ok c.currentTime
  | .lastStart => .ok c.lastStart
  | .lastEnd => .ok c.lastEnd
  | .other name => .error (.anchor name none)

/-- The time of a cue: its offset from the anchor, but never before the beginning. -/
def place (c : Clock) (anchor : Anchor) (offset : Float) : Except Failure Float :=
  (c.anchorTime anchor).map fun t => Numeral.atLeastZero (t + offset)

end Clock

end StoryMix
