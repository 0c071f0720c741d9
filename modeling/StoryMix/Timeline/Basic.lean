/-!
# Timelines

Where everything stands. The segments, speech and silence, make up the narration bed and follow one
another without a gap; sound effects lie over it, and the two background beds run under all of it.
-/

namespace StoryMix

inductive SegmentKind where
  | speech (speaker : String)
  | silence
  deriving DecidableEq, Repr

/-- A piece of the narration bed, with its file. -/
structure Segment where
  kind : SegmentKind
  file : String
  startTime : Float
  endTime : Float

/-- A sound effect with its file and its absolute time. -/
structure Placement where
  asset : String
  file : String
  startTime : Float

/-- The looped background sounds. -/
structure Beds where
  music : Option String
  ambience : Option String

structure Timeline where
  title : String
  segments : List Segment
  effects : List Placement
  beds : Beds
  /-- The length of the narration bed. -/
  duration : Float

end StoryMix
