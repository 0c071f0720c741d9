import StoryMix.FileName
import StoryMix.Numeral.Fixed
import StoryMix.Studio.Tools
import StoryMix.Timeline.Basic
import StoryMix.Timeline.Clock

/-!
# Building a timeline

The events are walked as they stand. Every utterance is spoken and measured before the next event is
looked at, since its length decides where all that follows begins:

    narration   [ Ruby: Hello ][ pause ][ Onyx: Bye ]
    effects                            | chime, at the end of the pause

What can be known beforehand is checked beforehand: that there is narration at all, and that every
speaker has a voice reference.
-/

namespace StoryMix.Timeline

def defaultTitle : String :=
  "story"

/-- Silence is made in one channel at this rate. -/
def silenceRate : Float :=
  48000

/-- The number of a segment, with four digits at least. -/
def segmentNumber (n : Nat) : String :=
  let digits := Numeral.digitsOf n
  String.ofList (Numeral.zeros (4 - digits.length) ++ digits)

def speechFile (workDir : String) (n : Nat) (speaker : String) : String :=
  Path.join [workDir, "seg_" ++ segmentNumber n ++ "_" ++ fileStem speaker ++ ".wav"]

def silenceFile (workDir : String) (n : Nat) : String :=
  Path.join [workDir, "sil_" ++ segmentNumber n ++ ".wav"]

/-- A time within a log message. -/
def timeText (x : Float) : String :=
  Numeral.fixed 3 x ++ "s"

/-- An offset within a log message, with its sign; nothing for none. -/
def offsetText (offset : Float) : String :=
  if offset == 0 then ""
  else if 0 < offset then "+" ++ Numeral.text offset
  else Numeral.text offset

/-- Finds the asset that a directive names, if it names one. -/
def resolveBed (tools : Tools) (config : ProducerConfig) (events : List Event) (key : String) :
    Action (Option String) :=
  match nonEmptyDirective? events key with
  | some id => some <$> tools.asset config.assetsDir id
  | none => pure none

/-- The music is looked up before the ambience. -/
def resolveBeds (tools : Tools) (config : ProducerConfig) (events : List Event) : Action Beds := do
  let music ← resolveBed tools config events "music"
  let ambience ← resolveBed tools config events "ambience"
  pure ⟨music, ambience⟩

/-- Every speaker has a voice reference. The first who has none is named. -/
def checkSpeakers (config : ProducerConfig) : List Event → Except Failure Unit
  | [] => .ok ()
  | .utterance speaker _ :: events =>
    match config.voiceReference speaker with
    | .error f => .error f
    | .ok _ => checkSpeakers config events
  | _ :: events => checkSpeakers config events

/-- What part of a walk has placed. -/
structure Track where
  segments : List Segment
  effects : List Placement
  clock : Clock

/-- A segment in front of what follows it. -/
def Track.withSegment (segment : Segment) (t : Track) : Track :=
  { t with segments := segment :: t.segments }

/-- An effect in front of those that follow it. -/
def Track.withEffect (effect : Placement) (t : Track) : Track :=
  { t with effects := effect :: t.effects }

section Walk

variable (tools : Tools) (config : ProducerConfig) (workDir : String)

/-- Speaks and measures segment `n`, which starts at the time of the clock. -/
def speak (clock : Clock) (n : Nat) (speaker text : String) : Action (Segment × Clock) := do
  let reference ← Action.ofExcept (config.voiceReference speaker)
  let file ← tools.voice ⟨reference, text, speechFile workDir n speaker⟩
  let duration ← tools.probe file
  let next := clock.afterUtterance duration
  Action.debug ("Timeline: " ++ speaker ++ " " ++ timeText clock.currentTime ++ " -> " ++
    timeText next.currentTime)
  pure (⟨.speech speaker, file, clock.currentTime, next.currentTime⟩, next)

/-- Makes segment `n`, a silence that starts at the time of the clock. -/
def rest (clock : Clock) (n : Nat) (seconds : Float) : Action (Segment × Clock) := do
  let file ← tools.silence ⟨seconds, silenceRate, "mono", silenceFile workDir n⟩
  let next := clock.afterPause seconds
  pure (⟨.silence, file, clock.currentTime, next.currentTime⟩, next)

/-- Places an effect. An unknown anchor fails before the asset is looked for. -/
def cue (clock : Clock) (asset : String) (anchor : Anchor) (offset : Float) : Action Placement := do
  let startTime ← Action.ofExcept (clock.place anchor offset)
  let file ← tools.asset config.assetsDir asset
  Action.debug ("Timeline: SFX " ++ asset ++ " at " ++ timeText startTime ++ " (" ++ anchor.name ++
    offsetText offset ++ ")")
  pure ⟨asset, file, startTime⟩

/-- Walks the events when `made` segments have been made. -/
def walk (clock : Clock) (made : Nat) : List Event → Action Track
  | [] => pure ⟨[], [], clock⟩
  | .utterance speaker text :: events => do
    let (segment, next) ← speak tools config workDir clock (made + 1) speaker text
    return (← walk next (made + 1) events).withSegment segment
  | .pause seconds :: events => do
    let (segment, next) ← rest tools workDir clock (made + 1) seconds
    return (← walk next (made + 1) events).withSegment segment
  | .cue asset anchor offset :: events => do
    let effect ← cue tools config clock asset anchor offset
    return (← walk clock made events).withEffect effect
  | .directive _ _ :: events => walk clock made events
  | .other _ :: events => walk clock made events

/-- The value of the title directive, or the title of a story that has none. -/
def titleOf (events : List Event) : String :=
  (nonEmptyDirective? events "title").getD defaultTitle

/-- Builds the timeline of a script. Its files are made in `workDir`. -/
def build (events : List Event) : Action Timeline := do
  if countUtterances events = 0 then
    Action.fail .emptyDocument
  Action.ofExcept (checkSpeakers config events)
  let title := titleOf events
  let beds ← resolveBeds tools config events
  let track ← walk tools config workDir .start 0 events
  Action.inform .info "Timeline built"
    [("title", .text title),
     ("segments", .ofNat track.segments.length),
     ("sfx", .ofNat track.effects.length),
     ("music", beds.music.elim .null .text),
     ("ambience", beds.ambience.elim .null .text),
     ("totalDuration", .text (Numeral.fixed 3 track.clock.currentTime))]
  pure ⟨title, track.segments, track.effects, beds, track.clock.currentTime⟩

end Walk

end StoryMix.Timeline
