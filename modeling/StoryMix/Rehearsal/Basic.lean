import StoryMix.Failure

/-!
# Rehearsals

A rehearsal runs a render with tools that only pretend: a spoken line is a text file that says what was
spoken, and its length is looked up. What the tools are to do, and where they are to fail, is told
beforehand.
-/

namespace StoryMix

structure Rehearsal where
  /-- How long the lines last. -/
  durations : List (String × Float)
  defaultDuration : Option Float
  assets : List (String × String)
  /-- The line on which the voice fails. -/
  failVoiceOn : Option String
  /-- The line whose file cannot be measured. -/
  failProbeOn : Option String
  /-- The line for which the voice ends well but leaves no file. -/
  noAudioOn : Option String
  failSilence : Option Thrown
  failMix : Option Thrown
  failExecute : Option Thrown
  failProbe : Option Thrown
  /-- What is reported of every measured file, in place of the length of its line. -/
  probeMetadata : Option Value
  /-- How the media tool says it was called. -/
  commandLine : String
  /-- What every render of a job is to fail with. -/
  failRender : Option Thrown
  /-- The report of a job at which the connection is lost. -/
  failProgress : Option Float
  failQueue : Option Thrown
  /-- The number of a queued job. -/
  jobId : Value

namespace Rehearsal

/-- All goes well and every line lasts a second. -/
def plain : Rehearsal where
  durations := []
  defaultDuration := none
  assets := []
  failVoiceOn := none
  failProbeOn := none
  noAudioOn := none
  failSilence := none
  failMix := none
  failExecute := none
  failProbe := none
  probeMetadata := none
  commandLine := "ffmpeg"
  failRender := none
  failProgress := none
  failQueue := none
  jobId := .text "1"

/-- How long a line lasts. -/
def duration (r : Rehearsal) (text : Option String) : Float :=
  ((text.bind fun line => r.durations.lookup line).or r.defaultDuration).getD 1

/-- The text that stands for the sound of a spoken line. -/
def speech (text : String) : String :=
  "speech:" ++ text

/-- The text that stands for a silence. -/
def silent (seconds : Float) : String :=
  "silence:" ++ Numeral.text seconds

end Rehearsal

end StoryMix
