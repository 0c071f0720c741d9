import StoryMix.Mix.Graph
import StoryMix.Programs.Basic
import StoryMix.Text.Units

/-!
# Measuring, silence and the mix by a program

The length of a file that cannot be measured is a failure and never zero. A silence is one run without
an input file, and the mix is one run with all of them.
-/

namespace StoryMix.Programs

/-- The length that a description of a media file states: a number, neither infinite nor negative. -/
def statedDuration? (metadata : Value) : Option Float :=
  match (metadata.field "format").field "duration" with
  | .number x => if x.isFinite && !(x < 0) then some x else none
  | _ => none

/-- The length of a sound file in seconds. -/
def measure (p : Programs) (file : String) : Action Float := do
  let metadata ← match ← (p.probe file).outcome with
    | .ok metadata => pure metadata
    | .error e =>
      if e.isFalsy then pure .missing
      else
        let message ← Action.writing e.message?
        Action.fail (.externalTool .probe ("ffprobe failed for " ++ file ++ ": " ++ message) e.cause?)
  match statedDuration? metadata with
  | some duration => pure duration
  | none => Action.fail (.externalTool .probe ("ffprobe reported no duration for " ++ file) none)

/-- Runs a media command whose failure is logged and belongs to a tool. -/
def runMedia (p : Programs) (tool : Tool) (steps : List MediaStep) (started : String → Action Unit)
    (logged failed : String) : Action Unit := do
  match ← (p.media steps started).outcome with
  | .ok _ => pure ()
  | .error e =>
    let message ← Action.writing e.message?
    Action.say .error (logged ++ ": %s") [.text message]
    Action.fail (.externalTool tool (failed ++ ": " ++ message) e.cause?)

def silenceSteps (request : SilenceRequest) : List MediaStep :=
  [.input ("anullsrc=r=" ++ Numeral.text request.sampleRate ++ ":cl=" ++ request.channelLayout),
    .inputFormat "lavfi", .duration request.seconds, .audioCodec "pcm_s16le",
    .output request.outputPath]

/-- Makes a silent file and gives its path. -/
def makeSilence (p : Programs) (request : SilenceRequest) : Action String := do
  let length := Numeral.text request.seconds ++ "s"
  runMedia p .silence (silenceSteps request) (fun _ => pure ()) "FFmpeg silence error"
    ("Failed to generate " ++ length ++ " of silence")
  Action.debug ("Silence generated: " ++ length ++ " -> " ++ request.outputPath)
  pure request.outputPath

def mixSteps (graph : Mix.Graph) (path : String) : List MediaStep :=
  graph.inputs.map .input ++
    [.complexFilter graph.filters graph.outputLabel, .audioCodec graph.output.codec,
      .audioBitrate graph.output.bitrate, .format graph.output.format, .output path]

/-- How much of a command line is logged. -/
def loggedUnits : Nat :=
  500

/-- Logs the start of a mix. -/
def logMixStart (graph : Mix.Graph) (commandLine : String) : Action Unit := do
  Action.inform .info "Mix: FFmpeg started"
    [("inputs", .ofNat graph.inputs.length), ("filters", .ofNat graph.filters.length),
     ("durationSeconds", .number graph.duration)]
  Action.say .debug "FFmpeg filter_complex: %s" [.text graph.filterText]
  Action.say .debug "FFmpeg command (first 500 chars): %s"
    [.text (String.ofList (Text.takeUnits loggedUnits commandLine.toList))]

/-- Mixes a graph into a file and gives its path. -/
def mix (p : Programs) (graph : Mix.Graph) (path : String) : Action String := do
  runMedia p .mix (mixSteps graph path) (logMixStart graph) "Mix: FFmpeg error" "Mixing failed"
  Action.inform .info "Mix: FFmpeg complete" [("outputPath", .text path)]
  pure path

end StoryMix.Programs
