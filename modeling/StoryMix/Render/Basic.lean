import StoryMix.Mix.Compile
import StoryMix.Script.Parse
import StoryMix.Studio.Files
import StoryMix.Text.Units
import StoryMix.Timeline.Build

/-!
# Rendering

From the text of a script to one mixed file:

1. the script is read, and nothing is touched if a line is ill-formed;
2. the timeline is built in a temporary working directory;
3. the mix graph is compiled and run once, with its result still in the working directory;
4. the finished file is copied beside its destination and renamed.

The working directory is removed on every way out, and the output directory only ever sees a complete
file.
-/

namespace StoryMix

namespace Render

/-- What a render gives back. -/
structure Result where
  renderId : String
  outputPath : String
  timeline : Timeline

/-- The length of the narration. -/
def Result.duration (r : Result) : Float :=
  r.timeline.duration

/-- The text by which a render is known: its number, with eight digits at least. -/
def idOf (n : Nat) : String :=
  let digits := Numeral.digitsOf n
  String.ofList (Numeral.zeros (8 - digits.length) ++ digits)

/-- Begins a render. Its number is used up whatever becomes of it. -/
def begin : Action String := fun s =>
  .ok (idOf (s.renders + 1)) { s with renders := s.renders + 1 }

/-- The opening of the log messages of a render. -/
def tag (id : String) : String :=
  "[Render " ++ id ++ "] "

/-- Where temporary directories are made, and how the names of working directories begin. -/
def workDirStart (id : String) : String :=
  Path.join ["/tmp", "story-mixer-" ++ id ++ "-"]

/-- Removes the working directory. If that fails it is logged, and the render ends as it would have. -/
def removeWorkDir (id workDir : String) : Action Unit := do
  match ← (Files.remove workDir).outcome with
  | .ok _ => pure ()
  | .error e =>
    let message ← Action.writing e.message?
    Action.inform .warn (tag id ++ "Could not remove working directory")
      [("workDir", .text workDir), ("error", .text message)]

/-- The path of a file while it is being copied. -/
def unfinishedPath (outputPath id : String) : String :=
  outputPath ++ "." ++ id ++ ".partial"

/-- Brings a staged file to the output directory. A copy that cannot be finished is taken away again. -/
def publish (staged outDir fileName id : String) : Action String := do
  Files.makeDir outDir
  let outputPath := Path.join [outDir, fileName]
  let unfinished := unfinishedPath outputPath id
  Action.onFailure
    (do
      Files.copy staged unfinished
      Files.rename unfinished outputPath)
    (fun _ => Files.removeFile unfinished)
  pure outputPath

/-- Logs a failure on its way out. One that cannot be written out is lost in the attempt. -/
def reporting {α : Type} (id : String) (act : Action α) : Action α :=
  act.onFailure fun e => do
    let message ← Action.writing e.message?
    Action.say .error (tag id ++ "Failed: " ++ message) []

/-- Reads the script and makes the working directory. -/
def prepare (id : String) (request : RenderRequest) : Action (List Event × String) := do
  let events ← Action.ofExcept ((Script.parse request.strict request.script).mapError (·.failure))
  Action.say .info (tag id ++ "Parsed " ++ Numeral.natText events.length ++ " events") []
  let workDir ← Files.makeTempDir (workDirStart id)
  pure (events, workDir)

/-- Builds, mixes and publishes in a working directory. -/
def produce (tools : Tools) (id : String) (config : ProducerConfig) (events : List Event)
    (workDir : String) : Action Result := do
  let timeline ← Timeline.build tools config workDir events
  let graph ← Action.ofExcept (Mix.compile timeline config)
  let staged := Path.join [workDir, graph.output.fileName]
  let _ ← tools.mix graph staged
  let outputPath ← publish staged config.outDir graph.output.fileName id
  Action.inform .info (tag id ++ "Completed")
    [("outputPath", .text outputPath),
     ("duration", .text (Numeral.fixed 2 timeline.duration ++ "s"))]
  pure ⟨id, outputPath, timeline⟩

end Render

/-- Renders a script with the given tools. -/
def render (tools : Tools) (request : RenderRequest) : Action Render.Result := do
  let id ← Render.begin
  Action.inform .info (Render.tag id ++ "Starting")
    [("chars", .ofNat (Text.unitLength request.script)), ("outDir", .text request.config.outDir)]
  let (events, workDir) ← Render.reporting id (Render.prepare id request)
  (Render.reporting id (Render.produce tools id request.config events workDir)).always
    (Render.removeWorkDir id workDir)

end StoryMix
