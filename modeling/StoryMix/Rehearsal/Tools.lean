import StoryMix.Assets.Search
import StoryMix.Rehearsal.Basic
import StoryMix.Studio.Files
import StoryMix.Studio.Tools

/-!
# Rehearsed tools

Tools that only pretend. Files are written where they are asked for, and nowhere else.
-/

namespace StoryMix.Rehearsal

variable (r : Rehearsal)

/-- Notes which line was spoken into a file. -/
def noteSpoken (path text : String) : Action Unit :=
  modify fun s => { s with spoken := (path, text) :: s.spoken.filter (·.1 != path) }

/-- The line that was last spoken into a file. -/
def spokenInto (path : String) : Action (Option String) :=
  return (← get).spoken.lookup path

def voice (request : SynthesisRequest) : Action String := do
  if r.failVoiceOn = some request.text then
    Action.fail (.externalTool .voice ("synthesis failed for \"" ++ request.text ++ "\"") none)
  Files.put request.outputPath (speech request.text)
  noteSpoken request.outputPath request.text
  pure request.outputPath

def probe (file : String) : Action Float := do
  let text ← spokenInto file
  match text with
  | some line =>
    if r.failProbeOn = some line then
      Action.fail (.externalTool .probe ("unreadable \"" ++ line ++ "\"") none)
    else pure (r.duration text)
  | none => pure (r.duration none)

def silence (request : SilenceRequest) : Action String := do
  match r.failSilence with
  | some e => Action.fail (.externalTool .silence e.message none)
  | none =>
    Files.put request.outputPath (silent request.seconds)
    pure request.outputPath

def asset (root id : String) : Action String :=
  match (r.assets.lookup id).filter (· ≠ "") with
  | some path => pure path
  | none => Action.fail (.assetResolution id (Assets.searchPaths root id))

def mix (graph : Mix.Graph) (path : String) : Action String := do
  match r.failMix with
  | some e => Action.fail (.externalTool .mix e.message none)
  | none =>
    Files.put path graph.filterText
    pure path

def tools : Tools where
  voice := r.voice
  probe := r.probe
  silence := r.silence
  asset := r.asset
  mix := r.mix

end StoryMix.Rehearsal
