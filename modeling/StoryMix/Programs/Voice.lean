import StoryMix.Programs.Basic
import StoryMix.Text.Units

/-!
# Speaking by a program

A line is spoken by running the voice generator once. That it ended well is not enough: the file must
be there.
-/

namespace StoryMix.Programs

/-- The arguments of the voice generator. The text is one of them and needs no quoting. -/
def voiceArguments (request : SynthesisRequest) (device : String) : List String :=
  ["--text", request.text, "--ref", request.voiceReference, "--out", request.outputPath,
    "--device", device]

/-- The failure of a voice generator that ended with an error of this message. -/
def voiceCrash (program message : String) (cause : Option String) : Failure :=
  .externalTool .voice (program ++ " failed: " ++ message) cause

/-- The failure of a voice generator that ended well and left no file. -/
def voiceSilence (program path : String) : Failure :=
  .externalTool .voice (program ++ " exited cleanly but wrote no audio to " ++ path) none

/-- Speaks a line and gives the file that holds it. -/
def speak (p : Programs) (config : VoicegenConfig) (request : SynthesisRequest) : Action String := do
  Action.say .info ("Voice synthesis: ref=" ++ request.voiceReference ++ ", text=" ++
    Numeral.natText (Text.unitLength request.text) ++ " chars") []
  match ← (p.execute config.executable (voiceArguments request config.device)).outcome with
  | .ok _ => pure ()
  | .error e =>
    if !e.isFalsy then
      let message ← Action.writing e.message?
      Action.fail (voiceCrash config.executable message e.cause?)
  if (← get).present request.outputPath then
    pure request.outputPath
  else
    Action.fail (voiceSilence config.executable request.outputPath)

end StoryMix.Programs
