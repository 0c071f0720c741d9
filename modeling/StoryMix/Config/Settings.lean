import StoryMix.Config.Environment
import StoryMix.Config.Schema
import StoryMix.Path

/-!
# Settings

The configuration of a render from what was asked for and from the environment. What is asked for wins,
then comes the environment, then the default. All directories and files come out as absolute paths.
-/

namespace StoryMix

namespace ProducerConfig

/-- The references in the variable `VOICE_REFS`: items between commas. -/
def refsOfEnvironment (env : Environment) : Except Failure SpeakerRefs :=
  match env.get? "VOICE_REFS" with
  | none => .ok .empty
  | some raw =>
    let items := (Text.cut (· == ',') raw.toList).map Text.trim
    SpeakerRefs.ofItems "VOICE_REFS" ((items.filter (· ≠ [])).map String.ofList)

/-- The entries of a value over those that there are already. -/
def overlaid (refs : SpeakerRefs) (overrides : Value) : List (String × Value) :=
  overrides.parts.foldl (fun entries e => Entries.put entries e.1 e.2)
    (refs.entries.map fun e => (e.1, .text e.2))

/-- A text that is asked for, or else the one in the environment. -/
def chosenText (env : Environment) (overrides : Value) (name variableName : String) : Value :=
  (overrides.field name).orElse (.ofText? (env.string? variableName))

/-- A number that is asked for, or else the one in the environment. -/
def chosenNumber (env : Environment) (overrides : Value) (name variableName : String) : Value :=
  (overrides.field name).orElse ((env.number? variableName).elim .missing .number)

/-- The settings before they are checked. -/
def chosen (env : Environment) (overrides : Value) (refs : SpeakerRefs) : Value :=
  .record [
    ("assetsDir", chosenText env overrides "assetsDir" "STORY_ASSETS_DIR"),
    ("outDir", chosenText env overrides "outDir" "STORY_OUT_DIR"),
    ("speakerRefs", .record (overlaid refs (overrides.field "speakerRefs"))),
    ("narrationGainDb", chosenNumber env overrides "narrationGainDb" "NARRATION_GAIN_DB"),
    ("musicGainDb", chosenNumber env overrides "musicGainDb" "MUSIC_GAIN_DB"),
    ("ambienceGainDb", chosenNumber env overrides "ambienceGainDb" "AMBIENCE_GAIN_DB")]

/-- The same settings with absolute paths. -/
def resolved (cwd : String) (config : ProducerConfig) : ProducerConfig :=
  { config with
    assetsDir := Path.resolve cwd config.assetsDir
    outDir := Path.resolve cwd config.outDir
    speakerRefs := ⟨config.speakerRefs.entries.map fun e => (e.1, Path.resolve cwd e.2)⟩ }

/-- The settings of a render. `overrides` is a record of what is asked for. -/
def load (env : Environment) (cwd : String) (overrides : Value) : Except Failure ProducerConfig :=
  match refsOfEnvironment env with
  | .error f => .error f
  | .ok refs =>
    match check (chosen env overrides refs) with
    | .ok config => .ok (config.resolved cwd)
    | .failed issues =>
      .error (.configuration ("Invalid producer config: " ++ issuesText "config" issues))

end ProducerConfig

namespace VoicegenConfig

def defaultExecutable : String :=
  "tools/voicegen_xtts.sh"

def defaultDevice : String :=
  "cuda"

/-- The first text that is there and not empty. -/
def firstGiven (texts : List (Option String)) (default : String) : String :=
  ((texts.filterMap id).find? (· ≠ "")).getD default

/-- The voice generator, as asked for or as the environment says. -/
def load (env : Environment) (cwd : String) (executable device : Option String) : VoicegenConfig where
  executable :=
    Path.resolve cwd (firstGiven [executable, env.string? "VOICEGEN_PATH"] defaultExecutable)
  device := firstGiven [device, env.string? "VOICEGEN_DEVICE"] defaultDevice

end VoicegenConfig

end StoryMix
