import StoryMix.Command.Arguments
import StoryMix.Config.EnvFile
import StoryMix.Config.Settings
import StoryMix.Programs.Tools
import StoryMix.Render.Basic
import StoryMix.Story.Generate

/-!
# The story mixer

The command line `story-mixer`: it renders a script from a file, or writes a generated story. What goes
wrong is told on the standard error output, and the program then ends with status one.
-/

namespace StoryMix

/-- Renders the script in a file. -/
structure RenderCommand where
  story : String
  assetsDir : Option String
  outDir : Option String
  voicegen : Option String
  device : Option String
  refs : List String
  strict : Bool
  deriving DecidableEq, Repr

/-- Writes a story to a file, or else to the standard output. -/
structure GenerateCommand where
  title : String
  seed : Option Float
  narrator : Option String
  music : Option String
  ambience : Option String
  out : Option String

inductive MixerCommand where
  | render (command : RenderCommand)
  | generate (command : GenerateCommand)
  | help

namespace RenderCommand

def flags : Flags where
  options := ["--story", "--assets-dir", "--out-dir", "--voicegen", "--device", "--ref"]
  switches := ["--strict"]

def read (words : List String) : Except Failure RenderCommand := do
  let arguments ← readArguments flags words
  let story ← Arguments.required "render" "--story" "file" arguments
  return {
    story := story
    assetsDir := Arguments.last? "--assets-dir" arguments
    outDir := Arguments.last? "--out-dir" arguments
    voicegen := Arguments.last? "--voicegen" arguments
    device := Arguments.last? "--device" arguments
    refs := Arguments.values "--ref" arguments
    strict := Arguments.has "--strict" arguments }

/-- What a command asks for beside what the environment says. -/
def overrides (command : RenderCommand) (refs : SpeakerRefs) : Value :=
  .record [("assetsDir", .ofText? command.assetsDir), ("outDir", .ofText? command.outDir),
    ("speakerRefs", refs.toValue)]

/-- Renders and prints the path of the finished file. -/
def run (programs : Programs) (command : RenderCommand) : Action Unit := do
  let script ← Files.read command.story
  let refs ← Action.ofExcept (SpeakerRefs.ofItems "--ref" command.refs)
  let s ← get
  let config ← Action.ofExcept (ProducerConfig.load s.env s.cwd (command.overrides refs))
  let voicegen := VoicegenConfig.load s.env s.cwd command.voicegen command.device
  let result ← StoryMix.render (programs.tools voicegen) ⟨script, config, command.strict⟩
  Action.inform .info ("Rendered " ++ Numeral.fixed 2 result.duration ++ "s of narration")
    [("renderId", .text result.renderId)]
  Action.printLine result.outputPath

end RenderCommand

namespace GenerateCommand

def flags : Flags where
  options := ["--title", "--seed", "--narrator", "--music", "--ambience", "--out"]
  switches := []

/-- The whole number that a seed is written as. -/
def readSeed (text : String) : Except Failure Float :=
  let seed := Numeral.readNumber text
  if Numeral.isWhole seed then .ok seed
  else .error (.configuration ("--seed expects an integer, got: " ++ text))

def read (words : List String) : Except Failure GenerateCommand := do
  let arguments ← readArguments flags words
  let title ← Arguments.required "generate" "--title" "title" arguments
  let seed ← (Arguments.last? "--seed" arguments).mapM readSeed
  return {
    title := title
    seed := seed
    narrator := Arguments.last? "--narrator" arguments
    music := Arguments.last? "--music" arguments
    ambience := Arguments.last? "--ambience" arguments
    out := Arguments.last? "--out" arguments }

/-- The story that a command asks for. -/
def script (command : GenerateCommand) : String :=
  Story.generate ⟨command.title, command.seed, command.narrator, command.music, command.ambience⟩

def run (command : GenerateCommand) : Action Unit := do
  match command.out.filter (· ≠ "") with
  | none => Action.print command.script
  | some out =>
    let s ← get
    Files.makeDir (Path.parent s.cwd out)
    Files.write out command.script
    Action.printLine (s.resolve out)

end GenerateCommand

namespace MixerCommand

def usage : String :=
  "Usage:
  story-mixer render --story <file> [--assets-dir DIR] [--out-dir DIR]
                     [--voicegen PATH] [--device NAME] [--ref SPEAKER=PATH]... [--strict]
  story-mixer generate --title TITLE [--seed N] [--narrator NAME]
                       [--music ID] [--ambience ID] [--out FILE]

Environment:
  STORY_ASSETS_DIR, STORY_OUT_DIR, VOICE_REFS, VOICEGEN_PATH, VOICEGEN_DEVICE,
  NARRATION_GAIN_DB, MUSIC_GAIN_DB, AMBIENCE_GAIN_DB, LOG_LEVEL"

/-- The words that ask for the usage, beside no word at all. -/
def helpWords : List String :=
  ["help", "--help", "-h"]

def read : List String → Except Failure MixerCommand
  | [] => .ok help
  | word :: rest =>
    if word = "render" then render <$> RenderCommand.read rest
    else if word = "generate" then generate <$> GenerateCommand.read rest
    else if helpWords.contains word then .ok help
    else .error (.configuration ("Unknown command: " ++ word))

def run (programs : Programs) : MixerCommand → Action Unit
  | render command => command.run programs
  | generate command => command.run
  | help => Action.printLine usage

end MixerCommand

/-- Loads the file of variables. What it warns of is told on the standard error output. -/
def Action.loadEnvironment : Action Unit := do
  match ← EnvFile.load with
  | some warning => Action.printError warning
  | none => pure ()

/-- The status of a program that tells under this name how it failed. -/
def Action.status (name : Thrown → String) (act : Action Unit) : Action Nat := do
  match ← act.outcome with
  | .ok _ => pure 0
  | .error e =>
    let message ← Action.writing e.message?
    Action.printError (name e ++ ": " ++ message)
    pure 1

/-- Runs the command line to its end and gives its status. -/
def runMixer (programs : Programs) (words : List String) : Action Nat := do
  Action.loadEnvironment
  Action.status Thrown.name do
    let command ← Action.ofExcept (MixerCommand.read words)
    command.run programs

end StoryMix
