import StoryMix.Programs.Basic
import StoryMix.Rehearsal.Tools

/-!
# Rehearsed programs

Programs that only pretend. The voice generator writes what it was to speak, the description of a file
says how long the line in it lasts, and a media command writes its filters, or the length of its silence.
-/

namespace StoryMix.Rehearsal

/-- The argument after the first occurrence of a flag. -/
def argumentAfter (flag : String) : List String → Option String
  | [] => none
  | argument :: rest => if argument = flag then rest.head? else argumentAfter flag rest

variable (r : Rehearsal)

def execute (_program : String) (arguments : List String) : Action Unit := do
  match r.failExecute with
  | some e => throw e
  | none =>
    let text := (argumentAfter "--text" arguments).getD ""
    if r.failVoiceOn = some text then
      throw (.error ("voicegen crashed on \"" ++ text ++ "\""))
    if r.noAudioOn ≠ some text then
      let path := (argumentAfter "--out" arguments).getD ""
      Files.put path (speech text)
      noteSpoken path text

/-- The description of a file that says how long it lasts. -/
def metadataOf (duration : Float) : Value :=
  .record [("format", .record [("duration", .number duration)])]

def describe (file : String) : Action Value := do
  match r.failProbe, r.probeMetadata with
  | some e, _ => throw e
  | none, some metadata => pure metadata
  | none, none =>
    let text ← spokenInto file
    match text with
    | some line =>
      if r.failProbeOn = some line then
        throw (.error ("unreadable \"" ++ line ++ "\""))
    | none => pure ()
    pure (metadataOf (r.duration text))

/-- What a media command writes in place of sound, and how it is told to fail. -/
structure Media where
  path : String
  content : String
  failure : Option Thrown

/-- Takes one step of a command into account. -/
def Media.after (m : Media) : MediaStep → Media
  | .complexFilter filters _ =>
    { m with content := ";".intercalate filters, failure := r.failMix }
  | .duration seconds => { m with content := silent seconds }
  | .output path => { m with path := path }
  | _ => m

def media (steps : List MediaStep) (started : String → Action Unit) : Action Unit := do
  let m : Media := steps.foldl (Media.after r) ⟨"", "", r.failSilence⟩
  started r.commandLine
  match m.failure with
  | some e => throw e
  | none => Files.put m.path m.content

def programs : Programs where
  execute := r.execute
  probe := r.describe
  media := r.media

end StoryMix.Rehearsal
