import StoryMix.Studio.Basic

/-!
# Programs

The programs outside: the voice generator, the program that describes a media file, and the one that
makes media files. They may fail with anything at all; the modules beside this one turn that into
failures of the tool they stand for.
-/

namespace StoryMix

structure Programs where
  /-- Runs a program with its arguments, not through a shell. -/
  execute : String → List String → Action Unit
  /-- What is known about a media file. -/
  probe : String → Action Value
  /-- Runs a media command that was put together in steps. The listener is told its command line when
  it starts. -/
  media : List MediaStep → (String → Action Unit) → Action Unit

namespace Programs

/-- The same programs with every call on record. -/
def recorded (p : Programs) : Programs where
  execute program arguments := do
    Action.record (.execute program arguments)
    p.execute program arguments
  probe file := do
    Action.record (.mediaProbe file)
    p.probe file
  media steps started := do
    Action.record .media
    steps.forM fun step => Action.record (.mediaStep step)
    Action.record .mediaRun
    p.media steps started

end Programs

/-- What a tool's failure is put down to. -/
def Thrown.cause? : Thrown → Option String
  | .value .missing => none
  | e => e.message?

end StoryMix
