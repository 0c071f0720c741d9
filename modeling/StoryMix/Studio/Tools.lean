import StoryMix.Mix.Graph
import StoryMix.Studio.Basic

/-!
# Tools

The outside tools that a render drives: one that speaks a line, one that measures a file, one that
makes a silence, one that finds an asset and one that mixes. Nothing else about them is known to the
rest of the library.
-/

namespace StoryMix

structure Tools where
  /-- Speaks a line and gives the file that holds it. -/
  voice : SynthesisRequest → Action String
  /-- The length of a sound file in seconds. -/
  probe : String → Action Float
  /-- Makes a silent file and gives its path. -/
  silence : SilenceRequest → Action String
  /-- The file of an asset, given the root of the assets. -/
  asset : String → String → Action String
  /-- Mixes a graph into a file and gives its path. -/
  mix : Mix.Graph → String → Action String

/-- The same tools with every call on record. -/
def Tools.recorded (t : Tools) : Tools where
  voice r := do Action.record (.voice r); t.voice r
  probe file := do Action.record (.probe file); t.probe file
  silence r := do Action.record (.silence r); t.silence r
  asset root id := do Action.record (.asset root id); t.asset root id
  mix graph path := do Action.record (.mix path); t.mix graph path

end StoryMix
