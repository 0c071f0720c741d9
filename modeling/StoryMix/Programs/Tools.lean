import StoryMix.Assets.Search
import StoryMix.Programs.Media
import StoryMix.Programs.Voice
import StoryMix.Studio.Tools

/-!
# Tools by programs

The tools that a render drives in production: each runs a program, and assets are looked for in the file
tree.
-/

namespace StoryMix

/-- The tools that run these programs. -/
def Programs.tools (p : Programs) (config : VoicegenConfig) : Tools where
  voice := Programs.speak p config
  probe := Programs.measure p
  silence := Programs.makeSilence p
  asset := Assets.find
  mix := Programs.mix p

end StoryMix
