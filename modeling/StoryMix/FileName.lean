import StoryMix.Text.Letter
import StoryMix.Text.Number

/-!
# File names

Titles and speakers become parts of file names. Every character but a letter, a number, a hyphen or an
underscore turns into an underscore, one for one, so a stem holds no slash and no point.
-/

namespace StoryMix

/-- A character that stays as it is in a file name. -/
def isStemChar (c : Char) : Bool :=
  c == '-' || c == '_' || Text.isLetter c || Text.isNumber c

def stemChar (c : Char) : Char :=
  if isStemChar c then c else '_'

/-- A text as part of a file name. -/
def fileStem (s : String) : String :=
  String.ofList (s.toList.map stemChar)

end StoryMix
