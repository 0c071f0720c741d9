import StoryMix.Numeral.Reader
import StoryMix.Script.Event

/-!
# Lines of a script

The grammar of one line. Its class is decided in this order:

    # anything                         a comment, like a blank line
    @key: value                        a directive
    PAUSE: 0.5                         a pause, in seconds
    SFX: chime at=now offset=0.2       a sound effect
    Ruby: Once upon a time             an utterance

Blanks around a line, and around the parts of it, do not count. `PAUSE` and `SFX` are recognized in
upper case, lower case or a mixture.
-/

namespace StoryMix.Script

open Text (trim words splitFirst)

/-- What can be wrong with a line. -/
inductive LineFault where
  | directiveWithoutColon
  | pauseNotANumber
  | pauseNegative
  | effectWithoutAsset
  | offsetNotANumber
  | unknownParameter (token : String)
  | emptyUtterance
  | unrecognized
  | unknownAnchor (written : String)
  deriving DecidableEq, Repr

/-- The text of a fault. An unknown anchor has a message of its own. -/
def LineFault.reason : LineFault → String
  | directiveWithoutColon => "directive missing ':'"
  | pauseNotANumber => "PAUSE value is not a number"
  | pauseNegative => "PAUSE value must not be negative"
  | effectWithoutAsset => "SFX missing asset id"
  | offsetNotANumber => "SFX offset is not a number"
  | unknownParameter token => "unknown SFX parameter \"" ++ token ++ "\""
  | emptyUtterance => "bad utterance"
  | unrecognized => "unrecognized line"
  | unknownAnchor written => "unknown SFX anchor \"" ++ written ++ "\""

/-- A trimmed text as a string. -/
def textOf (cs : List Char) : String :=
  String.ofList (trim cs)

/-- What stands after the first colon, if there is one. -/
def afterColon (line : List Char) : List Char :=
  match splitFirst ':' line with
  | some (_, rest) => rest
  | none => line

/-- The line begins with these capitals once it is in upper case. -/
def opensWith (capitals : String) (line : List Char) : Bool :=
  capitals.toList.isPrefixOf (Text.upper line)

/-- A token `name=...` of that name; what stands after the sign. -/
def parameter? (name : String) (token : List Char) : Option (List Char) :=
  if name.toList.isPrefixOf token then some (token.drop name.length) else none

/-- A line after its `@`. -/
def readDirective (line : List Char) : Except LineFault Event :=
  match splitFirst ':' line with
  | none => .error .directiveWithoutColon
  | some (key, value) => .ok (.directive (textOf key) (textOf value))

/-- What stands after `PAUSE:`. -/
def readPause (value : List Char) : Except LineFault Event :=
  match Numeral.readDecimal (trim value) with
  | none => .error .pauseNotANumber
  | some seconds => if seconds < 0 then .error .pauseNegative else .ok (.pause seconds)

/-- The anchor and the offset of a sound effect. -/
structure Placing where
  anchor : Anchor
  offset : Float

/-- Without parameters an effect stands at the end of what came last. -/
def Placing.default : Placing :=
  ⟨.lastEnd, 0⟩

/-- One parameter of a sound effect. An unknown one is passed over unless the reading is strict. -/
def Placing.read (strict : Bool) (p : Placing) (token : List Char) : Except LineFault Placing :=
  match parameter? "at=" token with
  | some written =>
    match Anchor.ofName (String.ofList (Text.lower written)) with
    | .other _ => .error (.unknownAnchor (String.ofList written))
    | anchor => .ok { p with anchor }
  | none =>
    match parameter? "offset=" token with
    | some written =>
      match Numeral.readDecimal (trim written) with
      | none => .error .offsetNotANumber
      | some offset => .ok { p with offset }
    | none => if strict then .error (.unknownParameter (String.ofList token)) else .ok p

/-- The parameters of a sound effect, of which the last of each name counts. -/
def Placing.readAll (strict : Bool) (p : Placing) : List (List Char) → Except LineFault Placing
  | [] => .ok p
  | token :: tokens =>
    match p.read strict token with
    | .error fault => .error fault
    | .ok q => q.readAll strict tokens

/-- What stands after `SFX:`. -/
def readEffect (strict : Bool) (value : List Char) : Except LineFault Event :=
  match words value with
  | [] => .error .effectWithoutAsset
  | asset :: tokens =>
    match Placing.default.readAll strict tokens with
    | .error fault => .error fault
    | .ok p => .ok (.cue (String.ofList asset) p.anchor p.offset)

/-- A line of any other class, which is an utterance or nothing. -/
def readUtterance (line : List Char) : Except LineFault Event :=
  match splitFirst ':' line with
  | none => .error .unrecognized
  | some (speaker, spoken) =>
    if trim speaker = [] ∨ trim spoken = [] then .error .emptyUtterance
    else .ok (.utterance (textOf speaker) (textOf spoken))

/-- One line, trimmed. A blank line and a comment say nothing. -/
def readTrimmed (strict : Bool) : List Char → Except LineFault (Option Event)
  | [] => .ok none
  | '#' :: _ => .ok none
  | '@' :: rest => some <$> readDirective rest
  | line =>
    some <$>
      if opensWith "PAUSE:" line then readPause (afterColon line)
      else if opensWith "SFX:" line then readEffect strict (afterColon line)
      else readUtterance line

/-- One line as it stands. -/
def readLine (strict : Bool) (raw : List Char) : Except LineFault (Option Event) :=
  readTrimmed strict (trim raw)

end StoryMix.Script
