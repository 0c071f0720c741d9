import StoryMix.Numeral.Text
import StoryMix.Text.Quoted
import StoryMix.Value

/-!
# Failures

Why a render stops. Every failure of parsing, of building a timeline, of looking up an asset or of an
outside tool is a `Failure`, which carries its cause as data and has its wording here. `Thrown` adds
what other parts of the world can raise: an error of the file system, a job that must not be tried
again, or a bare value.
-/

namespace StoryMix

/-- The outside tools. -/
inductive Tool where
  | voice
  | probe
  | silence
  | mix
  deriving DecidableEq, Repr

def Tool.name : Tool → String
  | .voice => "voice"
  | .probe => "probe"
  | .silence => "silence"
  | .mix => "mix"

/-- The kinds of failure that callers tell apart. -/
inductive FailureCode where
  | parse
  | configuration
  | assetResolution
  | anchor
  | emptyDocument
  | externalTool
  deriving DecidableEq, Repr

def FailureCode.text : FailureCode → String
  | .parse => "PARSE_ERROR"
  | .configuration => "CONFIGURATION_ERROR"
  | .assetResolution => "ASSET_RESOLUTION_ERROR"
  | .anchor => "ANCHOR_ERROR"
  | .emptyDocument => "EMPTY_DOCUMENT"
  | .externalTool => "EXTERNAL_TOOL_FAILURE"

/-- Why a render stops. `cause` is what the tool itself had to say. -/
inductive Failure where
  | parse (line : Float) (raw reason : String)
  | configuration (message : String)
  | assetResolution (id : String) (tried : List String)
  | anchor (written : String) (line : Option Float)
  | emptyDocument
  | externalTool (tool : Tool) (message : String) (cause : Option String)
  | general (message : String) (code : FailureCode) (cause : Option String)

namespace Failure

def code : Failure → FailureCode
  | parse .. => .parse
  | configuration .. => .configuration
  | assetResolution .. => .assetResolution
  | anchor .. => .anchor
  | emptyDocument => .emptyDocument
  | externalTool .. => .externalTool
  | general _ code _ => code

def name : Failure → String
  | parse .. => "ParseError"
  | configuration .. => "ConfigurationError"
  | assetResolution .. => "AssetResolutionError"
  | anchor .. => "AnchorError"
  | emptyDocument => "EmptyDocumentError"
  | externalTool .. => "ExternalToolError"
  | general .. => "RenderError"

def message : Failure → String
  | parse line raw reason =>
    "Parse error on line " ++ Numeral.text line ++ ": " ++ reason ++ " -> " ++ Text.quoted raw
  | configuration message => message
  | assetResolution id tried =>
    "Asset not found: " ++ id ++ " (tried " ++ ", ".intercalate tried ++ ")"
  | anchor written (some line) =>
    "Unknown SFX anchor \"" ++ written ++ "\" on line " ++ Numeral.text line ++
      " (expected now, last_start or last_end)"
  | anchor written none =>
    "Unknown SFX anchor \"" ++ written ++ "\" (expected now, last_start or last_end)"
  | emptyDocument => "Empty document: the script contains no narration lines"
  | externalTool tool message _ => tool.name ++ " failed: " ++ message
  | general message _ _ => message

/-- Only a crash of a tool is worth another attempt: every other failure comes again each time. -/
def isRetryable (f : Failure) : Bool :=
  f.code == .externalTool

end Failure

/-- An error of another kind: the name of its class, and what it says. -/
structure PlainError where
  name : String
  message : String
  deriving DecidableEq

namespace PlainError

instance : Coe String PlainError :=
  ⟨mk "Error"⟩

instance : CoeOut PlainError String :=
  ⟨message⟩

end PlainError

/-- Anything that a step can raise. -/
inductive Thrown where
  | failure (f : Failure)
  /-- A job that must not be tried again. -/
  | unrecoverable (message : String)
  /-- An error of any other kind, such as one of the file system. -/
  | error (e : PlainError)
  /-- A value that is no error. -/
  | value (v : Value)

namespace Thrown

/-- What is raised where a value is to be written out and cannot be. -/
def unwritable : Thrown :=
  .error ⟨"TypeError", "Cannot convert object to primitive value"⟩

/-- What an error says, or a value written out, if it can be. -/
def message? : Thrown → Option String
  | failure f => some f.message
  | unrecoverable message => some message
  | error e => some e.message
  | value v => v.written?

/-- The message; no text if there is none. -/
def message (e : Thrown) : String :=
  e.message?.getD ""

def name : Thrown → String
  | failure f => f.name
  | unrecoverable _ => "UnrecoverableError"
  | error e => e.name
  | value _ => "Error"

/-- A job is tried again unless it ended in a failure that would come again. -/
def isRetryable : Thrown → Bool
  | failure f => f.isRetryable
  | _ => true

/-- A raised value that looks like none at all to a caller who only asks whether there is one. -/
def isFalsy : Thrown → Bool
  | value v => v.isFalsy
  | _ => false

end Thrown

end StoryMix
