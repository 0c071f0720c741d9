import StoryMix.Value

/-!
# Calls and log entries

What a studio keeps a record of: every call of a tool or of the file system, in order, and every entry
of the log. The file system names its calls when it says why it cannot do them.
-/

namespace StoryMix

/-- A line to be spoken: with whose voice, and into which file. -/
structure SynthesisRequest where
  voiceReference : String
  text : String
  outputPath : String
  deriving DecidableEq

/-- A silence to be made. -/
structure SilenceRequest where
  seconds : Float
  sampleRate : Float
  channelLayout : String
  outputPath : String

/-- One step in putting together a command of the media tool. -/
inductive MediaStep where
  | input (source : String)
  | inputFormat (format : String)
  | duration (seconds : Float)
  | complexFilter (filters : List String) (output : String)
  | audioCodec (codec : String)
  | audioBitrate (bitrate : String)
  | format (format : String)
  | output (path : String)

/-- A call of a tool, an outside program or the file system. -/
inductive Call where
  | read (path : String)
  | write (path : String)
  | makeDir (path : String)
  /-- Makes a fresh directory whose path begins as told. -/
  | makeTempDir (start : String)
  | copy (source target : String)
  | rename (source target : String)
  | remove (path : String)
  | voice (request : SynthesisRequest)
  | probe (file : String)
  | silence (request : SilenceRequest)
  | asset (root id : String)
  | mix (outputPath : String)
  | execute (executable : String) (arguments : List String)
  | mediaProbe (file : String)
  /-- A new media command. -/
  | media
  | mediaStep (step : MediaStep)
  | mediaRun

/-- How the file system calls an operation by its name and paths. The last letters of a fresh directory
are still open. -/
def Call.wording : Call → String
  | .read path => "open '" ++ path ++ "'"
  | .write path => "open '" ++ path ++ "'"
  | .makeDir path => "mkdir '" ++ path ++ "'"
  | .makeTempDir start => "mkdtemp '" ++ start ++ "XXXXXX'"
  | .copy source target => "copyfile '" ++ source ++ "' -> '" ++ target ++ "'"
  | .rename source target => "rename '" ++ source ++ "' -> '" ++ target ++ "'"
  | .remove path => "rm '" ++ path ++ "'"
  | _ => ""

/-- Why an operation on files cannot be done. -/
inductive Obstacle where
  | missing
  | taken
  | notDirectory
  | isDirectory
  deriving DecidableEq

def Obstacle.text : Obstacle → String
  | .missing => "ENOENT: no such file or directory"
  | .taken => "EEXIST: file already exists"
  | .notDirectory => "ENOTDIR: not a directory"
  | .isDirectory => "EISDIR: illegal operation on a directory"

/-- What is said of an operation that meets an obstacle. -/
def Obstacle.message (o : Obstacle) (call : Call) : String :=
  o.text ++ ", " ++ call.wording

/-- What becomes of a queued job that is not told otherwise. Times are in milliseconds for a delay and
in seconds for an age. -/
structure JobDefaults where
  attempts : Float
  backoff : String
  backoffDelay : Nat
  keptCompleted : Nat
  keptCompletedAge : Nat
  keptFailed : Nat

/-- A call of the job queue. -/
inductive QueueCall where
  /-- Connects to the store of the queue; requests are retried without limit. -/
  | connect (url : String)
  | queue (name : String) (defaults : JobDefaults)
  | worker (name : String) (concurrency : Float)
  | events (name : String)
  | add (name : String) (payload : Value)
  | close
  | quit

inductive Level where
  | debug
  | info
  | warn
  | error
  deriving DecidableEq, Repr

def Level.name : Level → String
  | .debug => "debug"
  | .info => "info"
  | .warn => "warn"
  | .error => "error"

/-- An entry of the log, with what it says beside its message. -/
structure LogEntry where
  level : Level
  message : String
  arguments : List Value

end StoryMix
