import StoryMix.Config.Environment
import StoryMix.Config.Producer
import StoryMix.Failure
import StoryMix.Studio.Call
import StoryMix.Studio.FileTree

/-!
# The studio

The world of a render as a value: its file tree, its settings, what has been called and logged so far.
An `Action` goes from one state of the studio to the next and gives an answer or raises something;
what it did before it failed stays done.
-/

namespace StoryMix

/-- The kinds of file operations that can be refused. -/
inductive FileOperation where
  | read
  | write
  | makeDir
  | makeTempDir
  | copy
  | rename
  | remove
  deriving DecidableEq, Repr

/-- The kind of a call, if it is one of the file system. -/
def Call.operation? : Call → Option FileOperation
  | .read _ => some .read
  | .write _ => some .write
  | .makeDir _ => some .makeDir
  | .makeTempDir _ => some .makeTempDir
  | .copy _ _ => some .copy
  | .rename _ _ => some .rename
  | .remove _ => some .remove
  | _ => none

/-- The file operations that fail, each with its message. -/
structure Refusals where
  message? : Call → Option String
  /-- Beside these fail the operations that a disk cannot do for what stands at their paths. Without a
  disk files are only rehearsed, and nothing stands in the way of anything. -/
  onDisk : Bool

namespace Refusals

/-- Every operation of one of these kinds fails. -/
def ofKinds (kinds : List (FileOperation × String)) : Refusals where
  message? call := call.operation?.bind fun op => kinds.lookup op
  onDisk := false

/-- Every operation of one of these kinds fails, and the files are on a disk. -/
def ofDisk (kinds : List (FileOperation × String)) : Refusals :=
  { ofKinds kinds with onDisk := true }

instance : Coe (List (FileOperation × String)) Refusals :=
  ⟨ofKinds⟩

end Refusals

/-- What a render is asked for. -/
structure RenderRequest where
  script : String
  config : ProducerConfig
  strict : Bool

structure Studio where
  tree : FileTree
  cwd : String
  env : Environment
  refusals : Refusals
  calls : Array Call
  log : Array LogEntry
  /-- Which line was last spoken into which file. -/
  spoken : List (String × String)
  /-- How many renders were begun. -/
  renders : Nat
  /-- How many temporary directories were made. -/
  tempDirs : Nat
  /-- How far the jobs have reported to be. -/
  progress : Array Float
  /-- The renders that were asked for. -/
  requests : Array RenderRequest
  queueCalls : Array QueueCall
  stdout : String
  stderr : String

/-- The error of removing a file that is a directory. -/
def PlainError.ofDirectory (path : String) : PlainError :=
  ⟨"SystemError", "Path is a directory: rm returned EISDIR (is a directory) " ++ path⟩

namespace Studio

/-- A studio in which nothing has happened yet. -/
def fresh (tree : FileTree) (cwd : String) (env : Environment)
    (refusals : List (FileOperation × String)) : Studio where
  tree := tree
  cwd := cwd
  env := env
  refusals := .ofKinds refusals
  calls := #[]
  log := #[]
  spoken := []
  renders := 0
  tempDirs := 0
  progress := #[]
  requests := #[]
  queueCalls := #[]
  stdout := ""
  stderr := ""

/-- The absolute form of a path. -/
def resolve (s : Studio) (path : String) : String :=
  Path.resolve s.cwd path

/-- There is something at a path. -/
def present (s : Studio) (path : String) : Bool :=
  s.tree.present (s.resolve path) (Path.endsInSlash path.toList)

/-- What stands in the way of an operation on a disk. A directory that has to be there already is looked
for; those above an output are made by then. -/
def obstacle? (s : Studio) : Call → Option Obstacle
  | .write path => if s.tree.isDir (s.resolve path) then some .isDirectory else none
  | .makeDir path =>
    if (s.tree.read? (s.resolve path)).isSome then some .taken
    else if s.tree.fileAbove (s.resolve path) then some .notDirectory
    else none
  | .makeTempDir start =>
    let dir := Path.parent s.cwd start
    if s.tree.isDir dir then none
    else if (s.tree.read? dir).isSome || s.tree.fileAbove dir then some .notDirectory
    else some .missing
  | .copy source target =>
    if (s.tree.read? (s.resolve source)).isSome && s.tree.isDir (s.resolve target) then some .isDirectory
    else none
  | .rename source target =>
    if (s.tree.read? (s.resolve source)).isNone then some .missing
    else if s.tree.isDir (s.resolve target) then some .isDirectory
    else none
  | _ => none

/-- The error with which an operation fails: it is refused, or on a disk something stands in its way. -/
def refusal? (s : Studio) (call : Call) : Option PlainError :=
  match s.refusals.message? call with
  | some message => some message
  | none => if s.refusals.onDisk then (s.obstacle? call).map fun o => ↑(o.message call) else none

/-- The error with which the removal of a file fails. On a disk a directory is not removed as a file. -/
def unlinkRefusal? (s : Studio) (path : String) : Option PlainError :=
  match s.refusals.message? (.remove path) with
  | some message => some message
  | none =>
    if s.refusals.onDisk && s.tree.isDir (s.resolve path) then
      some (.ofDirectory path)
    else none

end Studio

/-- A step of work in a studio. -/
abbrev Action :=
  EStateM Thrown Studio

namespace Action

variable {α : Type}

/-- Raises a failure of the render. -/
def fail (f : Failure) : Action α :=
  throw (.failure f)

/-- The answer of a check, or its failure. -/
def ofExcept : Except Failure α → Action α
  | .ok a => pure a
  | .error f => fail f

/-- Adds a call to the record. -/
def record (c : Call) : Action Unit :=
  modify fun s => { s with calls := s.calls.push c }

/-- Adds a call of the queue to the record. -/
def recordQueue (c : QueueCall) : Action Unit :=
  modify fun s => { s with queueCalls := s.queueCalls.push c }

/-- Notes how far a job is. -/
def reportProgress (progress : Float) : Action Unit :=
  modify fun s => { s with progress := s.progress.push progress }

/-- Notes a render that is asked for. -/
def noteRequest (request : RenderRequest) : Action Unit :=
  modify fun s => { s with requests := s.requests.push request }

def say (level : Level) (message : String) (arguments : List Value) : Action Unit :=
  modify fun s => { s with log := s.log.push ⟨level, message, arguments⟩ }

def debug (message : String) : Action Unit :=
  say .debug message []

/-- Logs a message with named details. -/
def inform (level : Level) (message : String) (details : List (String × Value)) : Action Unit :=
  say level message [.record details]

/-- Prints a line on the standard output. -/
def printLine (line : String) : Action Unit :=
  modify fun s => { s with stdout := s.stdout ++ line ++ "\n" }

/-- Prints a text on the standard output as it stands. -/
def print (text : String) : Action Unit :=
  modify fun s => { s with stdout := s.stdout ++ text }

/-- Prints a line on the standard error output. -/
def printError (line : String) : Action Unit :=
  modify fun s => { s with stderr := s.stderr ++ line ++ "\n" }

/-- Runs `cleanup` if the action fails and then fails the same way. If `cleanup` fails too, its own
failure is the one that counts. -/
def onFailure (act : Action α) (cleanup : Thrown → Action Unit) : Action α := fun s =>
  match act s with
  | .ok a s => .ok a s
  | .error e s =>
    match cleanup e s with
    | .ok _ s => .error e s
    | .error e s => .error e s

/-- Runs `cleanup` after the action, however it ends. If `cleanup` fails, its failure is the one that
counts. -/
def always (act : Action α) (cleanup : Action Unit) : Action α := fun s =>
  match act s with
  | .ok a s =>
    match cleanup s with
    | .ok _ s => .ok a s
    | .error e s => .error e s
  | .error e s =>
    match cleanup s with
    | .ok _ s => .error e s
    | .error e s => .error e s

/-- The text of a value for a message. A value that cannot be written out raises an error instead. -/
def writing (text? : Option String) : Action String :=
  match text? with
  | some text => pure text
  | none => throw .unwritable

/-- The answer of an action or what it raised, as a value. -/
def outcome (act : Action α) : Action (Except Thrown α) := fun s =>
  match act s with
  | .ok a s => .ok (.ok a) s
  | .error e s => .ok (.error e) s

end Action

end StoryMix
