import StoryMix.Studio.Basic

/-!
# File operations

The file operations of a studio. Each is recorded, then refused if the studio refuses it or, on a disk,
something stands in its way, and only then takes effect. Directories above a file are not made with it.
-/

namespace StoryMix.Files

/-- Raises an error if this operation is refused. -/
def permit (call : Call) : Action Unit := do
  match (← get).refusal? call with
  | some e => throw (.error e)
  | none => pure ()

/-- Records an operation and raises an error if it is refused. -/
def attempt (call : Call) : Action Unit := do
  Action.record call
  permit call

/-- Changes the file tree. -/
def change (f : Studio → FileTree) : Action Unit :=
  modify fun s => { s with tree := f s }

/-- Writes a file without a call of its own: this is how tools leave their results. -/
def put (path text : String) : Action Unit :=
  change fun s => s.tree.write (s.resolve path) text

/-- The text of a file as it is found, or the error that says it is not there. -/
def find (path : String) : Action String := do
  let s ← get
  match s.tree.read? (s.resolve path) with
  | some text => pure text
  | none => throw (.error (Obstacle.missing.message (.read path)))

def read (path : String) : Action String := do
  attempt (.read path)
  find path

def write (path text : String) : Action Unit := do
  attempt (.write path)
  put path text

/-- Makes a directory and those above it, which may exist already. -/
def makeDir (path : String) : Action Unit := do
  attempt (.makeDir path)
  change fun s => s.tree.addDir (s.resolve path)

/-- Makes a fresh directory and gives its path, which begins with `start`. -/
def makeTempDir (start : String) : Action String := do
  attempt (.makeTempDir start)
  let n := (← get).tempDirs + 1
  let path := start ++ "tmp" ++ Numeral.natText n
  modify fun s => { s with tempDirs := n, tree := s.tree.addDir (s.resolve path) }
  pure path

def copy (source target : String) : Action Unit := do
  attempt (.copy source target)
  let s ← get
  match s.tree.read? (s.resolve source) with
  | some text => put target text
  | none => throw (.error (Obstacle.missing.message (.copy source target)))

def rename (source target : String) : Action Unit := do
  attempt (.rename source target)
  change fun s => s.tree.rename (s.resolve source) (s.resolve target)

/-- Removes the file at a path. It need not be there. Off a disk it goes with all below it. -/
def removeFile (path : String) : Action Unit := do
  Action.record (.remove path)
  match (← get).unlinkRefusal? path with
  | some e => throw (.error e)
  | none => change fun s => s.tree.remove (s.resolve path)

/-- Removes a path and all below it. It need not be there. -/
def remove (path : String) : Action Unit := do
  attempt (.remove path)
  change fun s => s.tree.remove (s.resolve path)

end StoryMix.Files
