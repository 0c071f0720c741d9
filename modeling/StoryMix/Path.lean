import StoryMix.Text.Split

/-!
# Paths

Slash-separated paths, taken as texts: empty names and `.` fall away and `..` takes back the name
before it, without a look at any file tree. A joined path keeps a slash at its end; a resolved path
is absolute and has none.
-/

namespace StoryMix.Path

/-- A name between two slashes. -/
abbrev Name := List Char

/-- The name of the directory above. -/
def above : Name :=
  ['.', '.']

def isAbsolute (cs : List Char) : Bool :=
  cs.head? == some '/'

def endsInSlash (cs : List Char) : Bool :=
  cs.getLast? == some '/'

/-- Follows one name from the directory given by `stack`, innermost name first. Above the root lies
the root; above the start of a relative path one can climb. -/
def follow (absolute : Bool) (stack : List Name) (name : Name) : List Name :=
  if name = [] ∨ name = ['.'] then stack
  else if name = above then
    match stack with
    | [] => if absolute then [] else [above]
    | top :: below => if top = above then above :: stack else below
  else name :: stack

/-- The names that are left of a path when all have been followed. -/
def collapsed (absolute : Bool) (cs : List Char) : List Name :=
  ((Text.cut (· == '/') cs).foldl (follow absolute) []).reverse

def ofNames (names : List Name) : List Char :=
  Text.joined ['/'] names

/-- The shortest form of a path that means the same. -/
def normal (cs : List Char) : List Char :=
  let absolute := isAbsolute cs
  let body := ofNames (collapsed absolute cs)
  let slash := if endsInSlash cs then ['/'] else []
  if cs = [] then ['.']
  else if body = [] then (if absolute then ['/'] else '.' :: slash)
  else (if absolute then ['/'] else []) ++ body ++ slash

/-- The parts one below the other, empty ones left out. -/
def join (parts : List String) : String :=
  let given := (parts.map String.toList).filter (· ≠ [])
  String.ofList (if given = [] then ['.'] else normal (Text.joined ['/'] given))

/-- The names of a path that starts at the root or else in the directory `cwd`. -/
def resolvedNames (cwd path : String) : List Name :=
  collapsed true (if isAbsolute path.toList then path.toList else cwd.toList ++ '/' :: path.toList)

/-- The absolute form of a path that starts at the root or else in the directory `cwd`. -/
def resolve (cwd path : String) : String :=
  String.ofList ('/' :: ofNames (resolvedNames cwd path))

/-- The directory that holds a path. The root holds itself. -/
def parent (cwd path : String) : String :=
  String.ofList ('/' :: ofNames (resolvedNames cwd path).dropLast)

/-- A resolved path lies below a resolved directory. -/
def below (dir path : String) : Bool :=
  let base := if dir = "/" then ['/'] else dir.toList ++ ['/']
  base.isPrefixOf path.toList && base != path.toList

end StoryMix.Path
