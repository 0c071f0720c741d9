import StoryMix.Entries
import StoryMix.Path
import StoryMix.Text.Units

/-!
# File trees

The files of a studio by their resolved paths, with their texts, and the directories that were made.
A directory also exists when something lies below it, so one that is made brings those above it along.
-/

namespace StoryMix

structure FileTree where
  files : List (String × String)
  dirs : List String

namespace FileTree

def empty : FileTree :=
  ⟨[], []⟩

/-- The text of a file. -/
def read? (t : FileTree) (path : String) : Option String :=
  t.files.lookup path

/-- The tree with a file of this text at this path, whatever was there. -/
def write (t : FileTree) (path text : String) : FileTree :=
  { t with files := Entries.replace t.files path text }

def erase (t : FileTree) (path : String) : FileTree :=
  { t with files := Entries.erase t.files path }

def addDir (t : FileTree) (path : String) : FileTree :=
  if t.dirs.contains path then t else { t with dirs := path :: t.dirs }

/-- The tree of these files, each path given once, and these directories, in which one may be given
again. -/
def ofLists (files : List (String × String)) (dirs : List String) : FileTree :=
  dirs.foldl addDir ⟨files, []⟩

/-- A path is the other path or lies below it. -/
def within (dir path : String) : Bool :=
  path == dir || Path.below dir path

/-- The tree without a path and all that lies below it. -/
def remove (t : FileTree) (path : String) : FileTree where
  files := t.files.filter fun f => !within path f.1
  dirs := t.dirs.filter fun d => !within path d

/-- The tree after a file has moved. Without a file at the first path nothing moves. -/
def rename (t : FileTree) (source target : String) : FileTree :=
  match t.read? source with
  | some text => (t.erase source).write target text
  | none => t

def isDir (t : FileTree) (path : String) : Bool :=
  path == "/" || t.dirs.contains path || t.files.any (Path.below path ·.1) ||
    t.dirs.any (Path.below path)

/-- A file stands where a path has one of the directories above it. -/
def fileAbove (t : FileTree) (path : String) : Bool :=
  t.files.any fun f => Path.below f.1 path

/-- There is something at a resolved path. A slash at its end asks for a directory. -/
def present (t : FileTree) (path : String) (slash : Bool) : Bool :=
  t.isDir path || (!slash && (t.read? path).isSome)

/-- The files in the order of their paths. -/
def listing (t : FileTree) : List (String × String) :=
  t.files.mergeSort fun a b => Text.unitLe a.1 b.1

/-- The directories that were made, in the order of their paths. -/
def madeDirs (t : FileTree) : List String :=
  t.dirs.mergeSort Text.unitLe

/-! ## What each change does to the view by path -/

theorem read?_write (t : FileTree) (path text other : String) :
    (t.write path text).read? other = if other = path then some text else t.read? other :=
  Entries.lookup_replace t.files path text other

theorem read?_erase (t : FileTree) (path other : String) :
    (t.erase path).read? other = if other = path then none else t.read? other :=
  Entries.lookup_erase t.files path other

theorem read?_addDir (t : FileTree) (path other : String) :
    (t.addDir path).read? other = t.read? other := by
  unfold addDir
  split <;> rfl

theorem read?_ofLists (files : List (String × String)) (dirs : List String) (path : String) :
    (ofLists files dirs).read? path = files.lookup path := by
  unfold ofLists
  suffices h : ∀ t : FileTree, (dirs.foldl addDir t).read? path = t.read? path from h _
  induction dirs with
  | nil => exact fun _ => rfl
  | cons d ds ih => exact fun t => (ih (t.addDir d)).trans (read?_addDir t d path)

theorem read?_remove (t : FileTree) (path other : String) :
    (t.remove path).read? other = if within path other then none else t.read? other := by
  unfold remove read?
  simp only
  induction t.files with
  | nil => split <;> rfl
  | cons f fs ih =>
    obtain ⟨p, text⟩ := f
    by_cases hp : within path p = true
    · rw [List.filter_cons_of_neg (by simp [hp]), ih, List.lookup_cons]
      by_cases ho : other = p
      · subst ho; simp only [hp, if_true]
      · rw [beq_eq_false_iff_ne.2 ho]
    · rw [List.filter_cons_of_pos (by simp [hp]), List.lookup_cons, List.lookup_cons]
      by_cases ho : other = p
      · subst ho; simp only [hp, beq_self_eq_true]; rfl
      · rw [beq_eq_false_iff_ne.2 ho]; exact ih

end FileTree

end StoryMix
