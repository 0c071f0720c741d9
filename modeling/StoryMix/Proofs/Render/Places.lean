import StoryMix.Proofs.Render.Files

/-!
# Where a render works

A render works in four places: its working directory, the output directory, the output and the
unfinished file beside it. They lie apart because of their names: a working directory has no point in
its name and holds an output only if it holds the whole output directory, and an unfinished file ends
differently from every output.
-/

namespace StoryMix

namespace Render

open FileTree (within)
open StoryMix.Path (resolvedNames along)

/-- What a render begins its work with, if it gets so far. -/
def prepared? (request : RenderRequest) (s : Studio) : Option (List Event × String) :=
  match prepare (idOf (s.renders + 1)) request s with
  | .ok prepared _ => some prepared
  | .error _ _ => none

/-- Where a render works, by resolved paths. -/
structure Places where
  workDir : String
  outDir : String
  output : String
  unfinished : String
  deriving DecidableEq

def outputOf (request : RenderRequest) (events : List Event) : String :=
  Path.join [request.config.outDir, Mix.outputFileName (Timeline.titleOf events)]

def unfinishedOf (request : RenderRequest) (s : Studio) (events : List Event) : String :=
  unfinishedPath (outputOf request events) (idOf (s.renders + 1))

/-- The places of the render that begins in `s`. -/
def placesOf (request : RenderRequest) (s : Studio) (events : List Event) (workDir : String) :
    Places :=
  ⟨s.resolve workDir, s.resolve request.config.outDir, s.resolve (outputOf request events),
    s.resolve (unfinishedOf request s events)⟩

/-- The places of the render that begins in `s`, if it gets to work at all. -/
def places? (request : RenderRequest) (s : Studio) : Option Places :=
  (prepared? request s).map fun (events, workDir) => placesOf request s events workDir

variable {request : RenderRequest} {s : Studio}

/-! ## Names below a directory -/

section Join

variable {cwd dir name : String} (hname : Path.Plain name.toList)

include hname

/-- A name joined to a directory lies within it. -/
theorem within_join (cwd dir : String) :
    within (Path.resolve cwd dir) (Path.resolve cwd (Path.join [dir, name])) = true := by
  rw [Path.resolve_eq, Path.resolve_eq, Path.within_along (Path.plain_resolvedNames _ _)
    (Path.plain_resolvedNames _ _), Path.resolvedNames_join _ _ hname]
  exact List.prefix_append _ _

/-- What has another last name holds the joined path only if it holds the directory. -/
theorem not_within_join {top : List Path.Name} (htop : ∀ n ∈ top, Path.Plain n)
    (hlast : top.getLast? ≠ some name.toList)
    (h : within (along top) (Path.resolve cwd dir) = false) :
    within (along top) (Path.resolve cwd (Path.join [dir, name])) = false := by
  rw [Bool.eq_false_iff, Ne, Path.resolve_eq,
    Path.within_along htop (Path.plain_resolvedNames _ _)] at h ⊢
  rw [Path.resolvedNames_join _ _ hname, List.prefix_concat_iff]
  rintro (rfl | hbegins)
  · exact hlast List.getLast?_concat
  · exact h hbegins

end Join

/-! ## The working directory -/

/-- The names of the working directory, below the root. -/
def workNames (id : String) (n : Nat) : List Path.Name :=
  ["tmp".toList, (workName id n).toList]

theorem resolvedNames_workDir (k n : Nat) (cwd : String) :
    resolvedNames cwd (workDirStart (idOf k) ++ "tmp" ++ Numeral.natText n) =
      workNames (idOf k) n := by
  have hid := (numeric_idOf k).slashless
  rw [workDir_eq hid, Path.resolvedNames_join _ _ (plain_workName hid n),
    Path.resolvedNames_of_isAbsolute rfl]
  rfl

theorem plain_workNames (k n : Nat) : ∀ name ∈ workNames (idOf k) n, Path.Plain name := by
  rw [← resolvedNames_workDir k n ""]
  exact Path.plain_resolvedNames _ _

/-! ## Where the places lie -/

theorem places?_of_prepared {events : List Event} {workDir : String}
    (h : prepared? request s = some (events, workDir)) :
    places? request s = some (placesOf request s events workDir) := by
  rw [places?, h]
  rfl

theorem exists_prepared_of_places? {places : Places} (h : places? request s = some places) :
    ∃ events workDir, prepared? request s = some (events, workDir) ∧
      places = placesOf request s events workDir := by
  obtain ⟨⟨events, workDir⟩, hprepared, rfl⟩ := Option.map_eq_some_iff.mp h
  exact ⟨events, workDir, hprepared, rfl⟩

theorem resolve_of_prepared {events : List Event} {workDir : String}
    (h : prepared? request s = some (events, workDir)) :
    ∃ k n, s.resolve workDir = along (workNames (idOf k) n) := by
  unfold prepared? at h
  split at h
  · rename_i prepared s₁ hprepare
    cases h
    obtain ⟨-, -, hpath, -⟩ := prepare_eq_ok_files hprepare
    refine ⟨s.renders + 1, s.tempDirs + 1, ?_⟩
    rw [Studio.resolve, Path.resolve_eq, hpath, resolvedNames_workDir]
  · cases h

theorem workNames_ne_root (k n : Nat) : along (workNames (idOf k) n) ≠ "/" := by
  intro h
  have hnames : workNames (idOf k) n = [] :=
    Path.along_inj (plain_workNames k n) (fun _ h => absurd h List.not_mem_nil) h
  exact absurd hnames (List.cons_ne_nil _ _)

/-- An output lies in the working directory only if the directory for output does. -/
theorem output_outside_workDir {events : List Event} {workDir dir : String} (title : String)
    (h : prepared? request s = some (events, workDir))
    (hdir : within (s.resolve workDir) (s.resolve dir) = false) :
    within (s.resolve workDir) (s.resolve (Path.join [dir, Mix.outputFileName title])) = false := by
  obtain ⟨k, n, hwork⟩ := resolve_of_prepared h
  rw [hwork] at hdir ⊢
  refine not_within_join (Mix.plain_outputFileName title) (plain_workNames k n) (fun hlast => ?_) hdir
  have hpoint : '.' ∈ (Mix.outputFileName title).toList := by simp [Mix.outputFileName]
  rw [← Option.some.inj hlast] at hpoint
  exact pointless_workName k n hpoint

theorem resolvedNames_unfinishedOf (request : RenderRequest) (s : Studio) (events : List Event) :
    ∃ name : String, (∀ title, name.toList ≠ (Mix.outputFileName title).toList) ∧
      resolvedNames s.cwd (unfinishedOf request s events) =
        resolvedNames s.cwd request.config.outDir ++ [name.toList] := by
  have hfile := Mix.plain_outputFileName (Timeline.titleOf events)
  have hid := (numeric_idOf (s.renders + 1)).slashless
  refine ⟨_, unfinishedName_ne (Mix.outputFileName (Timeline.titleOf events))
    (idOf (s.renders + 1)), ?_⟩
  rw [unfinishedOf, outputOf, unfinishedPath_eq hid _ hfile,
    Path.resolvedNames_join _ _ (plain_unfinishedName hid hfile)]

/-- What is unfinished is nowhere in the place of an output. -/
theorem unfinished_ne_output (request : RenderRequest) (s : Studio) (events : List Event)
    (dir title : String) : s.resolve (unfinishedOf request s events) ≠
      s.resolve (Path.join [dir, Mix.outputFileName title]) := by
  intro heq
  obtain ⟨name, hname, hunfinished⟩ := resolvedNames_unfinishedOf request s events
  exact hname title
    (Path.last_eq_of_resolve hunfinished (Path.resolvedNames_join _ _ (Mix.plain_outputFileName _)) heq)

end Render

end StoryMix
