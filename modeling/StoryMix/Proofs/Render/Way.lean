import StoryMix.Proofs.Render.Effect

/-!
# What is in the way of a publication

On a disk a publication can fail for what stands at its paths: a file in the place of the output directory
or of one above it, or a directory in the place of the output or of the unfinished file. There is nothing
else that it goes by (`Way`).

Up to its publication a render changes nothing outside of its working directory, so it finds the way as it
was when it began (`wayOf_of_enclosed`). The steps of a publication do not get in the way of those after
them either, since the output and the unfinished file lie side by side, below the output directory.
-/

namespace StoryMix

namespace Render

open StoryMix.Action
open FileTree (within)
open StoryMix.Path (resolvedNames along)

/-- What a publication meets on a disk. -/
structure Way where
  /-- What stands in the way of the output directory. -/
  outDir : Option Obstacle
  /-- There is a directory in the place of the unfinished file. -/
  unfinished : Bool
  /-- There is one in the place of the output. -/
  output : Bool
  deriving DecidableEq

def wayOf (id outDir fileName : String) (s : Studio) : Way where
  outDir := s.obstacle? (.makeDir outDir)
  unfinished := s.tree.isDir (s.resolve (unfinishedPath (Path.join [outDir, fileName]) id))
  output := s.tree.isDir (s.resolve (Path.join [outDir, fileName]))

theorem wayOf_outDir (id outDir fileName : String) (s : Studio) :
    (wayOf id outDir fileName s).outDir = s.obstacle? (.makeDir outDir) := by
  rw [wayOf]

theorem wayOf_unfinished (id outDir fileName : String) (s : Studio) :
    (wayOf id outDir fileName s).unfinished =
      s.tree.isDir (s.resolve (unfinishedPath (Path.join [outDir, fileName]) id)) := by
  rw [wayOf]

theorem wayOf_output (id outDir fileName : String) (s : Studio) :
    (wayOf id outDir fileName s).output = s.tree.isDir (s.resolve (Path.join [outDir, fileName])) := by
  rw [wayOf]

variable {s s₁ s₂ : Studio} {workDir outDir : String} {k k' n : Nat}

/-! ## Up to the publication -/

/-- A name with a point is in no part of the path of a working directory. -/
theorem not_prefix_workNames {names : List Path.Name} {name : Path.Name} (hpoint : '.' ∈ name) :
    ¬ names ++ [name] <+: workNames (idOf k) n := by
  intro hbegins
  have hmem : name ∈ workNames (idOf k) n :=
    hbegins.subset (List.mem_append_right _ (List.mem_singleton.2 rfl))
  rcases List.mem_cons.1 hmem with rfl | hmem
  · exact absurd hpoint (by decide)
  · rw [List.mem_singleton.1 hmem] at hpoint
    exact pointless_workName k n hpoint

/-- What is joined to a directory outside of the working directory is a directory in the end if it was one
in the beginning. -/
theorem Enclosed.isDir_join (h : Enclosed s workDir s₁)
    (hwork : s.resolve workDir = along (workNames (idOf k) n)) {name : String}
    (hplain : Path.Plain name.toList) (hpoint : '.' ∈ name.toList)
    (hout : within (s.resolve workDir) (s.resolve outDir) = false) :
    s₁.tree.isDir (s₁.resolve (Path.join [outDir, name])) =
      s.tree.isDir (s.resolve (Path.join [outDir, name])) := by
  have hnames := Path.resolvedNames_join s.cwd outDir hplain
  rw [Studio.resolve_of_cwd h.cwd]
  -- Were something of the working directory below this path, one of the two would hold the other.
  have hapart : ∀ path, within (s.resolve (Path.join [outDir, name])) path = true →
      within (s.resolve workDir) path = false := by
    intro path hpath
    rw [Bool.eq_false_iff]
    intro hwithin
    rw [hwork] at hwithin hout
    have houtside : within (along (workNames (idOf k) n)) (s.resolve (Path.join [outDir, name])) =
        false := by
      refine not_within_join hplain (plain_workNames k n) (fun hlast => ?_) hout
      rw [← Option.some.inj hlast] at hpoint
      exact pointless_workName k n hpoint
    rw [Studio.resolve, Path.resolve_eq] at hpath houtside
    rcases Path.comparable_of_within (plain_workNames k n) (Path.plain_resolvedNames _ _) hwithin hpath
      with hbegins | hbegins
    · rw [(Path.within_along (plain_workNames k n) (Path.plain_resolvedNames _ _)).2 hbegins]
        at houtside
      cases houtside
    · rw [hnames] at hbegins
      exact not_prefix_workNames hpoint hbegins
  refine FileTree.isDir_congr (fun other hbelow => ?_) fun d hd => h.dirs d (hapart d hd)
  rw [h.files other (hapart other (FileTree.within_of_below hbelow))]

/-- The obstacles of an output directory lie at it and above it. -/
theorem Enclosed.obstacle?_makeDir (h : Enclosed s workDir s₁)
    (hout : within (s.resolve workDir) (s.resolve outDir) = false) :
    s₁.obstacle? (.makeDir outDir) = s.obstacle? (.makeDir outDir) := by
  have habove : s₁.tree.fileAbove (s.resolve outDir) = s.tree.fileAbove (s.resolve outDir) := by
    refine FileTree.fileAbove_congr fun other hbelow => ?_
    rw [h.files other]
    rw [Bool.eq_false_iff]
    intro hwithin
    rw [FileTree.within_trans hwithin (FileTree.within_of_below hbelow)] at hout
    cases hout
  rw [Studio.obstacle?, Studio.obstacle?, Studio.resolve_of_cwd h.cwd, h.files _ hout, habove]

theorem wayOf_of_enclosed (h : Enclosed s workDir s₁)
    (hwork : s.resolve workDir = along (workNames (idOf k) n))
    (hout : within (s.resolve workDir) (s.resolve outDir) = false) (title : String) :
    wayOf (idOf k') outDir (Mix.outputFileName title) s₁ =
      wayOf (idOf k') outDir (Mix.outputFileName title) s := by
  have hfile := Mix.plain_outputFileName title
  have hid := (numeric_idOf k').slashless
  have hpoint : '.' ∈ (Mix.outputFileName title).toList := by simp [Mix.outputFileName]
  have hpoint' : '.' ∈ (unfinishedName (Mix.outputFileName title) (idOf k')).toList := by
    simp [unfinishedName]
  rw [wayOf, wayOf, unfinishedPath_eq hid _ hfile, h.obstacle?_makeDir hout,
    h.isDir_join hwork hfile hpoint hout,
    h.isDir_join hwork (plain_unfinishedName hid hfile) hpoint' hout]

/-- Nor does it change the way that it has recorded and mixed before. -/
theorem wayOf_of_mixed {tools : Tools} (htools : tools.Tidy) {config : ProducerConfig}
    {events : List Event} {timeline : Timeline} {graph : Mix.Graph} {mixed : String} {s₃ : Studio}
    (hdir : ∀ cwd, resolvedNames cwd workDir = workNames (idOf k) n) (h : Enclosed s workDir s₁)
    (hbuild : Timeline.build tools config workDir events s₁ = .ok timeline s₂)
    (hcompile : Mix.compile timeline config = .ok graph)
    (hmix : tools.mix graph (Path.join [workDir, graph.output.fileName]) s₂ = .ok mixed s₃)
    (hout : within (s.resolve workDir) (s.resolve outDir) = false) (title : String) :
    wayOf (idOf k') outDir (Mix.outputFileName title) s₃ =
      wayOf (idOf k') outDir (Mix.outputFileName title) s := by
  have hsounds : Confined (Timeline.Sound (workNames (idOf k) n)) s₁ s₂ := by
    rw [← after_of_ok hbuild]
    exact Timeline.confines_build htools hdir events s₁
  have hstaged := htools.mix graph (Path.join [workDir, graph.output.fileName]) s₂
  rw [after_of_ok hmix] at hstaged
  exact wayOf_of_enclosed (h.mixed hdir (plain_workNames k n) hsounds hcompile hstaged)
    (resolve_of_names hdir s) hout title

/-! ## During the publication -/

section Names

variable {cwd name other : String} (hname : Path.Plain name.toList)
include hname

theorem not_within_above : within (Path.resolve cwd (Path.join [outDir, name]))
    (Path.resolve cwd outDir) = false := by
  rw [Bool.eq_false_iff, Ne, Path.resolve_eq, Path.resolve_eq,
    Path.within_along (Path.plain_resolvedNames _ _) (Path.plain_resolvedNames _ _),
    Path.resolvedNames_join _ _ hname]
  intro hbegins
  have hlength := hbegins.length_le
  rw [List.length_append, List.length_singleton] at hlength
  omega

theorem not_below_beside (hother : Path.Plain other.toList) :
    Path.below (Path.resolve cwd (Path.join [outDir, name]))
      (Path.resolve cwd (Path.join [outDir, other])) = false := by
  rw [Bool.eq_false_iff, Ne, Path.resolve_eq, Path.resolve_eq,
    Path.below_along (Path.plain_resolvedNames _ _) (Path.plain_resolvedNames _ _),
    Path.resolvedNames_join _ _ hname, Path.resolvedNames_join _ _ hother]
  rintro ⟨rest, hrest, heq⟩
  have hlength := congrArg List.length heq
  simp only [List.length_append, List.length_singleton] at hlength
  exact hrest (List.eq_nil_of_length_eq_zero (by omega))

end Names

section Publication

variable {title text : String}

/-- The output directory is made above the output and the unfinished file. -/
theorem wayOf_of_makeDir (h : Becomes s (s.tree.addDir (s.resolve outDir)) s₁) :
    (wayOf (idOf k) outDir (Mix.outputFileName title) s₁).unfinished =
        (wayOf (idOf k) outDir (Mix.outputFileName title) s).unfinished ∧
      (wayOf (idOf k) outDir (Mix.outputFileName title) s₁).output =
        (wayOf (idOf k) outDir (Mix.outputFileName title) s).output := by
  have hfile := Mix.plain_outputFileName title
  have hid := (numeric_idOf k).slashless
  simp only [wayOf, h.resolve, h.tree, unfinishedPath_eq hid _ hfile]
  exact ⟨FileTree.isDir_addDir (not_within_above (plain_unfinishedName hid hfile)),
    FileTree.isDir_addDir (not_within_above hfile)⟩

/-- The unfinished file lies beside the output. -/
theorem wayOf_of_write
    (h : Becomes s (s.tree.write (s.resolve
      (unfinishedPath (Path.join [outDir, Mix.outputFileName title]) (idOf k))) text) s₁) :
    (wayOf (idOf k) outDir (Mix.outputFileName title) s₁).unfinished =
        (wayOf (idOf k) outDir (Mix.outputFileName title) s).unfinished ∧
      (wayOf (idOf k) outDir (Mix.outputFileName title) s₁).output =
        (wayOf (idOf k) outDir (Mix.outputFileName title) s).output := by
  have hfile := Mix.plain_outputFileName title
  have hid := (numeric_idOf k).slashless
  simp only [wayOf, h.resolve, h.tree, unfinishedPath_eq hid _ hfile]
  exact ⟨FileTree.isDir_write _ (FileTree.not_below_self _),
    FileTree.isDir_write _ (not_below_beside hfile (plain_unfinishedName hid hfile))⟩

/-- A copy or a renaming that fails leaves the place of the unfinished file a directory if it was one. -/
theorem wayOf_of_withdrawn {staged : String} {e : Thrown}
    (h : (do
      Files.copy staged (unfinishedPath (Path.join [outDir, Mix.outputFileName title]) (idOf k))
      Files.rename (unfinishedPath (Path.join [outDir, Mix.outputFileName title]) (idOf k))
        (Path.join [outDir, Mix.outputFileName title])) s = .error e s₂) :
    (wayOf (idOf k) outDir (Mix.outputFileName title) s₂).unfinished =
      (wayOf (idOf k) outDir (Mix.outputFileName title) s).unfinished := by
  rcases bind_eq_error h with hcopy | ⟨_, s₁, hcopy, hrename⟩
  · have h₁ := Files.copy_eq_error hcopy
    simp only [wayOf, h₁.resolve, h₁.tree]
  · obtain ⟨text, -, h₁⟩ := Files.copy_eq_ok hcopy
    have h₂ := Files.rename_eq_error hrename
    refine Eq.trans ?_ (wayOf_of_write h₁).1
    simp only [wayOf, h₂.resolve, h₂.tree]

end Publication

end Render

end StoryMix
