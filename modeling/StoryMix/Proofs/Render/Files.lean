import StoryMix.Proofs.Render.Run
import StoryMix.Proofs.Studio.Answer
import StoryMix.Proofs.Timeline.Sounds

/-!
# What a render does to the files

The stages of a render one by one, in both ways that each can end: the preparation makes at most a
directory, the recording and the mix change nothing outside of it, the publication changes nothing but
the unfinished file unless it succeeds, and the cleaning takes the directory away unless that is refused.
-/

namespace StoryMix

namespace Render

open StoryMix.Action
open FileTree (within)

variable {tools : Tools} {request : RenderRequest} {id : String} {s s' : Studio} {e : Thrown}

/-! ## Publication -/

/-- A finished publication leaves the output as it was staged and nothing unfinished. -/
theorem becomes_of_publish {staged outDir fileName path : String}
    (h : publish staged outDir fileName id s = .ok path s') :
    path = Path.join [outDir, fileName] ∧
      ∃ text, s.tree.read? (s.resolve staged) = some text ∧
        Becomes s
          (((s.tree.addDir (s.resolve outDir)).write (s.resolve (unfinishedPath path id)) text).rename
            (s.resolve (unfinishedPath path id)) (s.resolve path)) s' := by
  simp only [publish, bind_eq_ok, onFailure_eq_ok, pure_eq_ok] at h
  obtain ⟨_, s₁, hdir, _, s₃, ⟨_, s₂, hcopy, hrename⟩, rfl, rfl⟩ := h
  have h₁ := Files.makeDir_eq_ok hdir
  obtain ⟨text, hread, h₂⟩ := Files.copy_eq_ok hcopy
  have h₃ := Files.rename_eq_ok hrename
  rw [h₁.tree, FileTree.read?_addDir, h₁.resolve] at hread
  rw [h₂.tree, h₂.resolve, h₂.resolve, h₁.tree, h₁.resolve, h₁.resolve] at h₃
  exact ⟨rfl, text, hread, (h₁.trans h₂).trans h₃⟩

/-- Nothing but the unfinished file has changed, and at most the output directory was made. -/
structure Attempted (s : Studio) (outDir unfinished : String) (s' : Studio) : Prop where
  cwd : s'.cwd = s.cwd
  refusals : s'.refusals = s.refusals
  files : ∀ path, s.unlinks (s.resolve unfinished) path = false →
    s'.tree.read? path = s.tree.read? path
  dirs : ∀ d ∈ s'.tree.dirs, d ∈ s.tree.dirs ∨ d = s.resolve outDir

/-- What is left of a publication that failed: there is an unfinished file only if its removal is
refused. -/
structure Withdrawn (s : Studio) (outDir unfinished : String) (s' : Studio) : Prop
    extends Attempted s outDir unfinished s' where
  removed : s.refusals.message? (.remove unfinished) = none → ∀ path, s.tree.read? path = none →
    s'.tree.read? path = none

/-- The copy and the renaming, where one of them has failed. -/
theorem Attempted.of_becomes {outDir unfinished : String} {s₁ s₂ : Studio} {tree : FileTree}
    (h₁ : Becomes s (s.tree.addDir (s.resolve outDir)) s₁) (h₂ : Becomes s₁ tree s₂)
    (hdirs : tree.dirs = s₁.tree.dirs)
    (hfiles : ∀ path, path ≠ s.resolve unfinished → tree.read? path = s₁.tree.read? path) :
    Attempted s outDir unfinished s₂ where
  cwd := h₂.cwd.trans h₁.cwd
  refusals := h₂.refusals.trans h₁.refusals
  files path hpath := by
    rw [h₂.tree, hfiles path (Studio.ne_of_unlinks hpath), h₁.tree, FileTree.read?_addDir]
  dirs d hd := by
    rw [h₂.tree, hdirs, h₁.tree] at hd
    exact (FileTree.mem_dirs_addDir.mp hd).symm

/-- If a directory stands where the unfinished file was to be, it cannot be taken away, but then nothing
has been written either. -/
theorem Attempted.withdrawn {outDir unfinished : String} {s₂ : Studio}
    (h : Attempted s outDir unfinished s₂)
    (hunwritten : s₂.refusals.onDisk = true → s₂.tree.isDir (s₂.resolve unfinished) = true →
      ∀ path, s₂.tree.read? path = s.tree.read? path)
    (hremove : Files.removeFile unfinished s₂ = .ok () s' ∨ Files.removeFile unfinished s₂ = .error e s') :
    Withdrawn s outDir unfinished s' := by
  have hresolve := Studio.resolve_of_cwd h.cwd unfinished
  rcases hremove with hremove | hremove
  · have hread := Files.read?_removeFile hremove
    obtain ⟨h₃, -⟩ := Files.removeFile_eq_ok hremove
    rw [hresolve] at h₃ hread
    refine ⟨⟨h₃.cwd.trans h.cwd, h₃.refusals.trans h.refusals, ?_, ?_⟩, ?_⟩
    · intro path hpath
      rw [hread, Studio.unlinks_of_refusals h.refusals, hpath, if_neg Bool.false_ne_true,
        h.files path hpath]
    · intro d hd
      rw [h₃.tree] at hd
      exact h.dirs d (FileTree.mem_dirs_remove.mp hd).1
    · intro _ path hnone
      rw [hread, Studio.unlinks_of_refusals h.refusals]
      split
      · rfl
      · rename_i hpath
        rw [h.files path (Bool.eq_false_iff.mpr hpath), hnone]
  · obtain ⟨h₃, error, hrefused, -⟩ := Files.removeFile_eq_error hremove
    refine ⟨⟨h₃.cwd.trans h.cwd, h₃.refusals.trans h.refusals, ?_, ?_⟩, ?_⟩
    · intro path hpath
      rw [h₃.tree, h.files path hpath]
    · intro d hd
      rw [h₃.tree] at hd
      exact h.dirs d hd
    · intro hallowed path hnone
      have hdir : s₂.refusals.onDisk = true ∧ s₂.tree.isDir (s₂.resolve unfinished) = true := by
        by_contra hnot
        have hfree : s₂.unlinkRefusal? unfinished = none := by
          refine Studio.unlinkRefusal?_eq_none.2 ⟨by rw [h.refusals, hallowed], fun hdisk => ?_⟩
          exact Bool.eq_false_iff.2 fun hdir => hnot ⟨hdisk, hdir⟩
        cases hfree.symm.trans hrefused
      rw [h₃.tree, hunwritten hdir.1 hdir.2, hnone]

theorem withdrawn_of_publish {staged outDir fileName : String}
    (h : publish staged outDir fileName id s = .error e s') :
    Withdrawn s outDir (unfinishedPath (Path.join [outDir, fileName]) id) s' := by
  rcases bind_eq_error h with h | ⟨_, s₁, hdir, h⟩
  · have h₁ := Files.makeDir_eq_error h
    refine ⟨⟨h₁.cwd, h₁.refusals, fun path _ => ?_, fun d hd => ?_⟩, fun _ path hnone => ?_⟩
    · rw [h₁.tree]
    · rw [h₁.tree] at hd
      exact .inl hd
    · rw [h₁.tree, hnone]
  have h₁ := Files.makeDir_eq_ok hdir
  rcases bind_eq_error h with h | ⟨_, s₂, -, h⟩
  · obtain ⟨e₁, s₂, hact, hremove⟩ := onFailure_eq_error h
    rcases bind_eq_error hact with hcopy | ⟨_, s₃, hcopy, hrename⟩
    · have h₂ := Files.copy_eq_error hcopy
      refine (Attempted.of_becomes h₁ h₂ rfl fun _ _ => rfl).withdrawn (fun _ _ path => ?_) hremove
      rw [h₂.tree, h₁.tree, FileTree.read?_addDir]
    · obtain ⟨text, -, h₂⟩ := Files.copy_eq_ok hcopy
      have h₃ := Files.rename_eq_error hrename
      rw [h₂.tree] at h₃
      refine (Attempted.of_becomes h₁ (h₂.trans h₃) rfl fun path hpath => ?_).withdrawn
        (fun hdisk hisDir => ?_) hremove
      · rw [FileTree.read?_write, h₁.resolve, if_neg hpath]
      · rw [(h₂.trans h₃).refusals] at hdisk
        rw [h₃.tree, (h₂.trans h₃).resolve,
          FileTree.isDir_write text (FileTree.not_below_self _), Files.isDir_of_copy hcopy hdisk] at hisDir
        cases hisDir
  · cases h

/-! ## The working directory -/

/-- The directory is removed, or its removal is refused. -/
def Cleared (workDir : String) (s s' : Studio) : Prop :=
  Becomes s (s.tree.remove (s.resolve workDir)) s' ∨
    (Becomes s s.tree s' ∧ s.refusals.message? (.remove workDir) ≠ none)

/-- The removal of the working directory never fails. -/
theorem removeWorkDir_eq_ok (id workDir : String) (s : Studio) :
    ∃ s', removeWorkDir id workDir s = .ok () s' ∧ Cleared workDir s s' := by
  cases h : Files.remove workDir s with
  | ok u s₁ => exact ⟨s₁, bind_of_ok (outcome_of_ok h), .inl (Files.remove_eq_ok h)⟩
  | error e s₁ =>
      obtain ⟨h₁, message, hrefused, rfl⟩ := Files.remove_eq_error h
      refine ⟨_, bind_of_ok (outcome_of_error h), .inr ⟨⟨h₁.tree, h₁.cwd, h₁.refusals⟩, ?_⟩⟩
      rw [hrefused]
      nofun

theorem Cleared.of_log {workDir : String} {log : Array LogEntry}
    (h : Cleared workDir { s with log := log } s') : Cleared workDir s s' := by
  rcases h with h | ⟨h, hrefused⟩
  · exact .inl ⟨h.tree, h.cwd, h.refusals⟩
  · exact .inr ⟨⟨h.tree, h.cwd, h.refusals⟩, hrefused⟩

theorem Cleared.cwd {workDir : String} (h : Cleared workDir s s') : s'.cwd = s.cwd :=
  h.elim (fun h => h.cwd) fun h => h.1.cwd

theorem Cleared.refusals {workDir : String} (h : Cleared workDir s s') : s'.refusals = s.refusals :=
  h.elim (fun h => h.refusals) fun h => h.1.refusals

theorem Cleared.files {workDir path : String} (h : Cleared workDir s s')
    (hpath : within (s.resolve workDir) path = false) : s'.tree.read? path = s.tree.read? path := by
  rcases h with h | ⟨h, -⟩
  · rw [h.tree, FileTree.read?_remove, hpath, if_neg Bool.false_ne_true]
  · rw [h.tree]

theorem Cleared.dirs {workDir d : String} (h : Cleared workDir s s') (hd : d ∈ s'.tree.dirs) :
    d ∈ s.tree.dirs := by
  rcases h with h | ⟨h, -⟩
  · rw [h.tree] at hd
    exact (FileTree.mem_dirs_remove.mp hd).1
  · rwa [h.tree] at hd

theorem Cleared.vacant {workDir : String} (h : Cleared workDir s s')
    (hallowed : s.refusals.message? (.remove workDir) = none) :
    s'.tree.Vacant (s.resolve workDir) := by
  rcases h with h | ⟨-, hrefused⟩
  · intro path hpath
    rw [h.tree, FileTree.read?_remove, if_pos hpath, FileTree.mem_dirs_remove, hpath]
    exact ⟨rfl, fun hmem => nomatch hmem.2⟩
  · exact absurd hallowed hrefused

/-! ## Preparation -/

/-- What a preparation gives is known beforehand: the events of the script and the name of the next
temporary directory, unless that is refused. -/
theorem prepare_eq_ok_files {events : List Event} {workDir : String}
    (h : prepare id request s = .ok (events, workDir) s') :
    Script.parse request.strict request.script = .ok events ∧
      s.refusal? (.makeTempDir (workDirStart id)) = none ∧
      workDir = workDirStart id ++ "tmp" ++ Numeral.natText (s.tempDirs + 1) ∧
      Becomes s (s.tree.addDir (s.resolve workDir)) s' := by
  obtain ⟨hparse, _, hlog, _, hdir, rfl⟩ := (@prepare_eq_ok .prompt _ _ _ _ _ _).1 h
  cases hlog
  obtain ⟨hallowed, hpath, hbecomes⟩ := Files.makeTempDir_eq_ok hdir
  exact ⟨hparse, hallowed, hpath, hbecomes.tree, hbecomes.cwd, hbecomes.refusals⟩

theorem prepare_eq_error (h : prepare id request s = .error e s') :
    Becomes s s.tree s' ∧
      ¬ ((∃ events, Script.parse request.strict request.script = .ok events) ∧
        s.refusal? (.makeTempDir (workDirStart id)) = none) := by
  rcases bind_eq_error h with h | ⟨events, s₁, hparse, h⟩
  · rw [ofExcept_eq_error h]
    refine ⟨⟨rfl, rfl, rfl⟩, fun ⟨⟨events, hevents⟩, _⟩ => ?_⟩
    rw [hevents] at h
    cases h
  obtain ⟨-, rfl⟩ := ofExcept_eq_ok.1 hparse
  rcases bind_eq_error h with h | ⟨_, s₁, hlog, h⟩
  · cases h
  rcases bind_eq_error h with h | ⟨_, s₂, -, h⟩
  · obtain ⟨hrefused, h₁⟩ := Files.makeTempDir_eq_error h
    cases hlog
    exact ⟨⟨h₁.tree, h₁.cwd, h₁.refusals⟩, fun hnot => hrefused hnot.2⟩
  · cases h

end Render

end StoryMix
