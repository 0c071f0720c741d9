import StoryMix.Proofs.Rehearsal.Tools
import StoryMix.Proofs.Render.Account
import StoryMix.Proofs.Render.Effect

/-!
# A render is all or nothing

A render either puts the mix in its place and changes no other file, or it changes no file at all, and
in neither case anything is left of its working directory. For a failed render `Failed` says this of
the paths outside of the two places where the render works; within them there was nothing before and
there is nothing afterwards.

What a failed render may leave is directories: the one for output, and those above it that were not there
either, since it is made with all of them (`leaves_above`).
-/

namespace StoryMix

namespace Render

open FileTree (within)

/-- The working directory is a new one and no directory for output lies in it, and no file is where
the unfinished one is going to be. (Off a disk nor is one below, as it would be removed along with it.) -/
structure Places.Fresh (places : Places) (s : Studio) : Prop where
  noDir : s.tree.isDir places.workDir = false
  noFile : s.tree.read? places.workDir = none
  apart : within places.workDir places.outDir = false
  unfinished : s.tree.read? places.unfinished = none
  below : s.refusals.onDisk = false → ∀ path, Path.below places.unfinished path = true →
    s.tree.read? path = none

/-- What a failed render leaves: the files as they were, nothing of its working directory, and no new
directory but the one for output and those above it, and these only if there was a mix to put there. -/
structure Undone (tools : Tools) (request : RenderRequest) (s s' : Studio) : Prop where
  files : ∀ path, s'.tree.read? path = s.tree.read? path
  workDir : ∀ places, places? request s = some places → ∀ path,
    within places.workDir path = true → s'.tree.isDir path = false
  dirs : ∀ path, s'.tree.isDir path = true → s.tree.isDir path = true ∨
    (within path (s.resolve request.config.outDir) = true ∧ ∃ a s₁ s₂, Mixes tools request s a s₁ s₂)

/-- What a render with a result leaves: in the place of the output the text that the mixer has
written to the staged file, all other files as they were, and nothing of what was made on the way. -/
structure Done (tools : Tools) (request : RenderRequest) (s : Studio) (places : Places)
    (text : String) (s' : Studio) : Prop where
  mixed : Mixed tools request s text
  output : s'.tree.read? places.output = some text
  others : ∀ path, path ≠ places.output → s'.tree.read? path = s.tree.read? path
  workDir : ∀ path, within places.workDir path = true →
    s'.tree.read? path = none ∧ s'.tree.isDir path = false
  unfinished : s'.tree.read? places.unfinished = none

/-- A render that ends like this has done all or nothing. -/
structure Atomic (tools : Tools) (request : RenderRequest) (s : Studio)
    (ending : EStateM.Result Thrown Studio Result) : Prop where
  all : ∀ result s', ending = .ok result s' → ∃ places text, places? request s = some places ∧
    s.resolve result.outputPath = places.output ∧ Done tools request s places text s'
  nothing : ∀ e s', ending = .error e s' → Undone tools request s s'

variable {tools : Tools} {request : RenderRequest} {s s' : Studio}

/-! ## All or nothing -/

theorem isDir_workDir {events : List Event} {workDir path : String}
    (hprepared : prepared? request s = some (events, workDir))
    (h : s'.tree.Vacant (s.resolve workDir)) (hpath : within (s.resolve workDir) path = true) :
    s'.tree.isDir path = false := by
  obtain ⟨k, n, hwork⟩ := resolve_of_prepared hprepared
  refine FileTree.isDir_of_vacant h ?_ hpath
  rw [hwork]
  exact workNames_ne_root k n

/-- Nothing is taken along with the unfinished file. -/
theorem Places.Fresh.read?_of_unlinks {places : Places} (h : places.Fresh s) {path : String}
    (hpath : s.unlinks places.unfinished path = true) : s.tree.read? path = none := by
  rcases Bool.or_eq_true_iff.1 hpath with heq | hbelow
  · rw [eq_of_beq heq, h.unfinished]
  · obtain ⟨hdisk, hbelow⟩ := Bool.and_eq_true_iff.1 hbelow
    exact h.below (by simpa using hdisk) path hbelow

section Fresh

variable {events : List Event} {workDir : String}
  (hprepared : prepared? request s = some (events, workDir))
  (hfresh : (placesOf request s events workDir).Fresh s)
  (hallowed : ∀ path, s.refusals.message? (.remove path) = none)

include hprepared hfresh hallowed

theorem undone_of_failed (h : Failed tools request s (placesOf request s events workDir) s') :
    Undone tools request s s' := by
  have hvacant := FileTree.vacant_of_absent hfresh.noDir hfresh.noFile
  have hvacant' := h.vacant hallowed
  have hfiles : ∀ path, s'.tree.read? path = s.tree.read? path := by
    intro path
    by_cases hwork : within (placesOf request s events workDir).workDir path = true
    · rw [(hvacant path hwork).1, (hvacant' path hwork).1]
    have hwork := Bool.eq_false_iff.mpr hwork
    cases hunfinished : s.unlinks (placesOf request s events workDir).unfinished path with
    | false => exact h.files path hwork hunfinished
    | true =>
        have hnone := hfresh.read?_of_unlinks hunfinished
        rw [hnone, h.removed hallowed path hwork hnone]
  constructor
  case files => exact hfiles
  case workDir =>
    intro places hplaces path hpath
    rw [places?_of_prepared hprepared] at hplaces
    cases hplaces
    exact isDir_workDir hprepared hvacant' hpath
  case dirs =>
    have hdirs : ∀ d ∈ s'.tree.dirs, d ∈ s.tree.dirs ∨
        (d = s.resolve request.config.outDir ∧ ∃ a s₁ s₂, Mixes tools request s a s₁ s₂) := by
      intro d hd
      rcases h.dirs d hd with hold | hwork | hmade
      · exact .inl hold
      · exact absurd hd (hvacant' d hwork).2
      · exact .inr hmade
    intro path hpath
    rcases FileTree.isDir_of_new (fun other hnone => (hfiles other).trans hnone)
      (fun d hd => (hdirs d hd).imp_right And.left) hpath with hold | ⟨hwithin, hmade⟩
    · exact .inl hold
    · rcases hdirs _ hmade with hold | ⟨-, hmixes⟩
      · exact .inl (FileTree.isDir_iff.2 (.inr (.inr ⟨_, hold, hwithin⟩)))
      · exact .inr ⟨hwithin, hmixes⟩

theorem done_of_finished {text : String}
    (h : Finished tools request s (placesOf request s events workDir) text s') :
    Done tools request s (placesOf request s events workDir) text s' := by
  have hvacant := FileTree.vacant_of_absent hfresh.noDir hfresh.noFile
  have hvacant' := h.vacant hallowed
  have houtput : within (s.resolve workDir) (s.resolve (outputOf request events)) = false :=
    output_outside_workDir _ hprepared hfresh.apart
  constructor
  case mixed => exact h.mixed_of_vacant hvacant hprepared
  case output => exact (h.files _ houtput).trans (if_pos rfl)
  case others =>
    intro path hpath
    by_cases hwork : within (placesOf request s events workDir).workDir path = true
    · rw [(hvacant path hwork).1, (hvacant' path hwork).1]
    rw [h.files path (Bool.eq_false_iff.mpr hwork), if_neg hpath]
    split
    · rename_i hunfinished
      rw [hunfinished, hfresh.unfinished]
    · rfl
  case workDir =>
    intro path hpath
    exact ⟨(hvacant' path hpath).1, isDir_workDir hprepared hvacant' hpath⟩
  case unfinished =>
    by_cases hwork : within (placesOf request s events workDir).workDir
        (placesOf request s events workDir).unfinished = true
    · exact (hvacant' _ hwork).1
    · have hne : (placesOf request s events workDir).unfinished ≠
          (placesOf request s events workDir).output := unfinished_ne_output request s events _ _
      rw [h.files _ (Bool.eq_false_iff.mpr hwork), if_neg hne, if_pos rfl]

end Fresh

/-- With tidy tools and no removal refused, every render is all or nothing. -/
theorem atomic_render (htools : tools.Tidy)
    (hallowed : ∀ path, s.refusals.message? (.remove path) = none)
    (hfresh : ∀ places, places? request s = some places → places.Fresh s) :
    Atomic tools request s (render tools request s) := by
  constructor
  case all =>
    intro result s' h
    obtain ⟨events, workDir, text, hprepared, hpath, hfinished⟩ := finished_of_render htools h
    have hplaces := places?_of_prepared hprepared
    have hdone := done_of_finished hprepared (hfresh _ hplaces) hallowed hfinished
    exact ⟨_, text, hplaces, congrArg s.resolve hpath, hdone⟩
  case nothing =>
    intro e s' h
    rcases failed_of_render htools h with ⟨hnone, hbecomes⟩ | ⟨events, workDir, hprepared, hfailed⟩
    · refine ⟨fun path => by rw [hbecomes.tree], fun places hplaces => ?_, fun path hpath => ?_⟩
      · rw [places?, hnone] at hplaces
        cases hplaces
      · rw [hbecomes.tree] at hpath
        exact .inl hpath
    · have hplaces := places?_of_prepared hprepared
      exact undone_of_failed hprepared (hfresh _ hplaces) hallowed hfailed

/-- A disk with an older mix of this title in the output directory. -/
def shelf (refused : List (FileOperation × String)) : Studio :=
  { Studio.fresh (.ofLists [("/out/Night.mp3", "An older mix")] ["/tmp"]) "/" ⟨[]⟩ [] with
    refusals := .ofDisk refused }

def lullaby : RenderRequest :=
  ⟨"@title: Night\nRuby: Hello", .soloist "Ruby" "/ruby.wav", true⟩

def nightPlaces : Places :=
  ⟨"/tmp/story-mixer-00000001-tmp1", "/out", "/out/Night.mp3", "/out/Night.mp3.00000001.partial"⟩

theorem fresh_nightPlaces (refused : List (FileOperation × String)) :
    nightPlaces.Fresh (shelf refused) where
  noDir := rfl
  noFile := rfl
  apart := rfl
  unfinished := rfl
  below := nofun

/-- Once the older mix is replaced; once the renaming is refused, and it stays. -/
theorem atomic_render_shelf :
    ((render Rehearsal.plain.tools lullaby).succeeds (shelf []) = true ∧
      Atomic Rehearsal.plain.tools lullaby (shelf []) (render Rehearsal.plain.tools lullaby (shelf []))) ∧
    ((render Rehearsal.plain.tools lullaby).succeeds (shelf [(.rename, "EXDEV")]) = false ∧
      Atomic Rehearsal.plain.tools lullaby (shelf [(.rename, "EXDEV")])
        (render Rehearsal.plain.tools lullaby (shelf [(.rename, "EXDEV")]))) := by
  have hplaces : places? lullaby (shelf []) = some nightPlaces := by decide +kernel
  have hplaces' : places? lullaby (shelf [(.rename, "EXDEV")]) = some nightPlaces := by decide +kernel
  refine ⟨⟨by decide +kernel, ?_⟩, by decide +kernel, ?_⟩
  · refine atomic_render Rehearsal.plain.tidy_tools (fun _ => rfl) fun places h => ?_
    rw [← Option.some.inj (hplaces.symm.trans h)]
    exact fresh_nightPlaces _
  · refine atomic_render Rehearsal.plain.tidy_tools (fun _ => rfl) fun places h => ?_
    rw [← Option.some.inj (hplaces'.symm.trans h)]
    exact fresh_nightPlaces _

/-- The lullaby, to be put where there is no directory yet, nor one above it. -/
def distant : RenderRequest :=
  { lullaby with config := { lullaby.config with outDir := "/mixes/tonight" } }

/-- The disk has no room for a copy. -/
def fullShelf : Studio :=
  shelf [(.copy, "ENOSPC")]

/-- A render that fails in the copy leaves more behind than its output directory: the directory above it,
which was not there before. -/
theorem leaves_above :
    Rehearsal.plain.tools.Tidy ∧ (∀ path, fullShelf.refusals.message? (.remove path) = none) ∧
    (∀ places, places? distant fullShelf = some places → places.Fresh fullShelf) ∧
    ∃ e s', render Rehearsal.plain.tools distant fullShelf = .error e s' ∧
      s'.tree.isDir "/mixes" = true ∧ fullShelf.tree.isDir "/mixes" = false ∧
      fullShelf.resolve distant.config.outDir ≠ "/mixes" := by
  have hplaces : places? distant fullShelf = some
      ⟨"/tmp/story-mixer-00000001-tmp1", "/mixes/tonight", "/mixes/tonight/Night.mp3",
        "/mixes/tonight/Night.mp3.00000001.partial"⟩ := by decide +kernel
  have hmade : (match render Rehearsal.plain.tools distant fullShelf with
      | .ok _ _ => false
      | .error _ s' => s'.tree.isDir "/mixes") = true := by decide +kernel
  refine ⟨Rehearsal.plain.tidy_tools, fun _ => rfl, fun places h => ?_, ?_⟩
  · rw [← Option.some.inj (hplaces.symm.trans h)]
    exact ⟨rfl, rfl, rfl, rfl, nofun⟩
  · cases h : render Rehearsal.plain.tools distant fullShelf with
    | ok result s' =>
        rw [h] at hmade
        cases hmade
    | error e s' =>
        rw [h] at hmade
        exact ⟨e, s', rfl, hmade, by decide +kernel, by decide +kernel⟩

end Render

end StoryMix
