import StoryMix.Proofs.Render.Account
import StoryMix.Proofs.Render.Places

/-!
# The effect of a render

What has changed among the files when a render ends, in either way. Outside of the working directory
a failed render changes nothing but the unfinished file (`Failed`), and one with a result nothing but
the output, where the text stands that the mixer has left in the working directory (`Finished`).
-/

namespace StoryMix

namespace Render

open StoryMix.Action
open FileTree (within)
open StoryMix.Path (resolvedNames along)

/-- The render that begins in `s` has made its recording in `s₁`, and the mixer has mixed it from there
to `s₂`. -/
structure Mixes (tools : Tools) (request : RenderRequest) (s : Studio) (a : Session)
    (s₁ s₂ : Studio) : Prop where
  fits : a.Fits request
  recorded : Runs tools
    (a.opening request (idOf (s.renders + 1)) ++ a.recording.steps request.config.assetsDir) s s₁
  mixed : tools.mix a.graph a.staged s₁ = .ok a.mixed s₂

/-- The mixer has written this text to the staged file, where there was no file before. -/
def Mixed (tools : Tools) (request : RenderRequest) (s : Studio) (text : String) : Prop :=
  ∃ a s₁ s₂, Mixes tools request s a s₁ s₂ ∧
    s₁.tree.read? (s₁.resolve a.staged) = none ∧ s₂.tree.read? (s₂.resolve a.staged) = some text

variable {tools : Tools} {request : RenderRequest} {id : String} {s s' : Studio} {e : Thrown}

/-! ## What is prepared -/

/-- A render has been begun in `s` and nothing been done but to note this. -/
structure Begun (s s₀ : Studio) : Prop where
  tree : s₀.tree = s.tree
  cwd : s₀.cwd = s.cwd
  refusals : s₀.refusals = s.refusals
  tempDirs : s₀.tempDirs = s.tempDirs

theorem Begun.refusal? {s₀ : Studio} (h : Begun s s₀) (call : Call) :
    s₀.refusal? call = s.refusal? call :=
  Studio.refusal?_of_becomes ⟨h.tree, h.cwd, h.refusals⟩ call

theorem prepared?_of_ok {s₀ : Studio} {events : List Event} {workDir : String}
    (h : prepare (idOf (s.renders + 1)) request s₀ = .ok (events, workDir) s')
    (hbegun : Begun s s₀) : prepared? request s = some (events, workDir) := by
  obtain ⟨hparse, hallowed, hpath, -⟩ := prepare_eq_ok_files h
  unfold prepared?
  cases hs : prepare (idOf (s.renders + 1)) request s with
  | ok prepared s₁ =>
      obtain ⟨hparse', -, hpath', -⟩ := prepare_eq_ok_files hs
      rw [hparse] at hparse'
      rw [hbegun.tempDirs, ← hpath'] at hpath
      cases hparse'
      rw [hpath]
  | error e s₁ =>
      rw [hbegun.refusal?] at hallowed
      exact absurd ⟨⟨events, hparse⟩, hallowed⟩ (prepare_eq_error hs).2

theorem prepared?_of_error {s₀ : Studio}
    (h : prepare (idOf (s.renders + 1)) request s₀ = .error e s') (hbegun : Begun s s₀) :
    prepared? request s = none := by
  unfold prepared?
  cases hs : prepare (idOf (s.renders + 1)) request s with
  | ok prepared s₁ =>
      obtain ⟨hparse, hallowed, -, -⟩ := prepare_eq_ok_files hs
      rw [← hbegun.refusal?] at hallowed
      exact absurd ⟨⟨_, hparse⟩, hallowed⟩ (prepare_eq_error h).2
  | error e s₁ => rfl

theorem within_of_sound {dir : List Path.Name} (hdir : ∀ name ∈ dir, Path.Plain name) {path : String}
    (h : Timeline.Sound dir path) : within (along dir) path = true := by
  obtain ⟨name, hname, -, rfl⟩ := h
  have hpath : ∀ n ∈ dir ++ [name], Path.Plain n :=
    List.forall_mem_append.mpr ⟨hdir, List.forall_mem_singleton.mpr hname⟩
  rw [Path.within_along hdir hpath]
  exact List.prefix_append _ _

/-- A mix is not a sound of the recording, since their names end differently. -/
theorem not_sound_of_suffix {dir : List Path.Name} (hdir : ∀ name ∈ dir, Path.Plain name)
    {name : Path.Name} (hname : Path.Plain name) (hsuffix : ".mp3".toList <:+ name) :
    ¬ Timeline.Sound dir (along (dir ++ [name])) := by
  rintro ⟨other, hother, hwav, heq⟩
  have hnames := Path.along_inj
    (List.forall_mem_append.mpr ⟨hdir, List.forall_mem_singleton.mpr hname⟩)
    (List.forall_mem_append.mpr ⟨hdir, List.forall_mem_singleton.mpr hother⟩) heq
  exact ne_of_endings hsuffix hwav (by decide) (by decide)
    (List.singleton_inj.mp (List.append_cancel_left hnames))

/-- From `s` to `s₁` nothing has changed outside of a directory, which may have been made. -/
structure Enclosed (s : Studio) (workDir : String) (s₁ : Studio) : Prop where
  cwd : s₁.cwd = s.cwd
  refusals : s₁.refusals = s.refusals
  files : ∀ path, within (s.resolve workDir) path = false →
    s₁.tree.read? path = s.tree.read? path
  dirs : ∀ d, within (s.resolve workDir) d = false → (d ∈ s₁.tree.dirs ↔ d ∈ s.tree.dirs)

theorem Enclosed.of_addDir {workDir : String}
    (h : Becomes s (s.tree.addDir (s.resolve workDir)) s') : Enclosed s workDir s' where
  cwd := h.cwd
  refusals := h.refusals
  files path _ := by rw [h.tree, FileTree.read?_addDir]
  dirs d hd := by
    have hne : d ≠ s.resolve workDir := by
      rintro rfl
      rw [FileTree.within_self] at hd
      cases hd
    rw [h.tree, FileTree.mem_dirs_addDir, or_iff_right hne]

theorem Enclosed.confined {workDir : String} {s₁ s₂ : Studio} {W : String → Prop}
    (h : Enclosed s workDir s₁) (hW : ∀ path, W path → within (s.resolve workDir) path = true)
    (hconfined : Confined W s₁ s₂) : Enclosed s workDir s₂ where
  cwd := hconfined.cwd.trans h.cwd
  refusals := hconfined.refusals.trans h.refusals
  files path hpath := by
    rw [hconfined.files path fun hw => ?_, h.files path hpath]
    rw [hW path hw] at hpath
    cases hpath
  dirs d hd := by
    rw [hconfined.dirs]
    exact h.dirs d hd

/-! ## Recording and mixing -/

section Produce

variable {config : ProducerConfig} {workDir : String} {dir : List Path.Name}
  (hdir : ∀ cwd, resolvedNames cwd workDir = dir)

include hdir

theorem resolve_of_names (s : Studio) : s.resolve workDir = along dir := by
  rw [Studio.resolve, Path.resolve_eq, hdir]

theorem within_staged {timeline : Timeline} {graph : Mix.Graph}
    (hgraph : Mix.compile timeline config = .ok graph) (s : Studio) :
    within (along dir) (s.resolve (Path.join [workDir, graph.output.fileName])) = true := by
  obtain ⟨-, -, hname⟩ := Mix.compile_eq_ok hgraph
  rw [← resolve_of_names hdir s, hname]
  exact within_join (Mix.plain_outputFileName _) _ _

theorem not_sound_staged (hplain : ∀ name ∈ dir, Path.Plain name) {timeline : Timeline}
    {graph : Mix.Graph} (hgraph : Mix.compile timeline config = .ok graph) (s : Studio) :
    ¬ Timeline.Sound dir (s.resolve (Path.join [workDir, graph.output.fileName])) := by
  obtain ⟨-, -, hname⟩ := Mix.compile_eq_ok hgraph
  rw [Studio.resolve, Path.resolve_eq, hname,
    Path.resolvedNames_join _ _ (Mix.plain_outputFileName _), hdir]
  exact not_sound_of_suffix hplain (Mix.plain_outputFileName _) (Mix.suffix_outputFileName _)

variable (htools : tools.Tidy)

include htools

theorem confined_of_recorded {r : Timeline.Recording} {s₁ : Studio} (hfits : r.Fits config workDir)
    (hruns : Runs tools (r.steps config.assetsDir) s s₁) :
    Confined (Timeline.Sound dir) s s₁ := by
  have hbuild := Timeline.build_eq_ok_iff.2 ⟨r, rfl, hfits, hruns, rfl⟩
  rw [← after_of_ok hbuild]
  exact Timeline.confines_build htools hdir r.events s

/-- A production fails before anything is mixed or in the publication of a mix. -/
theorem produce_eq_error (hplain : ∀ name ∈ dir, Path.Plain name) {events : List Event}
    (h : produce tools id config events workDir s = .error e s') :
    Confined (fun path => within (along dir) path = true) s s' ∨
      ∃ (a : Session) (s₁ s₂ : Studio), a.workDir = workDir ∧ a.recording.events = events ∧
        a.recording.Fits config workDir ∧
        Mix.compile a.recording.timeline config = .ok a.graph ∧
        Runs tools (a.recording.steps config.assetsDir) s s₁ ∧
        tools.mix a.graph a.staged s₁ = .ok a.mixed s₂ ∧
        Withdrawn s₂ config.outDir
          (unfinishedPath (Path.join [config.outDir, a.graph.output.fileName]) id) s' := by
  have hsounds : ∀ path, Timeline.Sound dir path → within (along dir) path = true :=
    fun _ => within_of_sound hplain
  have hbuilt := (@Timeline.confines_build tools config workDir dir htools hdir events s).mono hsounds
  rcases bind_eq_error h with hbuild | ⟨timeline, s₁, hbuild, h⟩
  · rw [after_of_error hbuild] at hbuilt
    exact .inl hbuilt
  rw [after_of_ok hbuild] at hbuilt
  rcases bind_eq_error h with hcompile | ⟨graph, _, hcompile, h⟩
  · rw [ofExcept_eq_error hcompile]
    exact .inl hbuilt
  obtain ⟨hgraph, rfl⟩ := ofExcept_eq_ok.1 hcompile
  rcases bind_eq_error h with hmix | ⟨mixed, s₂, hmix, h⟩
  · have hmixed := htools.mix graph (Path.join [workDir, graph.output.fileName]) s₁
    rw [after_of_error hmix] at hmixed
    refine .inl (hbuilt.trans (hmixed.mono ?_))
    rintro _ rfl
    exact within_staged hdir hgraph s₁
  rcases bind_eq_error h with hpublish | ⟨path, s₃, -, h⟩
  · obtain ⟨r, rfl, hfits, hruns, rfl⟩ := Timeline.build_eq_ok_iff.1 hbuild
    exact .inr ⟨⟨r, workDir, mixed, graph⟩, s₁, s₂, rfl, rfl, hfits, hgraph, hruns, hmix,
      withdrawn_of_publish hpublish⟩
  · rcases bind_eq_error h with h | ⟨_, _, -, h⟩ <;> cases h

end Produce

/-- Neither a recording nor a mix leaves the working directory. -/
theorem Enclosed.mixed {workDir : String} {dir : List Path.Name} {s₁ s₂ s₃ : Studio}
    (h : Enclosed s workDir s₁) (hdir : ∀ cwd, resolvedNames cwd workDir = dir)
    (hplain : ∀ name ∈ dir, Path.Plain name) (hsounds : Confined (Timeline.Sound dir) s₁ s₂)
    {timeline : Timeline} {config : ProducerConfig} {graph : Mix.Graph}
    (hgraph : Mix.compile timeline config = .ok graph)
    (hmix : Confined (· = s₂.resolve (Path.join [workDir, graph.output.fileName])) s₂ s₃) :
    Enclosed s workDir s₃ := by
  have hwork := resolve_of_names hdir s
  refine (h.confined (fun path hsound => ?_) hsounds).confined ?_ hmix
  · rw [hwork]
    exact within_of_sound hplain hsound
  · rintro _ rfl
    rw [hwork]
    exact within_staged hdir hgraph s₂

/-! ## The whole render -/

theorem enclosed_of_prepare {s₀ : Studio} {events : List Event} {workDir : String}
    (h : prepare (idOf (s.renders + 1)) request s₀ = .ok (events, workDir) s')
    (hbegun : Begun s s₀) :
    Enclosed s workDir s' ∧ (∀ path, s'.tree.read? path = s.tree.read? path) ∧
      workDir = workDirStart (idOf (s.renders + 1)) ++ "tmp" ++ Numeral.natText (s.tempDirs + 1) := by
  obtain ⟨-, -, hpath, hbecomes⟩ := prepare_eq_ok_files h
  have hresolve := Studio.resolve_of_cwd hbegun.cwd workDir
  rw [hbegun.tree, hresolve] at hbecomes
  rw [hbegun.tempDirs] at hpath
  refine ⟨.of_addDir ⟨hbecomes.tree, hbecomes.cwd.trans hbegun.cwd,
    hbecomes.refusals.trans hbegun.refusals⟩, fun path => ?_, hpath⟩
  rw [hbecomes.tree, FileTree.read?_addDir]

section Mixes

variable {a : Session} {s₁ s₂ : Studio}

theorem Mixes.exists_prepare (h : Mixes tools request s a s₁ s₂) :
    ∃ s₀ s₀', Begun s s₀ ∧
      prepare (idOf (s.renders + 1)) request s₀ = .ok (a.recording.events, a.workDir) s₀' ∧
      Runs tools (a.recording.steps request.config.assetsDir) s₀' s₁ := by
  obtain ⟨s₀, ⟨_, rfl, _, rfl, hopening⟩, hrecorded⟩ := runs_append.1 h.recorded
  have hprepare := prepare_eq_ok.2 ⟨h.fits.parsed, hopening⟩
  refine ⟨_, s₀, ?_, hprepare, hrecorded⟩
  exact ⟨rfl, rfl, rfl, rfl⟩

theorem Mixes.prepared (h : Mixes tools request s a s₁ s₂) :
    prepared? request s = some (a.recording.events, a.workDir) := by
  obtain ⟨s₀, s₀', hbegun, hprepare, -⟩ := h.exists_prepare
  exact prepared?_of_ok hprepare hbegun

/-- Up to the mix only the working directory has changed, and the staged file not before the mix. -/
theorem Mixes.enclosed (h : Mixes tools request s a s₁ s₂) (htools : tools.Tidy) :
    Enclosed s a.workDir s₂ ∧
      s₁.tree.read? (s₁.resolve a.staged) = s.tree.read? (s.resolve a.staged) := by
  obtain ⟨s₀, s₀', hbegun, hprepare, hrecorded⟩ := h.exists_prepare
  obtain ⟨henclosed, hread, hpath⟩ := enclosed_of_prepare hprepare hbegun
  have hdir := resolvedNames_workDir (s.renders + 1) (s.tempDirs + 1)
  rw [← hpath] at hdir
  have hplain := plain_workNames (s.renders + 1) (s.tempDirs + 1)
  have hsounds := confined_of_recorded hdir htools h.fits.recorded hrecorded
  have hmix := htools.mix a.graph a.staged s₁
  rw [after_of_ok h.mixed] at hmix
  constructor
  · exact henclosed.mixed hdir hplain hsounds h.fits.compiled hmix
  · have hstaged : ¬ Timeline.Sound _ (s₁.resolve a.staged) :=
      not_sound_staged hdir hplain h.fits.compiled s₁
    rw [hsounds.files _ hstaged, hread, hsounds.resolve, Studio.resolve_of_cwd henclosed.cwd]

end Mixes

/-- What is left of a render that failed after its preparation. -/
structure Failed (tools : Tools) (request : RenderRequest) (s : Studio) (places : Places)
    (s' : Studio) : Prop where
  cwd : s'.cwd = s.cwd
  files : ∀ path, within places.workDir path = false → s.unlinks places.unfinished path = false →
    s'.tree.read? path = s.tree.read? path
  dirs : ∀ d ∈ s'.tree.dirs, d ∈ s.tree.dirs ∨ within places.workDir d = true ∨
    (d = places.outDir ∧ ∃ a s₁ s₂, Mixes tools request s a s₁ s₂)
  vacant : (∀ path, s.refusals.message? (.remove path) = none) → s'.tree.Vacant places.workDir
  removed : (∀ path, s.refusals.message? (.remove path) = none) → ∀ path,
    within places.workDir path = false → s.tree.read? path = none → s'.tree.read? path = none

/-- What a render with a result leaves. -/
structure Finished (tools : Tools) (request : RenderRequest) (s : Studio) (places : Places)
    (text : String) (s' : Studio) : Prop where
  cwd : s'.cwd = s.cwd
  mixed : ∃ a s₁ s₂, Mixes tools request s a s₁ s₂ ∧
    s₁.tree.read? (s₁.resolve a.staged) = s.tree.read? (s.resolve a.staged) ∧
    s₂.tree.read? (s₂.resolve a.staged) = some text
  files : ∀ path, within places.workDir path = false →
    s'.tree.read? path =
      if path = places.output then some text
      else if path = places.unfinished then none
      else s.tree.read? path
  vacant : (∀ path, s.refusals.message? (.remove path) = none) → s'.tree.Vacant places.workDir

theorem Finished.mixed_of_vacant {events : List Event} {workDir text : String}
    (h : Finished tools request s (placesOf request s events workDir) text s')
    (hvacant : s.tree.Vacant (s.resolve workDir))
    (hprepared : prepared? request s = some (events, workDir)) : Mixed tools request s text := by
  obtain ⟨a, s₁, s₂, hmixes, hbefore, hread⟩ := h.mixed
  refine ⟨a, s₁, s₂, hmixes, hbefore.trans (hvacant _ ?_).1, hread⟩
  have hsame := hmixes.prepared
  rw [hprepared] at hsame
  obtain ⟨-, -, hname⟩ := Mix.compile_eq_ok hmixes.fits.compiled
  rw [Session.staged, hname, ← (Prod.mk.inj (Option.some.inj hsame)).2]
  exact within_join (Mix.plain_outputFileName _) _ _

/-- A recording that is given up or withdrawn, and the cleaning after it. -/
theorem Failed.of_cleared {events : List Event} {workDir : String} {s₁ s₂ : Studio}
    (henclosed : Enclosed s workDir s₁)
    (hwithdrawn : Withdrawn s₁ request.config.outDir (unfinishedOf request s events) s₂)
    (hmade : ∀ d ∈ s₂.tree.dirs, d ∈ s₁.tree.dirs ∨
      (d = s.resolve request.config.outDir ∧ ∃ a s₁ s₂, Mixes tools request s a s₁ s₂))
    (hcleared : Cleared workDir s₂ s') :
    Failed tools request s (placesOf request s events workDir) s' := by
  have hwork := Studio.resolve_of_cwd (hwithdrawn.cwd.trans henclosed.cwd) workDir
  have hunfinished := Studio.resolve_of_cwd henclosed.cwd (unfinishedOf request s events)
  have hrefusals : s₂.refusals = s.refusals := hwithdrawn.refusals.trans henclosed.refusals
  have hcleared' : ∀ path, within (s.resolve workDir) path = false →
      s'.tree.read? path = s₂.tree.read? path := by
    intro path hpath
    rw [← hwork] at hpath
    exact hcleared.files hpath
  constructor
  case cwd => exact hcleared.cwd.trans (hwithdrawn.cwd.trans henclosed.cwd)
  case files =>
    intro path hpath hpath'
    rw [← Studio.unlinks_of_refusals henclosed.refusals] at hpath'
    have hwithdrawn' := hwithdrawn.files path (by rw [hunfinished]; exact hpath')
    exact (hcleared' path hpath).trans (hwithdrawn'.trans (henclosed.files path hpath))
  case dirs =>
    intro d hd
    rcases hmade d (hcleared.dirs hd) with hd | hd
    · cases hwork : within (s.resolve workDir) d with
      | true => exact .inr (.inl hwork)
      | false => exact .inl ((henclosed.dirs d hwork).1 hd)
    · exact .inr (.inr hd)
  case vacant =>
    intro hallowed
    have hvacant := hcleared.vacant (by rw [hrefusals]; exact hallowed workDir)
    rw [hwork] at hvacant
    exact hvacant
  case removed =>
    intro hallowed path hpath hnone
    have hbefore := (henclosed.files path hpath).trans hnone
    have hremoved := hwithdrawn.removed (by rw [henclosed.refusals]; exact hallowed _) path hbefore
    exact (hcleared' path hpath).trans hremoved

theorem Withdrawn.refl (s : Studio) (outDir unfinished : String) :
    Withdrawn s outDir unfinished s :=
  ⟨⟨rfl, rfl, fun _ _ => rfl, fun _ hd => .inl hd⟩, fun _ _ hnone => hnone⟩

/-- A production that fails and the cleaning after it. -/
theorem failed_of_produce (htools : tools.Tidy) {s₀ s₁ s₂ : Studio} {events : List Event}
    {workDir : String} (hbegun : Begun s s₀)
    (hruns : Runs tools [.begin, .log ⟨.info, tag (idOf (s.renders + 1)) ++ "Starting",
      [.record [("chars", .ofNat (Text.unitLength request.script)),
        ("outDir", .text request.config.outDir)]]⟩] s s₀)
    (hprepare : prepare (idOf (s.renders + 1)) request s₀ = .ok (events, workDir) s₁)
    (hproduce : produce tools (idOf (s.renders + 1)) request.config events workDir s₁ =
      .error e s₂) (hcleared : Cleared workDir s₂ s') :
    Failed tools request s (placesOf request s events workDir) s' := by
  obtain ⟨henclosed, -, hpath⟩ := enclosed_of_prepare hprepare hbegun
  have hdir := resolvedNames_workDir (s.renders + 1) (s.tempDirs + 1)
  rw [← hpath] at hdir
  have hplain := plain_workNames (s.renders + 1) (s.tempDirs + 1)
  rcases produce_eq_error hdir htools hplain hproduce with hconfined | hpublish
  · have hall := henclosed.confined (fun path h => by rw [resolve_of_names hdir]; exact h) hconfined
    exact .of_cleared hall (.refl _ _ _) (fun _ hd => .inl hd) hcleared
  · obtain ⟨a, s₃, s₄, rfl, rfl, hfits, hgraph, hrecorded, hmix, hwithdrawn⟩ := hpublish
    obtain ⟨hparse, -⟩ := prepare_eq_ok_files hprepare
    have hmixes : Mixes tools request s a s₃ s₄ := by
      refine ⟨⟨hparse, hfits, hgraph⟩, ?_, hmix⟩
      obtain ⟨-, hopening⟩ := (@prepare_eq_ok tools _ _ _ _ _ _).1 hprepare
      exact runs_append.2 ⟨s₁, runs_append.2 ⟨s₀, hruns, hopening⟩, hrecorded⟩
    obtain ⟨henclosed', -⟩ := hmixes.enclosed htools
    obtain ⟨-, -, hname⟩ := Mix.compile_eq_ok hgraph
    rw [hname] at hwithdrawn
    refine .of_cleared henclosed' hwithdrawn (fun d hd => ?_) hcleared
    rcases hwithdrawn.dirs d hd with hd | hd
    · exact .inl hd
    · refine .inr ⟨?_, a, s₃, s₄, hmixes⟩
      rw [hd, Studio.resolve_of_cwd henclosed'.cwd]

/-- A failure is logged on its way out, if it can be written out, and nothing else done. -/
theorem reporting_eq_error {α : Type} {act : Action α} (h : reporting id act s = .error e s') :
    ∃ e₁ s₁ log, act s = .error e₁ s₁ ∧ s' = { s₁ with log := log } := by
  obtain ⟨e₁, s₁, hact, hlog⟩ := onFailure_eq_error h
  refine ⟨e₁, s₁, s'.log, hact, ?_⟩
  cases hmessage : e₁.message? with
  | none =>
      rw [hmessage, writing_bind_of_none rfl] at hlog
      rcases hlog with hlog | hlog
      · cases hlog
      · cases hlog
        rfl
  | some message =>
      rw [hmessage, writing_bind_of_some rfl] at hlog
      rcases hlog with hlog | hlog
      · rw [say_eq_ok.1 hlog]
      · cases hlog

/-- A render that fails has changed nothing, or it has failed after its preparation. -/
theorem failed_of_render (htools : tools.Tidy) (h : render tools request s = .error e s') :
    (prepared? request s = none ∧ Becomes s s.tree s') ∨
      ∃ events workDir, prepared? request s = some (events, workDir) ∧
        Failed tools request s (placesOf request s events workDir) s' := by
  rcases bind_eq_error h with h | ⟨id, s₁, hbegin, h⟩
  · cases h
  obtain ⟨rfl, hs₁⟩ := (@begin_eq_ok tools _ _ _).1 hbegin
  rcases bind_eq_error h with h | ⟨_, s₂, hstart, h⟩
  · cases h
  have hs₂ := say_eq_ok.1 hstart
  have hbegun : Begun s s₂ := by
    rw [hs₂, hs₁]
    exact ⟨rfl, rfl, rfl, rfl⟩
  rcases bind_eq_error h with h | ⟨⟨events, workDir⟩, s₃, hprepare, h⟩
  · obtain ⟨e₁, s₃, log, hprepare, rfl⟩ := reporting_eq_error h
    obtain ⟨hbecomes, -⟩ := prepare_eq_error hprepare
    refine .inl ⟨prepared?_of_error hprepare hbegun, ?_⟩
    exact ⟨hbecomes.tree.trans hbegun.tree, hbecomes.cwd.trans hbegun.cwd,
      hbecomes.refusals.trans hbegun.refusals⟩
  have hprepare := onFailure_eq_ok.1 hprepare
  refine .inr ⟨events, workDir, prepared?_of_ok hprepare hbegun, ?_⟩
  rcases always_eq_error h with ⟨_, s₄, -, hremove⟩ | ⟨e₁, s₄, hreporting, hremove⟩
  · obtain ⟨s₅, hok, -⟩ := removeWorkDir_eq_ok (idOf (s.renders + 1)) workDir s₄
    rw [hok] at hremove
    cases hremove
  obtain ⟨e₂, s₅, log, hproduce, rfl⟩ := reporting_eq_error hreporting
  obtain ⟨s₆, hok, hcleared⟩ := removeWorkDir_eq_ok (idOf (s.renders + 1)) workDir _
  rw [hok] at hremove
  have hs' : s₆ = s' := by
    rcases hremove with hremove | hremove
    · cases hremove
      rfl
    · cases hremove
  subst hs'
  exact failed_of_produce htools hbegun ⟨s₁, hs₁, s₂, hs₂, rfl⟩ hprepare hproduce hcleared.of_log

theorem Finished.of_cleared {a : Session} {s₁ s₂ s₃ : Studio} {path text : String}
    (htools : tools.Tidy) (hmixes : Mixes tools request s a s₁ s₂)
    (hpath : path = outputOf request a.recording.events)
    (hread : s₂.tree.read? (s₂.resolve a.staged) = some text)
    (hpublish : Becomes s₂
      (((s₂.tree.addDir (s₂.resolve request.config.outDir)).write
        (s₂.resolve (unfinishedPath path (idOf (s.renders + 1)))) text).rename
          (s₂.resolve (unfinishedPath path (idOf (s.renders + 1)))) (s₂.resolve path)) s₃)
    (hcleared : Cleared a.workDir s₃ s') :
    Finished tools request s (placesOf request s a.recording.events a.workDir) text s' := by
  subst hpath
  obtain ⟨henclosed, hbefore⟩ := hmixes.enclosed htools
  have hresolve := Studio.resolve_of_cwd henclosed.cwd
  have hwork : s₃.resolve a.workDir = s.resolve a.workDir := by
    rw [hpublish.resolve, hresolve]
  constructor
  case cwd => exact hcleared.cwd.trans (hpublish.cwd.trans henclosed.cwd)
  case mixed => exact ⟨a, s₁, s₂, hmixes, hbefore, hread⟩
  case files =>
    intro path hpath
    rw [hcleared.files (by rw [hwork]; exact hpath), hpublish.tree, FileTree.read?_rename_write,
      FileTree.read?_addDir, henclosed.files path hpath, hresolve, hresolve]
    rfl
  case vacant =>
    intro hallowed
    have hvacant := hcleared.vacant (by rw [hpublish.refusals, henclosed.refusals]; exact hallowed _)
    rw [hwork] at hvacant
    exact hvacant

/-- A render that gives a result has put the mix in its place. -/
theorem finished_of_render (htools : tools.Tidy) {result : Result}
    (h : render tools request s = .ok result s') :
    ∃ events workDir text, prepared? request s = some (events, workDir) ∧
      result.outputPath = outputOf request events ∧
        Finished tools request s (placesOf request s events workDir) text s' := by
  obtain ⟨a, s₄, hfits, hruns, hremove, rfl⟩ := render_eq_ok_iff.1 h
  obtain ⟨s₀, hopening, hrest⟩ := runs_append.1 hruns
  obtain ⟨s₁, hrecorded, s₂, hmix, hclosing⟩ := runs_append.1 hrest
  obtain ⟨s₃, hpublishing, hlog⟩ := runs_append.1 hclosing
  have hmixes : Mixes tools request s a s₁ s₂ :=
    ⟨hfits, runs_append.2 ⟨s₀, hopening, hrecorded⟩, hmix⟩
  obtain ⟨-, text, hread, hpublish⟩ :=
    becomes_of_publish (publish_eq_ok.2 ⟨rfl, hpublishing⟩)
  obtain ⟨-, -, hname⟩ := Mix.compile_eq_ok hfits.compiled
  have hpath : Path.join [request.config.outDir, a.graph.output.fileName] =
      outputOf request a.recording.events := by
    rw [hname]
    rfl
  obtain ⟨s₅, hok, hcleared⟩ := removeWorkDir_eq_ok (idOf (s.renders + 1)) a.workDir s₄
  rw [hok] at hremove
  cases hremove
  rw [runs_singleton.1 hlog] at hcleared
  exact ⟨a.recording.events, a.workDir, text, hmixes.prepared, hpath,
    .of_cleared htools hmixes hpath hread hpublish hcleared.of_log⟩

end Render

end StoryMix
