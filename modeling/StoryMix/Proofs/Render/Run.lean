import StoryMix.Proofs.Timeline.Track
import StoryMix.Render.Basic

/-!
# Runs of renders

A render that gives a result has run the steps of its recording in a new directory, has mixed once
and has published what was mixed. `render_eq_ok_iff` says this in both directions, so that a render
does nothing but these steps, and the removal of the working directory after them.
-/

namespace StoryMix

namespace Render

/-- What the tools and the file system gave for a render. -/
structure Session where
  recording : Timeline.Recording
  workDir : String
  /-- What the mixer answered. -/
  mixed : String
  graph : Mix.Graph

namespace Session

/-- Where the mixer is told to leave its result. -/
def staged (a : Session) : String :=
  Path.join [a.workDir, a.graph.output.fileName]

def outputPath (a : Session) (request : RenderRequest) : String :=
  Path.join [request.config.outDir, a.graph.output.fileName]

def result (a : Session) (request : RenderRequest) (id : String) : Result :=
  ⟨id, a.outputPath request, a.recording.timeline⟩

def opening (a : Session) (request : RenderRequest) (id : String) : List Step :=
  [.begin,
   .log ⟨.info, tag id ++ "Starting",
    [.record [("chars", .ofNat (Text.unitLength request.script)),
      ("outDir", .text request.config.outDir)]]⟩,
   .log ⟨.info, tag id ++ "Parsed " ++ Numeral.natText a.recording.events.length ++ " events", []⟩,
   .makeTempDir (workDirStart id) a.workDir]

def publishing (outDir fileName staged id : String) : List Step :=
  let path := Path.join [outDir, fileName]
  [.makeDir outDir, .copy staged (unfinishedPath path id), .rename (unfinishedPath path id) path]

def closing (a : Session) (request : RenderRequest) (id : String) : List Step :=
  .use (.mix a.graph a.staged a.mixed) ::
    (publishing request.config.outDir a.graph.output.fileName a.staged id ++
      [.log ⟨.info, tag id ++ "Completed",
        [.record [("outputPath", .text (a.outputPath request)),
          ("duration", .text (Numeral.fixed 2 a.recording.timeline.duration ++ "s"))]]⟩])

def steps (a : Session) (request : RenderRequest) (id : String) : List Step :=
  a.opening request id ++ (a.recording.steps request.config.assetsDir ++ a.closing request id)

/-- The recording is of the script, and the graph is that of the recording. -/
structure Fits (a : Session) (request : RenderRequest) : Prop where
  parsed : Script.parse request.strict request.script = .ok a.recording.events
  recorded : a.recording.Fits request.config a.workDir
  compiled : Mix.compile a.recording.timeline request.config = .ok a.graph

end Session

open StoryMix.Action

variable {tools : Tools} {request : RenderRequest} {id : String} {s s' : Studio}

theorem begin_eq_ok :
    begin s = .ok id s' ↔ id = idOf (s.renders + 1) ∧ Step.begin.Runs tools s s' := by
  simp [begin, Step.Runs, eq_comm]

theorem publish_eq_ok {staged outDir fileName path : String} :
    publish staged outDir fileName id s = .ok path s' ↔
      path = Path.join [outDir, fileName]
        ∧ Runs tools (Session.publishing outDir fileName staged id) s s' := by
  simp only [publish, bind_eq_ok, onFailure_eq_ok, pure_eq_ok]
  constructor
  · rintro ⟨_, s₁, hdir, _, s₃, ⟨_, s₂, hcopy, hrename⟩, rfl, rfl⟩
    exact ⟨rfl, s₁, hdir, s₂, hcopy, s₃, hrename, rfl⟩
  · rintro ⟨rfl, s₁, hdir, s₂, hcopy, s₃, hrename, rfl⟩
    exact ⟨(), s₁, hdir, (), s₃, ⟨(), s₂, hcopy, hrename⟩, rfl, rfl⟩

theorem ofExcept_mapError_eq_ok {ε α : Type} {f : ε → Failure} {x : Except ε α} {a : α} :
    ofExcept (x.mapError f) s = .ok a s' ↔ x = .ok a ∧ s = s' := by
  rw [ofExcept_eq_ok]
  cases x with
  | ok b =>
      constructor
      · rintro ⟨⟨⟩, rfl⟩
        exact ⟨rfl, rfl⟩
      · rintro ⟨⟨⟩, rfl⟩
        exact ⟨rfl, rfl⟩
  | error e => exact iff_of_false (fun h => nomatch h.1) fun h => nomatch h.1

theorem prepare_eq_ok {events : List Event} {workDir : String} :
    prepare id request s = .ok (events, workDir) s' ↔
      Script.parse request.strict request.script = .ok events
        ∧ Runs tools
            [.log ⟨.info, tag id ++ "Parsed " ++ Numeral.natText events.length ++ " events", []⟩,
             .makeTempDir (workDirStart id) workDir] s s' := by
  simp only [prepare, bind_eq_ok, ofExcept_mapError_eq_ok, say_eq_ok, pure_eq_ok, Prod.mk.injEq]
  constructor
  · rintro ⟨_, _, ⟨hparse, rfl⟩, _, s₁, hlog, _, s₂, hdir, ⟨rfl, rfl⟩, rfl⟩
    exact ⟨hparse, s₁, hlog, s₂, hdir, rfl⟩
  · rintro ⟨hparse, s₁, hlog, s₂, hdir, rfl⟩
    exact ⟨events, s, ⟨hparse, rfl⟩, (), s₁, hlog, workDir, s₂, hdir, ⟨rfl, rfl⟩, rfl⟩

theorem produce_eq_ok {events : List Event} {workDir : String} {result : Result} :
    produce tools id request.config events workDir s = .ok result s' ↔
      ∃ a : Session, a.workDir = workDir ∧ a.recording.events = events
        ∧ a.recording.Fits request.config workDir
        ∧ Mix.compile a.recording.timeline request.config = .ok a.graph
        ∧ Runs tools (a.recording.steps request.config.assetsDir ++ a.closing request id) s s'
        ∧ result = a.result request id := by
  simp only [produce, bind_eq_ok, Timeline.build_eq_ok_iff, ofExcept_eq_ok,
    @publish_eq_ok tools, inform, say_eq_ok, pure_eq_ok, runs_append]
  constructor
  · rintro ⟨t, s₁, ⟨r, rfl, hfits, hruns, rfl⟩, graph, s₂, ⟨hgraph, rfl⟩, mixed, s₃, hmix, path, s₄,
      ⟨rfl, hpublish⟩, _, s₅, hlog, rfl, rfl⟩
    exact ⟨⟨r, workDir, mixed, graph⟩, rfl, rfl, hfits, hgraph,
      ⟨s₁, hruns, s₃, hmix, runs_append.2 ⟨s₄, hpublish, runs_singleton.2 hlog⟩⟩, rfl⟩
  · rintro ⟨⟨r, workDir, mixed, graph⟩, rfl, rfl, hfits, hgraph, ⟨s₁, hruns, s₃, hmix, hrest⟩, rfl⟩
    obtain ⟨s₄, hpublish, hlog⟩ := runs_append.1 hrest
    exact ⟨_, s₁, ⟨r, rfl, hfits, hruns, rfl⟩, graph, s₁, ⟨hgraph, rfl⟩, mixed, s₃, hmix, _, s₄,
      ⟨rfl, hpublish⟩, (), s', runs_singleton.1 hlog, rfl, rfl⟩

/-- A render gives a result just when there is a session of its script whose steps can be run and
after which the working directory is removed, and then it is the result of the session. -/
theorem render_eq_ok_iff {result : Result} :
    render tools request s = .ok result s' ↔
      ∃ (a : Session) (s₁ : Studio), a.Fits request
        ∧ Runs tools (a.steps request (idOf (s.renders + 1))) s s₁
        ∧ removeWorkDir (idOf (s.renders + 1)) a.workDir s₁ = .ok () s'
        ∧ result = a.result request (idOf (s.renders + 1)) := by
  simp only [render, reporting, inform, bind_eq_ok, @begin_eq_ok tools, say_eq_ok, always_eq_ok,
    onFailure_eq_ok, Prod.exists, @prepare_eq_ok tools, produce_eq_ok]
  constructor
  · rintro ⟨_, s₁, ⟨rfl, hbegin⟩, _, s₂, hstart, events, workDir, s₃, ⟨hparse, hprepare⟩, s₄,
      ⟨a, rfl, rfl, hfits, hgraph, hruns, rfl⟩, hremove⟩
    refine ⟨a, s₄, ⟨hparse, hfits, hgraph⟩, ?_, hremove, rfl⟩
    exact ⟨s₁, hbegin, s₂, hstart, runs_append.2 ⟨s₃, hprepare, hruns⟩⟩
  · rintro ⟨a, s₄, ⟨hparse, hfits, hgraph⟩, ⟨s₁, hbegin, s₂, hstart, hrest⟩, hremove, rfl⟩
    obtain ⟨s₃, hprepare, hruns⟩ := runs_append.1 hrest
    exact ⟨_, s₁, ⟨rfl, hbegin⟩, (), s₂, hstart, a.recording.events, a.workDir, s₃,
      ⟨hparse, hprepare⟩, s₄, ⟨a, rfl, rfl, hfits, hgraph, hruns, rfl⟩, hremove⟩

end Render

end StoryMix
