import StoryMix.Proofs.Render.Files

/-!
# Which failure comes out of a render

A render takes eight steps that can fail, and it cleans up around the last two and around all of them.
`course` is these steps alone, one after the other and with nothing done once one has failed: what it
ends with is the first failure, marked with its step. A render is its course with the cleaning put in
where the course breaks off (`render_of_course_eq_error`), so what comes out of it is told by the
break. The removal of the working directory never matters. The removal of the unfinished file does:
if it fails, its own error takes the place of the one that led to it. So does the logging of what cannot
be written out.
-/

namespace StoryMix

namespace Render

open StoryMix.Action (inform outcome)

/-- The steps of a render that can fail, in their order. -/
inductive Stage where
  | script
  | workDir
  | timeline
  | graph
  | mix
  | outDir
  | copy
  | rename
  deriving DecidableEq, Repr

/-- Where a render breaks off: the step, what there is to clean up by then, and what was raised. -/
structure Break where
  stage : Stage
  workDir : Option String
  unfinished : Option String
  raised : Thrown

/-- The steps of a render up to the first that fails. -/
abbrev Course :=
  EStateM Break Studio

section

variable {α : Type}

/-- A step of a render. If it fails, the course breaks off. -/
def step (stage : Stage) (workDir unfinished : Option String) (act : Action α) : Course α := fun s =>
  match act s with
  | .ok a s => .ok a s
  | .error e s => .error ⟨stage, workDir, unfinished, e⟩ s

/-- An entry of the log between two steps. -/
def note (message : String) (arguments : List Value) : Course Unit :=
  modify fun s => { s with log := s.log.push ⟨.info, message, arguments⟩ }

end

def preparing (id : String) (request : RenderRequest) : Course (List Event × String) := do
  let events ← step .script none none
    (Action.ofExcept ((Script.parse request.strict request.script).mapError (·.failure)))
  note (tag id ++ "Parsed " ++ Numeral.natText events.length ++ " events") []
  let workDir ← step .workDir none none (Files.makeTempDir (workDirStart id))
  pure (events, workDir)

def publishing (staged outDir fileName id workDir : String) : Course String := do
  step .outDir workDir none (Files.makeDir outDir)
  let outputPath := Path.join [outDir, fileName]
  let unfinished := unfinishedPath outputPath id
  step .copy workDir unfinished (Files.copy staged unfinished)
  step .rename workDir unfinished (Files.rename unfinished outputPath)
  pure outputPath

def producing (tools : Tools) (id : String) (config : ProducerConfig) (events : List Event)
    (workDir : String) : Course Result := do
  let timeline ← step .timeline workDir none (Timeline.build tools config workDir events)
  let graph ← step .graph workDir none (Action.ofExcept (Mix.compile timeline config))
  let staged := Path.join [workDir, graph.output.fileName]
  let _ ← step .mix workDir none (tools.mix graph staged)
  let outputPath ← publishing staged config.outDir graph.output.fileName id workDir
  note (tag id ++ "Completed")
    [.record
      [("outputPath", .text outputPath),
       ("duration", .text (Numeral.fixed 2 timeline.duration ++ "s"))]]
  pure ⟨id, outputPath, timeline⟩

/-- The number of the render is used up, and its beginning logged. -/
def opening (request : RenderRequest) : Course String := do
  modify fun s => { s with renders := s.renders + 1 }
  let id := idOf (← get).renders
  note (tag id ++ "Starting")
    [.record
      [("chars", .ofNat (Text.unitLength request.script)), ("outDir", .text request.config.outDir)]]
  pure id

/-- The steps of a render one after the other, with no cleaning. -/
def course (tools : Tools) (request : RenderRequest) : Course Result := do
  let id ← opening request
  let (events, workDir) ← preparing id request
  producing tools id request.config events workDir

/-! ## Putting the cleaning back -/

namespace Break

variable (b : Break) (s : Studio)

/-- Takes away what may be unfinished and raises what led to that. -/
def withdraw {α : Type} : Action α :=
  match b.unfinished with
  | none => throw b.raised
  | some path => Action.onFailure (throw b.raised) fun _ => Files.removeFile path

/-- What is passed on when the unfinished file has been seen to. -/
def passed : Thrown :=
  match b.unfinished with
  | none => b.raised
  | some path => (s.unlinkRefusal? path).elim b.raised .error

/-- What comes out of a render that breaks off in this studio: what is passed on is told to the log
first. -/
def comesOut : Thrown :=
  (b.passed s).told

/-- The studio once the unfinished file is taken away, or its removal has failed. -/
def withdrawn : Studio :=
  match b.unfinished with
  | none => s
  | some path => (Files.removeFile path).after s

theorem withdraw_eq {α : Type} :
    (b.withdraw : Action α) s = .error (b.passed s) (b.withdrawn s) := by
  unfold withdraw passed withdrawn
  cases b.unfinished with
  | none => rfl
  | some path =>
      have hraised : (throw b.raised : Action α) s = .error b.raised s := rfl
      simp only [Action.onFailure, hraised, Action.after, Files.removeFile_eq]
      cases s.unlinkRefusal? path with
      | none => rfl
      | some error => rfl

end Break

/-- A course after which an unfinished file is taken away. -/
def withdrawing {α : Type} (x : Course α) : Action α := fun s =>
  match x s with
  | .ok a s => .ok a s
  | .error b s => b.withdraw s

section Withdrawing

variable {α β : Type} {stage : Stage} {workDir unfinished : Option String}

/-- The withdrawal is put in step by step, since it never goes on. -/
theorem withdrawing_bind (x : Course α) (f : α → Course β) :
    withdrawing (x >>= f) = withdrawing x >>= fun a => withdrawing (f a) := by
  funext s
  show withdrawing (EStateM.bind x f) s =
    EStateM.bind (withdrawing x) (fun a => withdrawing (f a)) s
  cases hx : x s with
  | ok a s₁ => simp only [withdrawing, EStateM.bind, hx]
  | error b s₁ =>
      simp only [withdrawing, EStateM.bind, hx, Break.withdraw_eq]

theorem withdrawing_step (act : Action α) : withdrawing (step stage workDir none act) = act := by
  funext s
  unfold withdrawing step
  cases act s with
  | ok a s₁ => rfl
  | error e s₁ => rfl

theorem withdrawing_step_unfinished (act : Action α) (path : String) :
    withdrawing (step stage workDir (some path) act) =
      act.onFailure fun _ => Files.removeFile path := by
  funext s
  unfold withdrawing step Action.onFailure
  cases act s with
  | ok a s₁ => rfl
  | error e s₁ => rfl

theorem withdrawing_note (message : String) (arguments : List Value) :
    withdrawing (note message arguments) = Action.say .info message arguments :=
  rfl

theorem withdrawing_pure (a : α) : withdrawing (pure a) = pure a :=
  rfl

/-- If both of two actions are cleaned up after in the same way, so is the one with the other. -/
theorem onFailure_bind (x : Action α) (f : α → Action β) (cleanup : Thrown → Action Unit) :
    (x >>= f).onFailure cleanup =
      x.onFailure cleanup >>= fun a => (f a).onFailure cleanup := by
  funext s
  show Action.onFailure (EStateM.bind x f) cleanup s =
    EStateM.bind (x.onFailure cleanup) (fun a => (f a).onFailure cleanup) s
  cases hx : x s with
  | ok a s₁ => simp only [Action.onFailure, EStateM.bind, hx]
  | error e s₁ =>
      simp only [Action.onFailure, EStateM.bind, hx]
      cases cleanup e s₁ with
      | ok u s₂ => rfl
      | error e s₂ => rfl

end Withdrawing

theorem prepare_eq (id : String) (request : RenderRequest) :
    prepare id request = withdrawing (preparing id request) := by
  simp only [preparing, withdrawing_bind, withdrawing_step, withdrawing_note, withdrawing_pure]
  rfl

theorem publish_eq (staged outDir fileName id workDir : String) :
    publish staged outDir fileName id =
      withdrawing (publishing staged outDir fileName id workDir) := by
  simp only [publishing, publish, withdrawing_bind, withdrawing_step, withdrawing_step_unfinished,
    withdrawing_pure, onFailure_bind, bind_assoc]

theorem produce_eq (tools : Tools) (id : String) (config : ProducerConfig) (events : List Event)
    (workDir : String) :
    produce tools id config events workDir =
      withdrawing (producing tools id config events workDir) := by
  simp only [producing, withdrawing_bind, withdrawing_step, withdrawing_note, withdrawing_pure,
    ← publish_eq]
  rfl

/-! ## The whole render -/

variable {tools : Tools} {request : RenderRequest} {id workDir : String} {s s₁ : Studio} {b : Break}

/-- The studio with what is passed on in its log, if it can be written out. -/
def Break.reported (b : Break) (id : String) (s : Studio) : Studio :=
  match (b.passed s).message? with
  | some message =>
    { b.withdrawn s with
      log := (b.withdrawn s).log.push ⟨.error, tag id ++ "Failed: " ++ message, []⟩ }
  | none => b.withdrawn s

/-- The studio in the end, when the working directory is removed or its removal was refused. -/
def Break.ended (b : Break) (id : String) (s : Studio) : Studio :=
  match b.workDir with
  | none => b.reported id s
  | some workDir => (removeWorkDir id workDir).after (b.reported id s)

theorem reporting_withdrawing_of_ok {α : Type} {x : Course α} {a : α} (h : x s = .ok a s₁) :
    reporting id (withdrawing x) s = .ok a s₁ := by
  simp only [reporting, Action.onFailure, withdrawing, h]

theorem reporting_withdrawing_of_error {α : Type} {x : Course α} (h : x s = .error b s₁) :
    reporting id (withdrawing x) s = .error (b.comesOut s₁) (b.reported id s₁) := by
  unfold reporting Action.onFailure withdrawing Break.comesOut Break.reported
  simp only [h, Break.withdraw_eq]
  cases hmessage : (b.passed s₁).message? with
  | none =>
      rw [Action.writing_bind_of_none rfl, Thrown.told_of_none hmessage]
  | some message =>
      rw [Action.writing_bind_of_some rfl, Thrown.told_of_some hmessage]
      rfl

theorem always_removeWorkDir_of_ok {α : Type} {act : Action α} {a : α} (h : act s = .ok a s₁) :
    act.always (removeWorkDir id workDir) s = .ok a ((removeWorkDir id workDir).after s₁) := by
  obtain ⟨s₂, hremove, -⟩ := removeWorkDir_eq_ok id workDir s₁
  simp only [Action.always, h, hremove, Action.after_of_ok hremove]

theorem always_removeWorkDir_of_error {α : Type} {act : Action α} {e : Thrown}
    (h : act s = .error e s₁) :
    act.always (removeWorkDir id workDir) s = .error e ((removeWorkDir id workDir).after s₁) := by
  obtain ⟨s₂, hremove, -⟩ := removeWorkDir_eq_ok id workDir s₁
  simp only [Action.always, h, hremove, Action.after_of_ok hremove]

/-- The studio in which a render reads its script. -/
def opened (request : RenderRequest) (s : Studio) : Studio :=
  { s with
    renders := s.renders + 1
    log := s.log.push
      ⟨.info, tag (idOf (s.renders + 1)) ++ "Starting",
        [.record
          [("chars", .ofNat (Text.unitLength request.script)),
           ("outDir", .text request.config.outDir)]]⟩ }

theorem course_eq (tools : Tools) (request : RenderRequest) (s : Studio) :
    course tools request s =
      EStateM.bind (preparing (idOf (s.renders + 1)) request)
        (fun (events, workDir) =>
          producing tools (idOf (s.renders + 1)) request.config events workDir)
        (opened request s) :=
  rfl

theorem render_eq (tools : Tools) (request : RenderRequest) (s : Studio) :
    render tools request s =
      EStateM.bind (reporting (idOf (s.renders + 1))
          (withdrawing (preparing (idOf (s.renders + 1)) request)))
        (fun (events, workDir) =>
          (reporting (idOf (s.renders + 1)) (withdrawing
            (producing tools (idOf (s.renders + 1)) request.config events workDir))).always
              (removeWorkDir (idOf (s.renders + 1)) workDir))
        (opened request s) := by
  simp only [← prepare_eq, ← produce_eq]
  rfl

/-! ## Where a course breaks off -/

theorem course_bind_eq_error {α β : Type} {x : Course α} {f : α → Course β} {s' : Studio}
    (h : (x >>= f) s = .error b s') :
    x s = .error b s' ∨ ∃ a s₁, x s = .ok a s₁ ∧ f a s₁ = .error b s' := by
  change EStateM.bind x f s = _ at h
  unfold EStateM.bind at h
  cases hx : x s with
  | ok a s₁ =>
      rw [hx] at h
      exact .inr ⟨a, s₁, rfl, h⟩
  | error b₁ s₁ =>
      rw [hx] at h
      cases h
      exact .inl rfl

section Step

variable {α : Type} {stage : Stage} {workDir unfinished : Option String} {act : Action α}

theorem step_eq_ok {a : α} {s' : Studio} (h : step stage workDir unfinished act s = .ok a s') :
    act s = .ok a s' := by
  unfold step at h
  cases hact : act s with
  | ok a₁ s₁ =>
      rw [hact] at h
      cases h
      rfl
  | error e s₁ =>
      rw [hact] at h
      cases h

theorem step_eq_error {s' : Studio} (h : step stage workDir unfinished act s = .error b s') :
    ∃ e, act s = .error e s' ∧ b = ⟨stage, workDir, unfinished, e⟩ := by
  unfold step at h
  cases hact : act s with
  | ok a s₁ =>
      rw [hact] at h
      cases h
  | error e s₁ =>
      rw [hact] at h
      cases h
      exact ⟨e, rfl, rfl⟩

end Step

/-- The studio after the script has been read. -/
def parsed (id : String) (events : List Event) (s : Studio) : Studio :=
  { s with
    log := s.log.push
      ⟨.info, tag id ++ "Parsed " ++ Numeral.natText events.length ++ " events", []⟩ }

/-- A preparation in `s` breaks off. -/
inductive Unprepared (id : String) (request : RenderRequest) (s : Studio) :
    Break → Studio → Prop where
  | script {fault : Script.ScriptError} :
      Script.parse request.strict request.script = .error fault →
      Unprepared id request s ⟨.script, none, none, .failure fault.failure⟩ s
  | workDir {events : List Event} {e : Thrown} {s' : Studio} :
      Script.parse request.strict request.script = .ok events →
      Files.makeTempDir (workDirStart id) (parsed id events s) = .error e s' →
      Unprepared id request s ⟨.workDir, none, none, e⟩ s'

/-- A publication in `s` breaks off. -/
inductive Unpublished (staged outDir fileName id workDir : String) (s : Studio) :
    Break → Studio → Prop where
  | outDir {e : Thrown} {s' : Studio} :
      Files.makeDir outDir s = .error e s' →
      Unpublished staged outDir fileName id workDir s ⟨.outDir, workDir, none, e⟩ s'
  | copy {s₁ s' : Studio} {e : Thrown} :
      Files.makeDir outDir s = .ok () s₁ →
      Files.copy staged (unfinishedPath (Path.join [outDir, fileName]) id) s₁ = .error e s' →
      Unpublished staged outDir fileName id workDir s
        ⟨.copy, workDir, some (unfinishedPath (Path.join [outDir, fileName]) id), e⟩ s'
  | rename {s₁ s₂ s' : Studio} {e : Thrown} :
      Files.makeDir outDir s = .ok () s₁ →
      Files.copy staged (unfinishedPath (Path.join [outDir, fileName]) id) s₁ = .ok () s₂ →
      Files.rename (unfinishedPath (Path.join [outDir, fileName]) id)
        (Path.join [outDir, fileName]) s₂ = .error e s' →
      Unpublished staged outDir fileName id workDir s
        ⟨.rename, workDir, some (unfinishedPath (Path.join [outDir, fileName]) id), e⟩ s'

/-- A production in `s` breaks off. -/
inductive Unproduced (tools : Tools) (id : String) (config : ProducerConfig) (events : List Event)
    (workDir : String) (s : Studio) : Break → Studio → Prop where
  | timeline {e : Thrown} {s' : Studio} :
      Timeline.build tools config workDir events s = .error e s' →
      Unproduced tools id config events workDir s ⟨.timeline, workDir, none, e⟩ s'
  | graph {t : Timeline} {s' : Studio} {f : Failure} :
      Timeline.build tools config workDir events s = .ok t s' →
      Mix.compile t config = .error f →
      Unproduced tools id config events workDir s ⟨.graph, workDir, none, .failure f⟩ s'
  | mix {t : Timeline} {graph : Mix.Graph} {s₁ s' : Studio} {e : Thrown} :
      Timeline.build tools config workDir events s = .ok t s₁ →
      Mix.compile t config = .ok graph →
      tools.mix graph (Path.join [workDir, graph.output.fileName]) s₁ = .error e s' →
      Unproduced tools id config events workDir s ⟨.mix, workDir, none, e⟩ s'
  | publishing {t : Timeline} {graph : Mix.Graph} {mixed : String} {s₁ s₂ s' : Studio} {b : Break} :
      Timeline.build tools config workDir events s = .ok t s₁ →
      Mix.compile t config = .ok graph →
      tools.mix graph (Path.join [workDir, graph.output.fileName]) s₁ = .ok mixed s₂ →
      Unpublished (Path.join [workDir, graph.output.fileName]) config.outDir graph.output.fileName id
        workDir s₂ b s' →
      Unproduced tools id config events workDir s b s'

theorem unprepared_of_preparing {s' : Studio} (h : preparing id request s = .error b s') :
    Unprepared id request s b s' := by
  rcases course_bind_eq_error h with h | ⟨events, s₁, hparse, h⟩
  · obtain ⟨e, hparse, rfl⟩ := step_eq_error h
    obtain ⟨f, hfault, rfl, rfl⟩ := Action.exists_failure_of_ofExcept hparse
    cases hscript : Script.parse request.strict request.script with
    | ok events =>
        rw [hscript] at hfault
        cases hfault
    | error fault =>
        rw [hscript] at hfault
        cases hfault
        exact .script hscript
  · obtain ⟨hscript, rfl⟩ := ofExcept_mapError_eq_ok.1 (step_eq_ok hparse)
    rcases course_bind_eq_error (show (step .workDir none none _ >>= _) (parsed id events s) = _ from h)
      with h | ⟨workDir, s₂, -, h⟩
    · obtain ⟨e, hdir, rfl⟩ := step_eq_error h
      exact .workDir hscript hdir
    · cases h

theorem unpublished_of_publishing {staged outDir fileName : String} {s' : Studio}
    (h : publishing staged outDir fileName id workDir s = .error b s') :
    Unpublished staged outDir fileName id workDir s b s' := by
  rcases course_bind_eq_error h with h | ⟨_, s₁, hdir, h⟩
  · obtain ⟨e, hdir, rfl⟩ := step_eq_error h
    exact .outDir hdir
  rcases course_bind_eq_error h with h | ⟨_, s₂, hcopy, h⟩
  · obtain ⟨e, hcopy, rfl⟩ := step_eq_error h
    exact .copy (step_eq_ok hdir) hcopy
  rcases course_bind_eq_error h with h | ⟨_, s₃, hrename, h⟩
  · obtain ⟨e, hrename, rfl⟩ := step_eq_error h
    exact .rename (step_eq_ok hdir) (step_eq_ok hcopy) hrename
  · cases h

theorem unproduced_of_producing {config : ProducerConfig} {events : List Event} {s' : Studio}
    (h : producing tools id config events workDir s = .error b s') :
    Unproduced tools id config events workDir s b s' := by
  rcases course_bind_eq_error h with h | ⟨timeline, s₁, hbuild, h⟩
  · obtain ⟨e, hbuild, rfl⟩ := step_eq_error h
    exact .timeline hbuild
  rcases course_bind_eq_error h with h | ⟨graph, s₂, hgraph, h⟩
  · obtain ⟨e, hgraph, rfl⟩ := step_eq_error h
    obtain ⟨f, hcompile, rfl, rfl⟩ := Action.exists_failure_of_ofExcept hgraph
    exact .graph (step_eq_ok hbuild) hcompile
  obtain ⟨hcompile, rfl⟩ := Action.ofExcept_eq_ok.1 (step_eq_ok hgraph)
  rcases course_bind_eq_error h with h | ⟨mixed, s₂, hmix, h⟩
  · obtain ⟨e, hmix, rfl⟩ := step_eq_error h
    exact .mix (step_eq_ok hbuild) hcompile hmix
  rcases course_bind_eq_error h with h | ⟨path, s₃, -, h⟩
  · exact .publishing (step_eq_ok hbuild) hcompile (step_eq_ok hmix) (unpublished_of_publishing h)
  · cases h

theorem Unprepared.workDir_eq {s' : Studio} (h : Unprepared id request s b s') :
    b.workDir = none := by
  cases h <;> rfl

theorem Unpublished.workDir_eq {staged outDir fileName : String} {s' : Studio}
    (h : Unpublished staged outDir fileName id workDir s b s') : b.workDir = some workDir := by
  cases h <;> rfl

theorem Unproduced.workDir_eq {config : ProducerConfig} {events : List Event} {s' : Studio}
    (h : Unproduced tools id config events workDir s b s') : b.workDir = some workDir := by
  cases h with
  | publishing _ _ _ h => exact h.workDir_eq
  | timeline | graph | mix => rfl

/-! ## What comes out -/

theorem render_of_course_eq_error (h : course tools request s = .error b s₁) :
    render tools request s =
      .error (b.comesOut s₁) (b.ended (idOf (s.renders + 1)) s₁) := by
  rw [course_eq] at h
  rw [render_eq]
  rcases course_bind_eq_error h with hprepare | ⟨⟨events, workDir⟩, s₂, hprepare, hproduce⟩
  · have hnone := (unprepared_of_preparing hprepare).workDir_eq
    rw [EStateM.bind, reporting_withdrawing_of_error hprepare, Break.ended, hnone]
  · have hsome := (unproduced_of_producing hproduce).workDir_eq
    rw [EStateM.bind, reporting_withdrawing_of_ok hprepare]
    show Action.always _ _ s₂ = _
    rw [always_removeWorkDir_of_error (reporting_withdrawing_of_error hproduce), Break.ended, hsome]

theorem render_of_course_eq_ok {result : Result} (h : course tools request s = .ok result s₁) :
    ∃ workDir, render tools request s =
      .ok result ((removeWorkDir (idOf (s.renders + 1)) workDir).after s₁) := by
  rw [course_eq, EStateM.bind] at h
  rw [render_eq]
  cases hprepare : preparing (idOf (s.renders + 1)) request (opened request s) with
  | error b s₂ =>
      rw [hprepare] at h
      cases h
  | ok prepared s₂ =>
      obtain ⟨events, workDir⟩ := prepared
      rw [hprepare] at h
      refine ⟨workDir, ?_⟩
      rw [EStateM.bind, reporting_withdrawing_of_ok hprepare]
      exact always_removeWorkDir_of_ok (reporting_withdrawing_of_ok h)

theorem course_eq_error_of_render {e : Thrown} {s' : Studio}
    (h : render tools request s = .error e s') :
    ∃ b s₁, course tools request s = .error b s₁ := by
  cases hcourse : course tools request s with
  | ok result s₁ =>
      obtain ⟨workDir, hrender⟩ := render_of_course_eq_ok hcourse
      rw [hrender] at h
      cases h
  | error b s₁ => exact ⟨b, s₁, rfl⟩

theorem course_of_fault {fault : Script.ScriptError}
    (h : Script.parse request.strict request.script = .error fault) :
    course tools request s =
      .error ⟨.script, none, none, .failure fault.failure⟩ (opened request s) := by
  have hstep : step .script none none
      (Action.ofExcept ((Script.parse request.strict request.script).mapError (·.failure)))
        (opened request s) =
      .error ⟨.script, none, none, .failure fault.failure⟩ (opened request s) := by
    rw [h]
    rfl
  rw [course_eq]
  show EStateM.bind (EStateM.bind _ _) _ _ = _
  simp only [EStateM.bind, hstep]

theorem Unpublished.unfinished_iff {staged outDir fileName : String} {s' : Studio}
    (h : Unpublished staged outDir fileName id workDir s b s') :
    b.unfinished.isSome = true ↔ b.stage = .copy ∨ b.stage = .rename := by
  cases h <;> simp

theorem Unproduced.unfinished_iff {config : ProducerConfig} {events : List Event} {s' : Studio}
    (h : Unproduced tools id config events workDir s b s') :
    b.unfinished.isSome = true ↔ b.stage = .copy ∨ b.stage = .rename := by
  cases h with
  | publishing _ _ _ h => exact h.unfinished_iff
  | timeline | graph | mix => simp

theorem unfinished_iff_of_course (h : course tools request s = .error b s₁) :
    b.unfinished.isSome = true ↔ b.stage = .copy ∨ b.stage = .rename := by
  rw [course_eq] at h
  rcases course_bind_eq_error h with hprepare | ⟨⟨events, workDir⟩, s₂, -, hproduce⟩
  · cases unprepared_of_preparing hprepare <;> simp
  · exact (unproduced_of_producing hproduce).unfinished_iff

theorem Break.comesOut_of_allowed (h : ∀ path ∈ b.unfinished, s.unlinkRefusal? path = none) :
    b.comesOut s = b.raised.told := by
  unfold comesOut passed
  cases hpath : b.unfinished with
  | none => rfl
  | some path => simp [h path hpath]

/-- A render whose steps all succeed gives the result of the last. If one fails, what the first of
these has raised comes out, with two exceptions. If it has left an unfinished file, which only the copy and
the renaming do, and the removal of this file fails, then the error of the removal comes out. And if it
cannot be written out, then the error of the attempt to log it. Whether the working directory can be removed
is all the same. -/
theorem raised_by_render (tools : Tools) (request : RenderRequest) (s : Studio) :
    (∀ result s₁, course tools request s = .ok result s₁ →
      ∃ s', render tools request s = .ok result s') ∧
    (∀ b s₁, course tools request s = .error b s₁ →
      (∃ s', render tools request s = .error (b.comesOut s₁) s') ∧
      (b.unfinished.isSome = true ↔ b.stage = .copy ∨ b.stage = .rename) ∧
      ((∀ path ∈ b.unfinished, s₁.unlinkRefusal? path = none) →
        (b.raised.message? ≠ none → b.comesOut s₁ = b.raised) ∧
        (b.raised.message? = none → b.comesOut s₁ = .unwritable)) ∧
      (∀ path ∈ b.unfinished, ∀ error, s₁.unlinkRefusal? path = some error →
        b.comesOut s₁ = .error error)) := by
  constructor
  · intro result s₁ h
    obtain ⟨workDir, hrender⟩ := render_of_course_eq_ok h
    exact ⟨_, hrender⟩
  · intro b s₁ h
    refine ⟨⟨_, render_of_course_eq_error h⟩, unfinished_iff_of_course h, fun hallowed => ?_, ?_⟩
    · rw [Break.comesOut_of_allowed hallowed]
      constructor
      · intro hmessage
        obtain ⟨message, hsome⟩ := Option.ne_none_iff_exists'.1 hmessage
        exact Thrown.told_of_some hsome
      · exact Thrown.told_of_none
    · intro path hpath error hrefused
      rw [Option.mem_def] at hpath
      simp [Break.comesOut, Break.passed, hpath, hrefused]

/-- A studio in which no file can be renamed and none removed. -/
def stuck : Studio :=
  .fresh .empty "/" ⟨[]⟩ [(.rename, "EXDEV"), (.remove, "EBUSY")]

def greeting : RenderRequest :=
  ⟨"Ruby: Hello", .soloist "Ruby" "/ruby.wav", true⟩

/-- The break has left a file, the first error was raised, and the second is that of the removal. -/
def Break.hides (first second : PlainError) (b : Break) (s : Studio) : Bool :=
  match b.unfinished, b.raised with
  | some path, .error error => error == first && s.unlinkRefusal? path == some second
  | _, _ => false

/-- The renaming fails and so does the removal of the copy, and only the latter is heard of. -/
theorem raised_by_render_stuck :
    ∃ b s₁ s', course .prompt greeting stuck = .error b s₁ ∧ b.raised = .error "EXDEV" ∧
      render .prompt greeting stuck = .error (.error "EBUSY") s' := by
  have hhides : (match course .prompt greeting stuck with
      | .ok _ _ => false
      | .error b s₁ => b.hides "EXDEV" "EBUSY" s₁) = true := by decide +kernel
  cases h : course .prompt greeting stuck with
  | ok result s₁ =>
      rw [h] at hhides
      cases hhides
  | error b s₁ =>
      rw [h] at hhides
      obtain ⟨⟨s', hrender⟩, -, -, hheard⟩ := (raised_by_render .prompt greeting stuck).2 b s₁ h
      dsimp only [Break.hides] at hhides
      split at hhides
      · rename_i path error hpath hraised
        obtain ⟨hfirst, hrefused⟩ := Bool.and_eq_true_iff.1 hhides
        obtain rfl := eq_of_beq hfirst
        rw [hheard path hpath _ (eq_of_beq hrefused)] at hrender
        exact ⟨b, s₁, s', rfl, hraised, hrender⟩
      · cases hhides

end Render

end StoryMix
