import StoryMix.Proofs.Config.Schema
import StoryMix.Proofs.Programs.Tools
import StoryMix.Proofs.Queue.Processor
import StoryMix.Proofs.Render.FailFast
import StoryMix.Proofs.Timeline.Narration

/-!
# A crash of a tool is worth another attempt

With the tools of production it can be told from what comes out of a job whether a tool has crashed, and
which. The tool's own failure is what its call raises, and it is kept on the way out: nothing of what a
render does after such a call raises anything of its own, and a worker gives up other failures only. The
way back needs that nobody else raises a tool's failure (`fails_of_course`).

There is one thing that a tool cannot say, and that is what cannot be written out. A program that raises
such a value makes its tool raise the error of the attempt instead, which names no tool
(`Worker.not_passed_on_grudge`). A job that this comes out of is tried again as well.

So a job that is given up has met no crash, and a length that is laid on the timeline was measured.
-/

namespace StoryMix

open StoryMix.Action

/-- The tool that is called, if it is one that a program stands behind. -/
def Call.tool? : Call → Option Tool
  | voice _ => some .voice
  | probe _ => some .probe
  | silence _ => some .silence
  | mix _ => some .mix
  | _ => none

theorem Thrown.CrashOf.unique {tool tool' : Tool} {e : Thrown} (h : e.CrashOf tool)
    (h' : e.CrashOf tool') : tool = tool' := by
  obtain ⟨message, cause, rfl⟩ := h
  obtain ⟨message', cause', heq⟩ := h'
  cases heq
  rfl

variable {p : Programs} {voicegen : VoicegenConfig} {tool : Tool} {e : Thrown} {s s' : Studio}

/-- What comes of a tool whose program cannot say what is wrong. -/
def Programs.Mutes (p : Programs) (e : Thrown) : Prop :=
  e = .unwritable ∧ ¬ p.Legible

/-- If it is a tool's failure that a call raises, the tool was called. -/
theorem tool?_of_crashOf {c : Call} (h : c.Fails (p.tools voicegen) e s s') (hcrash : e.CrashOf tool) :
    c.tool? = some tool := by
  have hown := Programs.adapts p voicegen
  have hcalled {α : Type} {x : Action α} {called : Tool} {s : Studio} (hfails : x.FailsAs called s e) :
      some called = some tool := by
    obtain ⟨message, cause, rfl⟩ := hcrash
    rcases hfails with ⟨hcrash, -⟩ | ⟨hlost, -⟩
    · rw [hcrash.unique ⟨message, cause, rfl⟩]
    · cases hlost
  have hfile (herror : ∃ message : String, e = .error message) : none = some tool := by
    obtain ⟨message, rfl⟩ := herror
    obtain ⟨message', cause, hfailure⟩ := hcrash
    cases hfailure
  cases c with
  | voice request => exact hcalled (hown.voiceFails h)
  | probe file => exact hcalled (hown.probeFails h)
  | silence request => exact hcalled (hown.silenceFails h)
  | mix path =>
      obtain ⟨graph, h⟩ := h
      exact hcalled (hown.mixFails h)
  | asset root id =>
      obtain ⟨id, tried, rfl⟩ := (Programs.raisesOwn_programs p voicegen).asset h
      obtain ⟨message, cause, hfailure⟩ := hcrash
      cases hfailure
  | makeTempDir start => exact hfile (Files.error_of_makeTempDir h)
  | makeDir path => exact hfile (Files.error_of_makeDir h)
  | copy source target => exact hfile (Files.error_of_copy h)
  | rename source target => exact hfile (Files.error_of_rename h)
  | read | write | remove | execute | mediaProbe | media | mediaStep | mediaRun => exact h.elim

/-- A call of a tool that fails raises the tool's own failure, unless its program cannot say what is
wrong. -/
theorem crashOf_or_mutes {c : Call} (h : c.Fails (p.tools voicegen) e s s') (hc : c.tool? = some tool) :
    e.CrashOf tool ∨ p.Mutes e := by
  have hown := Programs.adapts p voicegen
  have hfails {α : Type} {x : Action α} {s : Studio} (hfails : x.FailsAs tool s e)
      (hlegible : p.Legible → ¬ x.RaisesUnwritable s) : e.CrashOf tool ∨ p.Mutes e :=
    hfails.imp And.left fun hlost => ⟨hlost.1, fun h => hlegible h hlost.2⟩
  cases c with
  | voice request =>
      cases hc
      exact hfails (hown.voiceFails h) fun hp => hp.execute _ _ _
  | probe file =>
      cases hc
      exact hfails (hown.probeFails h) fun hp => hp.probe _ _
  | silence request =>
      cases hc
      exact hfails (hown.silenceFails h) fun hp => hp.media _ _ _
  | mix path =>
      cases hc
      obtain ⟨graph, h⟩ := h
      exact hfails (hown.mixFails h) fun hp => hp.media _ _ _
  | asset | makeTempDir | makeDir | copy | rename | read | write | remove | execute | mediaProbe | media
  | mediaStep | mediaRun => cases hc

/-! ## In a render -/

/-- A build that stops at a check has not met a tool's failure. -/
theorem Timeline.not_ofTool_of_buildStops {config : ProducerConfig} {workDir : String}
    {events : List Event} {steps : List Step}
    (h : BuildStops config workDir events steps none e) : ¬ e.OfTool := by
  rintro ⟨tool, message, cause, rfl⟩
  generalize hhalt : none = halt at h
  cases h with
  | speakers _ herror =>
      rcases checkSpeakers_cases config events with ⟨hspeakers, -⟩ | ⟨speaker, -, hunvoiced⟩
      · cases hspeakers.symm.trans herror
      · cases hunvoiced.symm.trans herror
  | music | ambience => cases hhalt
  | walk hchecked _ _ hwalk =>
      obtain ⟨call, hcall, -⟩ | ⟨name, -, hanchor⟩ :=
        raised_of_walkStops hwalk fun speaker text hmem => voices_of_checked hchecked hmem
      · cases hhalt.trans hcall
      · cases hanchor

namespace Render

variable {tools : Tools} {request : RenderRequest} {b : Break}

/-- A render begun in `s` comes to a call of this tool, and the call fails. -/
def Crashes (tools : Tools) (request : RenderRequest) (s : Studio) (tool : Tool) : Prop :=
  ∃ b s₂, course tools request s = .error b s₂ ∧
    ∃ (steps : List Step) (c : Call) (s₁ : Studio), Runs tools steps s s₁ ∧
      c.Fails tools b.raised s₁ s₂ ∧ c.tool? = some tool

theorem fails_of_unproduced {id workDir : String} {events : List Event} {config : ProducerConfig}
    (h : Unproduced tools id config events workDir s b s') (hraised : b.raised.OfTool) :
    ∃ (steps : List Step) (c : Call) (s₁ : Studio),
      Runs tools steps s s₁ ∧ c.Fails tools b.raised s₁ s' := by
  cases h with
  | timeline hbuild =>
      obtain ⟨steps, halt, s₁, hstops, hruns, hhalts⟩ := Timeline.build_eq_error hbuild
      cases halt with
      | none => exact absurd hraised (Timeline.not_ofTool_of_buildStops hstops)
      | some c =>
          cases hhalts with
          | call hfails => exact ⟨steps, c, s₁, hruns, hfails⟩
  | graph hbuild hcompile =>
      obtain ⟨graph, hgraph⟩ := Timeline.compile_of_build hbuild
      cases hgraph.symm.trans hcompile
  | mix hbuild _ hmix =>
      obtain ⟨r, -, -, hruns, -⟩ := Timeline.build_eq_ok_iff.1 hbuild
      exact ⟨_, .mix _, _, hruns, _, hmix⟩
  | publishing _ _ _ hpublish =>
      obtain ⟨tool, message, cause, hfailure⟩ := hraised
      exact absurd hfailure (not_failure_of_unpublished hpublish)

theorem fails_of_course (h : course tools request s = .error b s') (hraised : b.raised.OfTool) :
    ∃ (steps : List Step) (c : Call) (s₁ : Studio),
      Runs tools steps s s₁ ∧ c.Fails tools b.raised s₁ s' := by
  rw [course_eq] at h
  rcases course_bind_eq_error h with hprepare | ⟨⟨events, workDir⟩, s₂, hprepare, hproduce⟩
  · obtain ⟨tool, message, cause, hfailure⟩ := hraised
    cases unprepared_of_preparing hprepare with
    | @script fault _ =>
        have hcode := lasting_of_fault fault
        rw [Thrown.failure.inj hfailure] at hcode
        exact absurd hcode (by simp [lasting, Failure.code])
    | workDir _ hdir =>
        obtain ⟨_, herror⟩ := Files.error_of_makeTempDir hdir
        cases herror.symm.trans hfailure
  · have hprepare : prepare (idOf (s.renders + 1)) request (opened request s) =
        .ok (events, workDir) s₂ := by
      rw [prepare_eq, withdrawing, hprepare]
    obtain ⟨-, hbefore⟩ := (@prepare_eq_ok tools _ _ _ _ _ _).1 hprepare
    obtain ⟨steps, c, s₁, hruns, hfails⟩ := fails_of_unproduced (unproduced_of_producing hproduce) hraised
    obtain ⟨_, rfl, s₃, hdir, rfl⟩ := hbefore
    exact ⟨uncalled request (idOf (s.renders + 1)) events ++ .makeTempDir _ workDir :: steps, c, s₁,
      runs_append.2 ⟨_, runs_uncalled tools request s events, _, hdir, hruns⟩, hfails⟩

/-- No operation on files raises the error of an attempt to write something out. -/
theorem unwritable_ne (message : String) : Thrown.unwritable ≠ .error message := by
  intro h
  exact absurd (congrArg Thrown.name h) (by simp [Thrown.name, Thrown.unwritable])

/-- What is not raised by an operation on files leaves no unfinished file, so it is what comes out. -/
theorem comesOut_of_course (h : course tools request s = .error b s')
    (hraised : ∀ message : String, b.raised ≠ .error message) : b.comesOut s' = b.raised.told := by
  have hnone : b.unfinished = none := by
    rw [course_eq] at h
    rcases course_bind_eq_error h with hprepare | ⟨⟨events, workDir⟩, s₂, -, hproduce⟩
    · cases unprepared_of_preparing hprepare <;> rfl
    · cases unproduced_of_producing hproduce with
      | timeline | graph | mix => rfl
      | publishing _ _ _ hpublish =>
          obtain ⟨message, hmessage⟩ := error_of_unpublished hpublish
          exact absurd hmessage (hraised message)
  rw [Break.comesOut, Break.passed, hnone]

/-- If a render ends in the failure of a tool, it has come to a call of this tool that fails. -/
theorem crashes_of_render (h : render (p.tools voicegen) request s = .error e s')
    (hcrash : e.CrashOf tool) : Crashes (p.tools voicegen) request s tool := by
  obtain ⟨b, s₂, hcourse⟩ := course_eq_error_of_render h
  rw [render_of_course_eq_error hcourse] at h
  obtain ⟨rfl, -⟩ := EStateM.Result.error.inj h
  have hraised : b.raised.CrashOf tool := by
    obtain ⟨message, cause, hfailure⟩ := hcrash
    exact ⟨message, cause, raised_of_comesOut hfailure⟩
  obtain ⟨steps, c, s₁, hruns, hfails⟩ := fails_of_course hcourse hraised.ofTool
  exact ⟨b, s₂, hcourse, steps, c, s₁, hruns, hfails, tool?_of_crashOf hfails hraised⟩

/-- If it comes to such a call, this is how it ends. -/
theorem render_of_crashes (h : Crashes (p.tools voicegen) request s tool) :
    ∃ e s', render (p.tools voicegen) request s = .error e s' ∧ (e.CrashOf tool ∨ p.Mutes e) := by
  obtain ⟨b, s₂, hcourse, steps, c, s₁, -, hfails, hc⟩ := h
  refine ⟨_, _, render_of_course_eq_error hcourse, ?_⟩
  rcases crashOf_or_mutes hfails hc with ⟨message, cause, hraised⟩ | ⟨hraised, hp⟩
  · refine .inl ⟨message, cause, ?_⟩
    rw [comesOut_of_course hcourse (by rw [hraised]; nofun), hraised, Thrown.told_failure]
  · refine .inr ⟨?_, hp⟩
    rw [comesOut_of_course hcourse (by rw [hraised]; exact unwritable_ne), hraised,
      Thrown.unwritable, Thrown.told_error]

end Render

/-! ## In a job -/

/-- A failure that is made final was no crash of a tool. -/
theorem JobContext.crashOf_concluded_iff : (concluded e).CrashOf tool ↔ e.CrashOf tool := by
  by_cases hlasting : ∃ f, e = .failure f ∧ f.code ≠ .externalTool
  · obtain ⟨f, rfl, hcode⟩ := hlasting
    rw [concluded_of_lasting hcode]
    refine iff_of_false nofun ?_
    rintro ⟨message, cause, hf⟩
    cases hf
    exact hcode rfl
  · rw [concluded_of_passing fun f he =>
      Classical.byContradiction fun hcode => hlasting ⟨f, he, hcode⟩]
    constructor
    · rintro ⟨message, cause, hfailure⟩
      exact ⟨message, cause, Thrown.told_eq_failure hfailure⟩
    · rintro ⟨message, cause, rfl⟩
      exact ⟨message, cause, Thrown.told_failure _⟩

theorem JobContext.mutes_concluded (h : p.Mutes e) : p.Mutes (concluded e) := by
  obtain ⟨rfl, hp⟩ := h
  exact ⟨rfl, hp⟩

namespace Worker

open JobContext

section

variable (id : String) (job : RenderJob) (s : Studio)

/-- The studio in which a job has been found in order. -/
def accepted : Studio :=
  { s with
    log := s.log.push
      ⟨.info, "Processing render job " ++ id,
        [.record
          [("chars", .ofNat (Text.unitLength job.script)), ("strict", .bool (job.strict.getD false))]]⟩ }

/-- The studio in which the render of a job is begun. -/
def taken : Studio :=
  { accepted id job s with progress := s.progress.push begun }

end

/-- The render that a job asks for, with its settings. -/
def asked (job : RenderJob) (config : ProducerConfig) : RenderRequest :=
  ⟨job.script, config, job.strict.getD false⟩

/-- A job begun in `s` comes to a call of this tool, and the call fails. -/
def Crashes (p : Programs) (voicegen : VoicegenConfig) (id : String) (payload : Value) (s : Studio)
    (tool : Tool) : Prop :=
  ∃ job config, RenderJob.check payload = .ok job ∧
    ProducerConfig.load s.env s.cwd job.overrides = .ok config ∧
    Render.Crashes (p.tools voicegen) (asked job config) (taken id job s) tool

section

variable (p voicegen) (id : String) {payload : Value} {job : RenderJob} {config : ProducerConfig}

theorem process_eq (hcheck : RenderJob.check payload = .ok job) (s : Studio) :
    (context p voicegen).process id payload s =
      concluding id ((context p voicegen).renderJob id job) (accepted id job s) := by
  unfold process
  rw [hcheck]
  exact bind_of_ok rfl

theorem process_of_unset (hcheck : RenderJob.check payload = .ok job) {f : Failure}
    (hload : ProducerConfig.load s.env s.cwd job.overrides = .error f) :
    ∃ s', (context p voicegen).process id payload s = .error (.unrecoverable f.message) s' := by
  have hreport : (context p voicegen).report begun (accepted id job s) = .ok () (taken id job s) := rfl
  obtain ⟨log, hend⟩ := concluding_of_error id (renderJob_of_unset id hreport hload)
  rw [concluded_of_lasting (by simp [code_of_load hload])] at hend
  exact ⟨_, (process_eq p voicegen id hcheck s).trans hend⟩

theorem process_of_rendered (hcheck : RenderJob.check payload = .ok job)
    (hload : ProducerConfig.load s.env s.cwd job.overrides = .ok config) {result : Render.Result}
    (hrender : render (p.tools voicegen) (asked job config) (taken id job s) = .ok result s') :
    ∃ r s₂, (context p voicegen).process id payload s = .ok r s₂ := by
  have hreport : (context p voicegen).report begun (accepted id job s) = .ok () (taken id job s) := rfl
  obtain ⟨log, hjob⟩ := renderJob_of_ok id hreport hload hrender rfl
  exact ⟨_, _, (process_eq p voicegen id hcheck s).trans (concluding_of_ok id hjob)⟩

theorem process_of_broken (hcheck : RenderJob.check payload = .ok job)
    (hload : ProducerConfig.load s.env s.cwd job.overrides = .ok config)
    (hrender : render (p.tools voicegen) (asked job config) (taken id job s) = .error e s') :
    ∃ s₂, (context p voicegen).process id payload s = .error (concluded e) s₂ := by
  have hreport : (context p voicegen).report begun (accepted id job s) = .ok () (taken id job s) := rfl
  obtain ⟨log, hend⟩ := concluding_of_error id (renderJob_of_error id hreport hload hrender)
  exact ⟨_, (process_eq p voicegen id hcheck s).trans hend⟩

variable {p voicegen}

/-- If a job ends in the failure of a tool, a call of this tool has failed in it. -/
theorem crashes_of_process (h : (context p voicegen).process id payload s = .error e s')
    (hcrash : e.CrashOf tool) : Crashes p voicegen id payload s tool := by
  cases hcheck : RenderJob.check payload with
  | failed issues =>
      obtain ⟨message, cause, rfl⟩ := hcrash
      cases (process_of_refused (context p voicegen) id hcheck s).symm.trans h
  | ok job =>
      cases hload : ProducerConfig.load s.env s.cwd job.overrides with
      | error f =>
          obtain ⟨message, cause, rfl⟩ := hcrash
          obtain ⟨s₁, hprocess⟩ := process_of_unset p voicegen id hcheck hload
          cases hprocess.symm.trans h
      | ok config =>
          refine ⟨job, config, hcheck, hload, ?_⟩
          cases hrender : render (p.tools voicegen) (asked job config) (taken id job s) with
          | ok result s₁ =>
              obtain ⟨r, s₂, hprocess⟩ := process_of_rendered p voicegen id hcheck hload hrender
              cases hprocess.symm.trans h
          | error e₁ s₁ =>
              obtain ⟨s₂, hprocess⟩ := process_of_broken p voicegen id hcheck hload hrender
              obtain ⟨rfl, -⟩ := EStateM.Result.error.inj (hprocess.symm.trans h)
              exact Render.crashes_of_render hrender (crashOf_concluded_iff.1 hcrash)

/-- A job in which a call of a tool has failed ends in the failure of the tool, unless its program cannot
say what is wrong. -/
theorem process_of_crashes (h : Crashes p voicegen id payload s tool) :
    ∃ e s', (context p voicegen).process id payload s = .error e s' ∧ (e.CrashOf tool ∨ p.Mutes e) := by
  obtain ⟨job, config, hcheck, hload, hcrashes⟩ := h
  obtain ⟨e, s₁, hrender, hraised⟩ := Render.render_of_crashes hcrashes
  obtain ⟨s₂, hprocess⟩ := process_of_broken p voicegen id hcheck hload hrender
  exact ⟨_, s₂, hprocess, hraised.imp crashOf_concluded_iff.2 mutes_concluded⟩

end

end Worker

/-! ## On the clock -/

theorem measured_of_runs {steps : List Step} {file : String} {duration : Float}
    (h : Runs (p.tools voicegen) steps s s') (hused : .use (.probe file duration) ∈ steps) :
    duration.isFinite = true ∧ 0 ≤ duration := by
  obtain ⟨s₁, s₂, hprobe⟩ := use_runs_of_mem h hused
  obtain ⟨metadata, -, -, hmeasured⟩ := (Programs.adapts p voicegen).probe.1 hprobe
  exact hmeasured

/-- Each line is as long on the timeline as it was measured to be. -/
theorem measured_of_build {config : ProducerConfig} {workDir : String} {events : List Event}
    {t : Timeline} (h : Timeline.build (p.tools voicegen) config workDir events s = .ok t s')
    {segment : Segment} (hmem : segment ∈ t.segments) {speaker : String}
    (hspeech : segment.kind = .speech speaker) :
    ∃ duration : Float, duration.isFinite = true ∧ 0 ≤ duration ∧
      segment.endTime = segment.startTime + duration := by
  obtain ⟨r, rfl, -, hruns, rfl⟩ := Timeline.build_eq_ok_iff.1 h
  obtain ⟨t, ht, hmakes⟩ :=
    Script.exists_of_forall₂ (Timeline.makes_trackOf .start r.takes).flip segment hmem
  cases t with
  | speech name request file duration =>
      have hused : .use (.probe file duration) ∈ r.steps config.assetsDir :=
        Timeline.Recording.mem_steps (List.mem_filter.1 ht).1 (by simp [Timeline.Take.uses])
      obtain ⟨hfinite, hnonneg⟩ := measured_of_runs hruns hused
      exact ⟨duration, hfinite, hnonneg, hmakes.2.2⟩
  | silence => cases hspeech.symm.trans hmakes.1
  | effect | directive | other => exact hmakes.elim

/-- The voice generator cannot be bothered with more than a greeting: it stops with neither an error nor a
file. -/
def curt : Programs where
  execute _ arguments := do
    if arguments.getD 1 "" = "Hello" then Files.put (arguments.getD 5 "") "hello"
    else throw (.value (.bool false))
  probe _ := pure (.record [("format", .record [("duration", .number 1.5)])])
  media _ _ := pure ()

def generator : VoicegenConfig :=
  ⟨"voicegen", "cpu"⟩

def ruby : SpeakerRefs :=
  ⟨[("Ruby", "/ruby.wav")]⟩

/-- A job of two lines. -/
def farewell : RenderJob :=
  ⟨"Ruby: Hello\nRuby: Goodbye", some ruby, none, none, none⟩

def farewellConfig : ProducerConfig :=
  .resolved "/" ⟨"assets", "out", ruby, 0, -18, -22⟩

theorem refs_ruby : Check.refs ruby.toValue = .ok ruby := by
  have hplaceless : Entries.placeless "Ruby" = true :=
    Entries.placeless_of_not_numeric fun h => absurd (h 'R' (by decide)) (by decide)
  refine Check.refs_eq_ok.2 ⟨ruby.entries, ?_, by decide, rfl⟩
  exact Entries.inOrder_of_placeless (by simpa [ruby] using hplaceless)

theorem check_farewell : RenderJob.check farewell.toValue = .ok farewell := by
  refine Checked.seq_eq_ok.2 ⟨_, _, Checked.seq_eq_ok.2 ⟨_, _, Checked.seq_eq_ok.2 ⟨_, _,
    Checked.seq_eq_ok.2 ⟨_, _, Checked.map_eq_ok.2 ⟨_, rfl, rfl⟩, ?_, rfl⟩, rfl, rfl⟩, rfl, rfl⟩, rfl, rfl⟩
  exact Check.field_eq_ok.2 (Checked.map_eq_ok.2 ⟨ruby, refs_ruby, rfl⟩)

theorem load_farewell :
    ProducerConfig.load Studio.empty.env Studio.empty.cwd farewell.overrides = .ok farewellConfig := by
  have hcheck : ProducerConfig.check
      (ProducerConfig.chosen Studio.empty.env farewell.overrides .empty) =
        .ok ⟨"assets", "out", ruby, 0, -18, -22⟩ := by
    refine Checked.seq_eq_ok.2 ⟨_, _, Checked.seq_eq_ok.2 ⟨_, _, Checked.seq_eq_ok.2 ⟨_, _,
      Checked.seq_eq_ok.2 ⟨_, _, Checked.seq_eq_ok.2 ⟨_, _, Checked.map_eq_ok.2 ⟨_, rfl, rfl⟩, rfl, rfl⟩,
        ?_, rfl⟩, rfl, rfl⟩, rfl, rfl⟩, rfl, rfl⟩
    exact Check.field_eq_ok.2 refs_ruby
  have hrefs : ProducerConfig.refsOfEnvironment Studio.empty.env = .ok .empty := rfl
  rw [ProducerConfig.load, hrefs]
  dsimp only
  rw [hcheck]
  rfl

/-- The end of an action, if it is the failure of the voice generator. -/
def voiceless {α : Type} : EStateM.Result Thrown Studio α → Bool
  | .error (.failure (.externalTool .voice _ _)) _ => true
  | _ => false

theorem crashOf_of_voiceless {α : Type} {x : Action α} (h : voiceless (x s) = true) :
    ∃ e s', x s = .error e s' ∧ e.CrashOf .voice := by
  unfold voiceless at h
  split at h
  · exact ⟨_, _, ‹_›, _, _, rfl⟩
  · cases h

/-- Its voice generator raises a value that cannot be written out. -/
def grudge : Programs :=
  { curt with execute := fun _ _ => throw (.value JobContext.mute) }

end StoryMix
