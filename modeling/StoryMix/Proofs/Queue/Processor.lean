import StoryMix.Proofs.Config.Schema
import StoryMix.Proofs.Programs.Tools
import StoryMix.Proofs.Render.Foresight
import StoryMix.Queue.Worker

/-!
# How a job ends

A job is either refused for its payload, or it reports that it has begun and then fails for its
settings, or it asks for one render and ends as that does. `Ends` lists the six endings with the
reports and the requests of each, and every run has one of them. Three of them are told apart by what
the render raised: a failure of the library that is no crash of a tool becomes final, and anything else
comes out as it was raised, if it can be written out. If it cannot, the job breaks off where it would log
this, and what comes out is the error of the attempt (`not_passed_stubborn`).

What is reported and what is asked for is read off what the studio has noted. That reports go through
is asked of the context (`Steady`); of the render nothing is, but that it leaves what is noted.
-/

namespace StoryMix

namespace JobContext

open StoryMix.Action

/-- The same context with every request on record. -/
def recorded (context : JobContext) : JobContext where
  render request := do
    Action.noteRequest request
    context.render request
  report := context.report

/-- Reports go through, are noted and leave the settings alone, and a render leaves what is noted. -/
structure Steady (context : JobContext) : Prop where
  report progress s : ∃ s', context.report progress s = .ok () s' ∧ s'.env = s.env ∧ s'.cwd = s.cwd ∧
    s'.progress = s.progress.push progress ∧ s'.requests = s.requests
  progress request s : ((context.render request).after s).progress = s.progress
  requests request s : ((context.render request).after s).requests = s.requests

/-- From `s` to `s'` these reports and these requests have been added to the record. -/
structure Noted (progress : List Float) (requests : List RenderRequest) (s s' : Studio) : Prop where
  progress : s'.progress.toList = s.progress.toList ++ progress
  requests : s'.requests.toList = s.requests.toList ++ requests

/-- The payload is a job, and with these settings it asks for this render. -/
def Asks (env : Environment) (cwd : String) (payload : Value) (request : RenderRequest) : Prop :=
  ∃ job config, RenderJob.check payload = .ok job ∧
    ProducerConfig.load env cwd job.overrides = .ok config ∧
    request = ⟨job.script, config, job.strict.getD false⟩

def refusal (issues : List Issue) : String :=
  "Invalid render job payload: " ++ issuesText "data" issues

/-- How a job that is begun in `s` ends: its answer, its reports, and the renders it has asked for. -/
inductive Ends (context : JobContext) (payload : Value) (s : Studio) :
    Except Thrown JobResult → List Float → List RenderRequest → Prop where
  | refused {issues : List Issue} :
      RenderJob.check payload = .failed issues →
      Ends context payload s (.error (.unrecoverable (refusal issues))) [] []
  | unset {job : RenderJob} {f : Failure} :
      RenderJob.check payload = .ok job →
      ProducerConfig.load s.env s.cwd job.overrides = .error f →
      Ends context payload s (.error (.unrecoverable f.message)) [10] []
  | rendered {request : RenderRequest} {result : Render.Result} {s₁ s₂ : Studio} :
      Asks s.env s.cwd payload request →
      Noted [10] [request] s s₁ →
      context.render request s₁ = .ok result s₂ →
      Ends context payload s (.ok ⟨result.outputPath, result.duration⟩) [10, 100] [request]
  /-- The render would fail the same way again. -/
  | final {request : RenderRequest} {f : Failure} {s₁ s₂ : Studio} :
      Asks s.env s.cwd payload request →
      Noted [10] [request] s s₁ →
      context.render request s₁ = .error (.failure f) s₂ →
      f.code ≠ .externalTool →
      Ends context payload s (.error (.unrecoverable f.message)) [10] [request]
  /-- Another attempt may do better. -/
  | passed {request : RenderRequest} {e : Thrown} {s₁ s₂ : Studio} :
      Asks s.env s.cwd payload request →
      Noted [10] [request] s s₁ →
      context.render request s₁ = .error e s₂ →
      (∀ f, e = .failure f → f.code = .externalTool) →
      e.message? ≠ none →
      Ends context payload s (.error e) [10] [request]
  /-- What the render raised is lost in the attempt to log it. -/
  | lost {request : RenderRequest} {e : Thrown} {s₁ s₂ : Studio} :
      Asks s.env s.cwd payload request →
      Noted [10] [request] s s₁ →
      context.render request s₁ = .error e s₂ →
      e.message? = none →
      Ends context payload s (.error .unwritable) [10] [request]

/-! ## What becomes of a failure -/

/-- What comes out of a job where this was raised. -/
def concluded (e : Thrown) : Thrown :=
  e.message?.elim .unwritable (asFinal e)

theorem concluded_of_lasting {f : Failure} (h : f.code ≠ .externalTool) :
    concluded (.failure f) = .unrecoverable f.message := by
  refine if_neg fun hretryable => h ?_
  exact eq_of_beq hretryable

theorem concluded_of_none {e : Thrown} (h : e.message? = none) : concluded e = .unwritable := by
  rw [concluded, h]
  rfl

/-- What is not given up is told and raised again. -/
theorem concluded_of_passing {e : Thrown} (h : ∀ f, e = .failure f → f.code = .externalTool) :
    concluded e = e.told := by
  have hretryable : e.isRetryable = true := by
    cases e with
    | failure f => exact beq_iff_eq.2 (h f rfl)
    | unrecoverable | error | value => rfl
  cases hmessage : e.message? with
  | none => rw [concluded_of_none hmessage, Thrown.told_of_none hmessage]
  | some message =>
      rw [concluded, hmessage, Thrown.told_of_some hmessage]
      exact if_pos hretryable

theorem code_of_readItem {source item : String} {f : Failure}
    (h : SpeakerRefs.readItem source item = .error f) : f.code = .configuration := by
  unfold SpeakerRefs.readItem at h
  split at h
  · cases h
  · cases h
    rfl

theorem code_of_addItems {source : String} {refs : SpeakerRefs} {items : List String} {f : Failure}
    (h : refs.addItems source items = .error f) : f.code = .configuration := by
  induction items generalizing refs with
  | nil => cases h
  | cons item items ih =>
      unfold SpeakerRefs.addItems at h
      cases hitem : SpeakerRefs.readItem source item with
      | ok e =>
          rw [hitem] at h
          exact ih h
      | error f₁ =>
          rw [hitem] at h
          cases h
          exact code_of_readItem hitem

/-- The settings of a job fail as settings only. -/
theorem code_of_load {env : Environment} {cwd : String} {overrides : Value} {f : Failure}
    (h : ProducerConfig.load env cwd overrides = .error f) : f.code = .configuration := by
  unfold ProducerConfig.load at h
  split at h
  · rename_i f₁ hrefs
    cases h
    unfold ProducerConfig.refsOfEnvironment at hrefs
    split at hrefs
    · cases hrefs
    · exact code_of_addItems hrefs
  · split at h
    · cases h
    · cases h
      rfl

/-! ## One part after the other -/

variable {context : JobContext} (id : String) {s s' : Studio}

theorem concluding_of_ok {α : Type} {act : Action α} {a : α} (h : act s = .ok a s') :
    concluding id act s = .ok a s' :=
  bind_of_ok (outcome_of_ok h)

/-- A failure is logged before it comes out. -/
theorem concluding_of_error {α : Type} {act : Action α} {e : Thrown} (h : act s = .error e s') :
    ∃ log, concluding id act s = .error (concluded e) { s' with log := log } := by
  unfold concluding
  rw [bind_of_ok (outcome_of_error h), concluded]
  cases hmessage : e.message? with
  | none => exact ⟨s'.log, writing_bind_of_none hmessage⟩
  | some message => exact ⟨_, writing_bind_of_some hmessage⟩

/-- What is left of a job when it has reported that it has begun. -/
theorem renderJob_of_begun {job : RenderJob} {s₁ : Studio} (h : context.report begun s = .ok () s₁) :
    context.renderJob id job s =
      (do
        let config ← ofExcept (ProducerConfig.load s₁.env s₁.cwd job.overrides)
        let result ← context.render ⟨job.script, config, job.strict.getD false⟩
        context.report done
        inform .info ("Render job " ++ id ++ " finished")
          [("outputPath", .text result.outputPath), ("renderId", .text result.renderId)]
        pure ⟨result.outputPath, result.duration⟩ : Action JobResult) s₁ := by
  unfold renderJob
  rw [bind_of_ok h]
  exact bind_of_ok rfl

theorem renderJob_of_unset {job : RenderJob} {f : Failure} {s₁ : Studio}
    (hreport : context.report begun s = .ok () s₁)
    (hload : ProducerConfig.load s₁.env s₁.cwd job.overrides = .error f) :
    context.renderJob id job s = .error (.failure f) s₁ := by
  rw [renderJob_of_begun id hreport, hload]
  rfl

theorem renderJob_of_error {job : RenderJob} {config : ProducerConfig} {e : Thrown} {s₁ s₂ : Studio}
    (hreport : context.report begun s = .ok () s₁)
    (hload : ProducerConfig.load s₁.env s₁.cwd job.overrides = .ok config)
    (hrender : context.render ⟨job.script, config, job.strict.getD false⟩ s₁ = .error e s₂) :
    context.renderJob id job s = .error e s₂ := by
  rw [renderJob_of_begun id hreport, hload]
  exact (bind_of_ok rfl).trans (bind_of_error hrender)

theorem renderJob_of_ok {job : RenderJob} {config : ProducerConfig} {result : Render.Result}
    {s₁ s₂ s₃ : Studio} (hreport : context.report begun s = .ok () s₁)
    (hload : ProducerConfig.load s₁.env s₁.cwd job.overrides = .ok config)
    (hrender : context.render ⟨job.script, config, job.strict.getD false⟩ s₁ = .ok result s₂)
    (hdone : context.report done s₂ = .ok () s₃) :
    ∃ log, context.renderJob id job s =
      .ok ⟨result.outputPath, result.duration⟩ { s₃ with log := log } := by
  rw [renderJob_of_begun id hreport, hload]
  exact ⟨_, (bind_of_ok rfl).trans ((bind_of_ok hrender).trans (bind_of_ok hdone))⟩

variable (context) in
theorem process_of_refused {payload : Value} {issues : List Issue}
    (h : RenderJob.check payload = .failed issues) (s : Studio) :
    context.process id payload s = .error (.unrecoverable (refusal issues)) s := by
  unfold process
  rw [h]
  rfl

variable (context) in
theorem process_of_job {payload : Value} {job : RenderJob} (h : RenderJob.check payload = .ok job)
    (s : Studio) :
    ∃ log, context.process id payload s =
      concluding id (context.renderJob id job) { s with log := log } := by
  unfold process
  rw [h]
  exact ⟨_, bind_of_ok rfl⟩

/-! ## What is noted on the way -/

theorem Noted.trans {progress₁ progress₂ : List Float} {requests₁ requests₂ : List RenderRequest}
    {s₁ s₂ s₃ : Studio} (h₁ : Noted progress₁ requests₁ s₁ s₂) (h₂ : Noted progress₂ requests₂ s₂ s₃) :
    Noted (progress₁ ++ progress₂) (requests₁ ++ requests₂) s₁ s₃ where
  progress := by rw [h₂.progress, h₁.progress, List.append_assoc]
  requests := by rw [h₂.requests, h₁.requests, List.append_assoc]

/-- The log is not part of what is noted. -/
theorem Noted.of_log {progress : List Float} {requests : List RenderRequest} {log log' : Array LogEntry}
    (h : Noted progress requests { s with log := log } s') :
    Noted progress requests s { s' with log := log' } :=
  ⟨h.progress, h.requests⟩

theorem noted_of_report (h : context.Steady) (progress : Float) (s : Studio) :
    ∃ s₁, context.recorded.report progress s = .ok () s₁ ∧ s₁.env = s.env ∧ s₁.cwd = s.cwd ∧
      Noted [progress] [] s s₁ := by
  obtain ⟨s₁, hreport, henv, hcwd, hprogress, hrequests⟩ := h.report progress s
  refine ⟨s₁, hreport, henv, hcwd, ?_, ?_⟩
  · rw [hprogress, Array.toList_push]
  · rw [hrequests, List.append_nil]

/-- A request is noted, and then the render leaves what is noted. -/
theorem noted_of_render (h : context.Steady) (request : RenderRequest) (s : Studio) :
    ∃ s₁, Noted [] [request] s s₁ ∧ context.recorded.render request s = context.render request s₁ ∧
      Noted [] [] s₁ ((context.render request).after s₁) :=
  ⟨{ s with requests := s.requests.push request },
    ⟨(List.append_nil _).symm, Array.toList_push⟩, bind_of_ok rfl,
    ⟨by rw [h.progress, List.append_nil], by rw [h.requests, List.append_nil]⟩⟩

/-! ## The whole job -/

/-- This is how the action ends when it is begun in `s`. -/
def EndsAs (context : JobContext) (payload : Value) (s : Studio) (act : Action JobResult) : Prop :=
  ∃ answer progress requests, Ends context payload s answer progress requests ∧
    act.answer s = answer ∧ Noted progress requests s (act.after s)

theorem endsAs_of_ok {payload : Value} {act : Action JobResult} {result : JobResult}
    {progress : List Float} {requests : List RenderRequest} (h : act s = .ok result s')
    (hends : Ends context payload s (.ok result) progress requests)
    (hnoted : Noted progress requests s s') : EndsAs context payload s act := by
  refine ⟨_, _, _, hends, answer_of_ok h, ?_⟩
  rwa [after_of_ok h]

theorem endsAs_of_error {payload : Value} {act : Action JobResult} {e : Thrown}
    {progress : List Float} {requests : List RenderRequest} (h : act s = .error e s')
    (hends : Ends context payload s (.error e) progress requests)
    (hnoted : Noted progress requests s s') : EndsAs context payload s act := by
  refine ⟨_, _, _, hends, answer_of_error h, ?_⟩
  rwa [after_of_error h]

theorem endsAs_of_failed {payload : Value} {act : Action JobResult} {request : RenderRequest}
    {e : Thrown} {s₁ s₂ : Studio} {log : Array LogEntry}
    (h : act s = .error (concluded e) { s' with log := log })
    (hasks : Asks s.env s.cwd payload request) (hbefore : Noted [10] [request] s s₁)
    (hrender : context.render request s₁ = .error e s₂) (hafter : Noted [10] [request] s s') :
    EndsAs context payload s act := by
  have hnoted : Noted [10] [request] s { s' with log := log } := ⟨hafter.progress, hafter.requests⟩
  by_cases hlasting : ∃ f, e = .failure f ∧ f.code ≠ .externalTool
  · obtain ⟨f, rfl, hcode⟩ := hlasting
    rw [concluded_of_lasting hcode] at h
    exact endsAs_of_error h (.final hasks hbefore hrender hcode) hnoted
  · have hpassing : ∀ f, e = .failure f → f.code = .externalTool := fun f he =>
      Classical.byContradiction fun hcode => hlasting ⟨f, he, hcode⟩
    rw [concluded_of_passing hpassing] at h
    cases hmessage : e.message? with
    | none =>
        rw [Thrown.told_of_none hmessage] at h
        exact endsAs_of_error h (.lost hasks hbefore hrender hmessage) hnoted
    | some message =>
        rw [Thrown.told_of_some hmessage] at h
        have hwritten : e.message? ≠ none := by
          rw [hmessage]
          nofun
        exact endsAs_of_error h (.passed hasks hbefore hrender hpassing hwritten) hnoted

/-- A job whose settings have been read ends as its render does. -/
theorem endsAs_of_load (h : context.Steady) {payload : Value} {job : RenderJob}
    {config : ProducerConfig} (hcheck : RenderJob.check payload = .ok job) (s : Studio)
    (hload : ProducerConfig.load s.env s.cwd job.overrides = .ok config) :
    EndsAs context payload s (context.recorded.process id payload) := by
  obtain ⟨log, hprocess⟩ := process_of_job context.recorded id hcheck s
  obtain ⟨s₁, hreport, henv, hcwd, hbegun⟩ := noted_of_report h begun { s with log := log }
  have hasks : Asks s.env s.cwd payload _ := ⟨job, config, hcheck, hload, rfl⟩
  replace hload : ProducerConfig.load s₁.env s₁.cwd job.overrides = .ok config := by
    rw [henv, hcwd]
    exact hload
  obtain ⟨s₂, hnoted, hrecorded, hleft⟩ := noted_of_render h
    ⟨job.script, config, job.strict.getD false⟩ s₁
  have hbefore := hbegun.trans hnoted
  cases hrender : context.render ⟨job.script, config, job.strict.getD false⟩ s₂ with
  | ok result s₃ =>
      rw [after_of_ok hrender] at hleft
      obtain ⟨s₄, hdone, -, -, hended⟩ := noted_of_report h done s₃
      obtain ⟨_, hjob⟩ := renderJob_of_ok id hreport hload (hrecorded.trans hrender) hdone
      exact endsAs_of_ok (hprocess.trans (concluding_of_ok id hjob))
        (.rendered hasks hbefore.of_log hrender) (hbefore.trans (hleft.trans hended)).of_log
  | error e s₃ =>
      rw [after_of_error hrender] at hleft
      obtain ⟨_, hend⟩ := concluding_of_error id
        (renderJob_of_error id hreport hload (hrecorded.trans hrender))
      exact endsAs_of_failed (hprocess.trans hend) hasks hbefore.of_log hrender
        (hbefore.trans hleft).of_log

theorem endsAs_of_process (h : context.Steady) (payload : Value) (s : Studio) :
    EndsAs context payload s (context.recorded.process id payload) := by
  cases hcheck : RenderJob.check payload with
  | failed issues =>
      exact endsAs_of_error (process_of_refused context.recorded id hcheck s) (.refused hcheck)
        ⟨(List.append_nil _).symm, (List.append_nil _).symm⟩
  | ok job =>
      cases hload : ProducerConfig.load s.env s.cwd job.overrides with
      | error f =>
          obtain ⟨log, hprocess⟩ := process_of_job context.recorded id hcheck s
          obtain ⟨s₁, hreport, henv, hcwd, hbegun⟩ := noted_of_report h begun { s with log := log }
          have hend : ProducerConfig.load s₁.env s₁.cwd job.overrides = .error f := by
            rw [henv, hcwd]
            exact hload
          obtain ⟨_, hend⟩ := concluding_of_error id (renderJob_of_unset id hreport hend)
          rw [← hprocess, concluded_of_lasting (by simp [code_of_load hload])] at hend
          exact endsAs_of_error hend (.unset hcheck hload) hbegun.of_log
      | ok config => exact endsAs_of_load id h hcheck s hload

/-! ## The worker's own jobs -/

/-- Why a job would fail again, and with which message it is given up. -/
inductive Hopeless (context : JobContext) (payload : Value) (s : Studio) : String → Prop where
  | payload {issues : List Issue} :
      RenderJob.check payload = .failed issues → Hopeless context payload s (refusal issues)
  | settings {job : RenderJob} {f : Failure} :
      RenderJob.check payload = .ok job →
      ProducerConfig.load s.env s.cwd job.overrides = .error f →
      Hopeless context payload s f.message
  | render {request : RenderRequest} {f : Failure} {s₁ s₂ : Studio} :
      Asks s.env s.cwd payload request →
      context.render request s₁ = .error (.failure f) s₂ →
      f.code ∈ Render.lasting →
      Hopeless context payload s f.message

theorem hopeless_or_passing {programs : Programs} {voicegen : VoicegenConfig} {payload : Value}
    {e : Thrown} {progress : List Float} {requests : List RenderRequest}
    (h : Ends (Worker.context programs voicegen) payload s (.error e) progress requests) :
    (∃ message, e = .unrecoverable message ∧
      Hopeless (Worker.context programs voicegen) payload s message) ∨ e.ByTool := by
  have hown := Programs.raisesOwn_programs programs voicegen
  cases h with
  | refused hcheck => exact .inl ⟨_, rfl, .payload hcheck⟩
  | unset hcheck hload => exact .inl ⟨_, rfl, .settings hcheck hload⟩
  | final hasks _ hrender hcode =>
      refine .inl ⟨_, rfl, .render hasks hrender ?_⟩
      rcases Render.raises_of_render hown hrender with
        ⟨f, hf, hlasting⟩ | ⟨tool, message, cause, hf⟩ | ⟨error, herror⟩
      · obtain rfl := Thrown.failure.inj hf
        exact hlasting
      · obtain rfl := Thrown.failure.inj hf
        exact absurd rfl hcode
      · cases herror
  | passed _ _ hrender hpassing =>
      rcases Render.raises_of_render hown hrender with ⟨f, rfl, hlasting⟩ | hother
      · rw [hpassing f rfl] at hlasting
        exact absurd hlasting (by decide)
      · exact .inr hother
  | lost => exact .inr (.inr ⟨_, rfl⟩)

/-- Every job has one of the six endings, whatever its payload is and whatever the render raises. A
job of the worker itself is given up just when its payload, its settings or its script is at fault, and
otherwise a tool has crashed or an operation on files has failed. -/
theorem process_ends :
    (∀ context : JobContext, context.Steady → ∀ id payload s,
      EndsAs context payload s (context.recorded.process id payload)) ∧
    ∀ programs voicegen payload s e progress requests,
      Ends (Worker.context programs voicegen) payload s (.error e) progress requests →
      (∃ message, e = .unrecoverable message ∧
        Hopeless (Worker.context programs voicegen) payload s message) ∨
      e.OfTool ∨ ∃ error, e = .error error :=
  ⟨fun _ h id payload s => endsAs_of_process id h payload s,
    fun _ _ _ _ _ _ _ h => hopeless_or_passing h⟩

/-- Every script is found empty. -/
def unnarrated : JobContext where
  render _ := fail .emptyDocument
  report := reportProgress

/-- A script with a title and nothing else. -/
def untold : Value :=
  .record [("script", .text "@title The Night")]

theorem process_ends_unnarrated :
    unnarrated.Steady ∧ EndsAs unnarrated untold .empty (unnarrated.recorded.process "7" untold) := by
  have hsteady : unnarrated.Steady :=
    ⟨fun _ _ => ⟨_, rfl, rfl, rfl, rfl, rfl⟩, fun _ _ => rfl, fun _ _ => rfl⟩
  exact ⟨hsteady, process_ends.1 unnarrated hsteady "7" untold .empty⟩

/-- A record whose own field stands in the way of writing it out. -/
def mute : Value :=
  .record [("toString", .null)]

/-- Every render raises a value that cannot be written out. -/
def stubborn : JobContext where
  render _ := throw (.value mute)
  report := reportProgress

theorem load_untold : ∃ config, ProducerConfig.load Studio.empty.env Studio.empty.cwd
    (⟨"@title The Night", none, none, none, none⟩ : RenderJob).overrides = .ok config := by
  have hcheck : ProducerConfig.check (ProducerConfig.chosen Studio.empty.env
      (⟨"@title The Night", none, none, none, none⟩ : RenderJob).overrides .empty) =
        .ok ⟨"assets", "out", .empty, 0, -18, -22⟩ := by
    refine Checked.seq_eq_ok.2 ⟨_, _, Checked.seq_eq_ok.2 ⟨_, _, Checked.seq_eq_ok.2 ⟨_, _,
      Checked.seq_eq_ok.2 ⟨_, _, Checked.seq_eq_ok.2 ⟨_, _, Checked.map_eq_ok.2 ⟨_, rfl, rfl⟩, rfl, rfl⟩,
        ?_, rfl⟩, rfl, rfl⟩, rfl, rfl⟩, rfl, rfl⟩
    exact Check.field_eq_ok.2
      (Check.refs_eq_ok.2 ⟨[], Entries.inOrder_of_placeless (List.forall_mem_nil _), by decide, rfl⟩)
  have hrefs : ProducerConfig.refsOfEnvironment Studio.empty.env = .ok .empty := rfl
  rw [ProducerConfig.load, hrefs]
  dsimp only
  rw [hcheck]
  exact ⟨_, rfl⟩

/-- What the render raises does not come out of the job, and what comes out instead was not raised by the
render. -/
theorem not_passed_stubborn :
    stubborn.Steady ∧
    (∀ request s, (stubborn.render request).answer s = .error (.value mute)) ∧
    (stubborn.process "7" untold).answer .empty = .error .unwritable ∧
    Thrown.unwritable ≠ .value mute := by
  refine ⟨⟨fun _ _ => ⟨_, rfl, rfl, rfl, rfl, rfl⟩, fun _ _ => rfl, fun _ _ => rfl⟩, fun _ _ => rfl,
    ?_, nofun⟩
  have hcheck : RenderJob.check untold = .ok ⟨"@title The Night", none, none, none, none⟩ := rfl
  obtain ⟨config, hload⟩ := load_untold
  obtain ⟨log, hprocess⟩ := process_of_job stubborn "7" hcheck .empty
  have hreport (s : Studio) :
      stubborn.report begun s = .ok () { s with progress := s.progress.push begun } := rfl
  obtain ⟨_, hend⟩ := concluding_of_error "7"
    (renderJob_of_error "7" (hreport { Studio.empty with log := log }) hload rfl)
  rw [concluded_of_none rfl] at hend
  exact answer_of_error (hprocess.trans hend)

end JobContext

end StoryMix
