import StoryMix.Proofs.Rehearsal.Tools
import StoryMix.Proofs.Render.Account
import StoryMix.Proofs.Render.Course
import StoryMix.Proofs.Timeline.Plan

/-!
# A render stops at the first failure

The calls of a render that succeeds are planned: the working directory is made, the build makes its
calls, the mixer is called, and the mix is published in three calls. A render that fails has kept to
this plan up to the call that failed, or up to a check that failed between two calls. After that it
only cleans up. So no call is made again after it failed, and none is made whose turn has not come:
the mixer is not called before the last segment is there, and the output directory is left alone until
the mixer has answered (`Kept`).
-/

namespace StoryMix

namespace Call

def isMix : Call → Bool
  | mix _ => true
  | _ => false

/-- A call that brings the mix to the output directory. -/
def publishes : Call → Bool
  | makeDir _ | copy _ _ | rename _ _ => true
  | _ => false

end Call

namespace Render

/-! ## The plan -/

section

variable (config : ProducerConfig) (id workDir : String) (events : List Event)

/-- Where the mix of a script is staged. -/
def stagedMix : String :=
  Path.join [workDir, Mix.outputFileName (Timeline.titleOf events)]

/-- The calls that have to be answered before the mixer is called. -/
def gatheringCalls (files : List String) : List Call :=
  .makeTempDir (workDirStart id) :: Timeline.buildCalls config workDir events files

def publishingCalls (staged outDir fileName : String) : List Call :=
  let path := Path.join [outDir, fileName]
  [.makeDir outDir, .copy staged (unfinishedPath path id), .rename (unfinishedPath path id) path]

/-- The calls of a render that succeeds, if the voice answers with these files. -/
def plan (files : List String) : List Call :=
  gatheringCalls config id workDir events files ++
    .mix (stagedMix workDir events) ::
      publishingCalls id (stagedMix workDir events) config.outDir
        (Mix.outputFileName (Timeline.titleOf events))

end

/-- What is removed when a render has stopped at this call, or at none: the unfinished file if this
was to be finished, and the working directory if it was made. -/
def cleaning (workDir : String) : Option Call → List Call
  | some (.makeTempDir _) => []
  | some (.copy _ unfinished) => [.remove unfinished, .remove workDir]
  | some (.rename unfinished _) => [.remove unfinished, .remove workDir]
  | _ => [.remove workDir]

/-- What is removed after a course has broken off. -/
def Break.removals (b : Break) : List Call :=
  (b.unfinished.toList ++ b.workDir.toList).map .remove

/-- These steps and then the call that has failed, if it is a call, are as planned. -/
structure Kept (config : ProducerConfig) (id workDir : String) (events : List Event)
    (steps : List Step) (halt : Option Call) : Prop where
  planned : callsOf steps ++ halt.toList <+: plan config id workDir events (voicedIn steps)
  mixedOnce : (callsOf steps ++ halt.toList).countP Call.isMix ≤ 1
  /-- When the mixer is called, all that was to be made before has been made. -/
  mixed : ∀ path, .mix path ∈ callsOf steps ++ halt.toList →
    gatheringCalls config id workDir events (voicedIn steps) <+: callsOf steps
  /-- When the output directory is touched, the mixer has answered. -/
  published : ∀ c ∈ callsOf steps ++ halt.toList, c.publishes = true →
    gatheringCalls config id workDir events (voicedIn steps) ++ [.mix (stagedMix workDir events)] <+:
      callsOf steps

/-- If something beyond `xs` has been reached, all of `xs` has been answered. -/
theorem prefix_of_reached {α : Type} {xs ys done : List α} {halt : Option α} {a : α}
    (h : done ++ halt.toList <+: xs ++ ys) (ha : a ∈ done ++ halt.toList) (hxs : a ∉ xs) :
    xs <+: done := by
  rcases List.prefix_or_prefix_of_prefix h (List.prefix_append xs ys) with h | h
  · exact absurd (h.subset ha) hxs
  cases halt with
  | none => simpa using h
  | some b =>
      rcases List.prefix_concat_iff.1 h with rfl | h
      · exact absurd ha hxs
      · exact h

section Plan

variable {config : ProducerConfig} {id workDir : String} {events : List Event} {files : List String}
  {c : Call}

theorem not_mem_gatheringCalls (h : c.isMix = true ∨ c.publishes = true) :
    c ∉ gatheringCalls config id workDir events files := by
  intro hc
  rcases List.mem_cons.1 hc with rfl | hc
  · cases h <;> contradiction
  · have hgathers := Timeline.gathers_of_mem_buildCalls hc
    cases c <;> simp_all [Call.gathers, Call.isMix, Call.publishes]

theorem countP_isMix_plan : (plan config id workDir events files).countP Call.isMix = 1 := by
  have hnone : (gatheringCalls config id workDir events files).countP Call.isMix = 0 := by
    rw [List.countP_eq_zero]
    intro c hc hmix
    exact not_mem_gatheringCalls (.inl hmix) hc
  rw [plan, List.countP_append, hnone]
  rfl

theorem Kept.of_planned {steps : List Step} {halt : Option Call}
    (h : callsOf steps ++ halt.toList <+: plan config id workDir events (voicedIn steps)) :
    Kept config id workDir events steps halt where
  planned := h
  mixedOnce := h.sublist.countP_le.trans countP_isMix_plan.le
  mixed path hpath := prefix_of_reached h hpath (not_mem_gatheringCalls (.inl rfl))
  published c hc hpublishes := by
    have hmix : c ≠ .mix (stagedMix workDir events) := by
      rintro rfl
      cases hpublishes
    rw [plan, List.append_cons] at h
    refine prefix_of_reached h hc fun hmem => ?_
    rcases List.mem_append.1 hmem with hmem | hmem
    · exact not_mem_gatheringCalls (.inr hpublishes) hmem
    · exact hmix (List.mem_singleton.1 hmem)

end Plan

/-! ## Where the plan is left -/

variable {tools : Tools} {config : ProducerConfig} {id workDir : String} {events : List Event}
  {s s' : Studio} {b : Break}

theorem cleaning_of_gathers {c : Call} (h : c.gathers = true) :
    cleaning workDir (some c) = [.remove workDir] := by
  cases c <;> first | rfl | cases h

theorem stopped_of_unpublished {staged outDir fileName : String}
    (h : Unpublished staged outDir fileName id workDir s b s') :
    ∃ (steps : List Step) (c : Call) (s₁ : Studio), Runs tools steps s s₁ ∧
      c.Fails tools b.raised s₁ s' ∧ voicedIn steps = [] ∧
      callsOf steps ++ [c] <+: publishingCalls id staged outDir fileName ∧
      cleaning workDir (some c) = b.removals := by
  cases h with
  | outDir hdir =>
      exact ⟨[], .makeDir outDir, s, rfl, hdir, rfl, List.prefix_append [_] _, rfl⟩
  | copy hdir hcopy =>
      exact ⟨[.makeDir outDir], .copy staged _, _, ⟨_, hdir, rfl⟩, hcopy, rfl,
        List.prefix_append [_, _] _, rfl⟩
  | rename hdir hcopy hrename =>
      exact ⟨[.makeDir outDir, .copy staged _], .rename _ (Path.join [outDir, fileName]), _,
        ⟨_, hdir, _, hcopy, rfl⟩, hrename, rfl, List.prefix_append [_, _, _] _, rfl⟩

/-- The title of the script names the mix. -/
theorem staged_eq {t : Timeline} {graph : Mix.Graph} {s₁ : Studio}
    (hbuild : Timeline.build tools config workDir events s = .ok t s₁)
    (hcompile : Mix.compile t config = .ok graph) :
    graph.output.fileName = Mix.outputFileName (Timeline.titleOf events) := by
  obtain ⟨r, rfl, -, -, rfl⟩ := Timeline.build_eq_ok_iff.1 hbuild
  exact (Mix.compile_eq_ok hcompile).2.2

theorem stopped_of_unproduced (h : Unproduced tools id config events workDir s b s') :
    ∃ (steps : List Step) (halt : Option Call) (s₁ : Studio), Runs tools steps s s₁ ∧
      Halts tools s₁ halt b.raised s' ∧
      .makeTempDir (workDirStart id) :: (callsOf steps ++ halt.toList) <+:
        plan config id workDir events (voicedIn steps) ∧
      cleaning workDir halt = b.removals := by
  cases h with
  | timeline hbuild =>
      obtain ⟨steps, halt, s₁, hstops, hruns, hhalts⟩ := Timeline.build_eq_error hbuild
      have hplanned := Timeline.planned_of_buildStops hstops
      refine ⟨steps, halt, s₁, hruns, hhalts, ?_, ?_⟩
      · exact ((List.prefix_cons_inj _).2 hplanned).trans (List.prefix_append ..)
      · cases halt with
        | none => rfl
        | some c =>
            exact cleaning_of_gathers
              (Timeline.gathers_of_mem_buildCalls (hplanned.subset (by simp)))
  | graph hbuild hcompile =>
      obtain ⟨r, rfl, hfits, hruns, rfl⟩ := Timeline.build_eq_ok_iff.1 hbuild
      refine ⟨_, none, s', hruns, .check _, ?_, rfl⟩
      rw [Timeline.callsOf_recording hfits, Option.toList_none, List.append_nil]
      exact List.prefix_append ..
  | mix hbuild hcompile hmix =>
      have hname := staged_eq hbuild hcompile
      obtain ⟨r, rfl, hfits, hruns, rfl⟩ := Timeline.build_eq_ok_iff.1 hbuild
      rw [hname] at hmix
      refine ⟨_, some (.mix (stagedMix workDir r.events)), _, hruns, .call ⟨_, hmix⟩, ?_, rfl⟩
      rw [Timeline.callsOf_recording hfits]
      exact (List.prefix_append_right_inj (gatheringCalls ..)).2 (List.prefix_append [_] _)
  | publishing hbuild hcompile hmix hpublish =>
      have hname := staged_eq hbuild hcompile
      obtain ⟨r, rfl, hfits, hruns, rfl⟩ := Timeline.build_eq_ok_iff.1 hbuild
      rw [hname] at hmix hpublish
      obtain ⟨steps, c, s₁, hrest, hfails, hvoiced, hplanned, hcleaning⟩ :=
        stopped_of_unpublished hpublish
      rename_i graph mixed _ _
      have hmixed : voicedIn (.use (.mix graph (stagedMix workDir r.events) mixed) :: steps) = [] :=
        hvoiced
      refine ⟨r.steps config.assetsDir ++
        .use (.mix graph (stagedMix workDir r.events) mixed) :: steps, some c, s₁, ?_, .call hfails,
        ?_, hcleaning⟩
      · exact runs_append.2 ⟨_, hruns, _, hmix, hrest⟩
      · rw [callsOf_append, voicedIn_append, hmixed, List.append_nil,
          Timeline.callsOf_recording hfits, List.append_assoc]
        exact (List.prefix_append_right_inj (gatheringCalls ..)).2
          ((List.prefix_cons_inj _).2 hplanned)

/-! ## The whole render -/

variable {request : RenderRequest}

/-- The working directory of the next render. -/
def nextWorkDir (s : Studio) : String :=
  workDirStart (idOf (s.renders + 1)) ++ "tmp" ++ Numeral.natText (s.tempDirs + 1)

/-- What a render does before it makes a call. -/
def uncalled (request : RenderRequest) (id : String) (events : List Event) : List Step :=
  [.begin,
   .log ⟨.info, tag id ++ "Starting",
    [.record [("chars", .ofNat (Text.unitLength request.script)),
      ("outDir", .text request.config.outDir)]]⟩,
   .log ⟨.info, tag id ++ "Parsed " ++ Numeral.natText events.length ++ " events", []⟩]

theorem runs_uncalled (tools : Tools) (request : RenderRequest) (s : Studio) (events : List Event) :
    Runs tools (uncalled request (idOf (s.renders + 1)) events) s
      (parsed (idOf (s.renders + 1)) events (opened request s)) :=
  ⟨_, rfl, _, rfl, _, rfl, rfl⟩

theorem stopped_of_course (hparse : Script.parse request.strict request.script = .ok events)
    (h : course tools request s = .error b s') :
    ∃ (steps : List Step) (halt : Option Call) (s₁ : Studio), Runs tools steps s s₁ ∧
      Halts tools s₁ halt b.raised s' ∧
      callsOf steps ++ halt.toList <+:
        plan request.config (idOf (s.renders + 1)) (nextWorkDir s) events (voicedIn steps) ∧
      cleaning (nextWorkDir s) halt = b.removals := by
  rw [course_eq] at h
  rcases course_bind_eq_error h with hprepare | ⟨⟨read, workDir⟩, s₂, hprepare, hproduce⟩
  · cases unprepared_of_preparing hprepare with
    | script hfault =>
        rw [hparse] at hfault
        cases hfault
    | workDir hread hdir =>
        cases hparse.symm.trans hread
        exact ⟨_, some (.makeTempDir _), _, runs_uncalled tools request s events, .call hdir,
          List.prefix_append [_] _, rfl⟩
  · have hprepare : prepare (idOf (s.renders + 1)) request (opened request s) =
        .ok (read, workDir) s₂ := by
      rw [prepare_eq, withdrawing, hprepare]
    obtain ⟨hread, -, hworkDir, -⟩ := prepare_eq_ok_files hprepare
    obtain rfl : workDir = nextWorkDir s := hworkDir
    cases hparse.symm.trans hread
    obtain ⟨-, hbefore⟩ := (@prepare_eq_ok tools _ _ _ _ _ _).1 hprepare
    obtain ⟨steps, halt, s₁, hruns, hhalts, hplanned, hcleaning⟩ :=
      stopped_of_unproduced (unproduced_of_producing hproduce)
    refine ⟨uncalled request (idOf (s.renders + 1)) events ++ .makeTempDir _ (nextWorkDir s) :: steps,
      halt, s₁, ?_, hhalts, hplanned, hcleaning⟩
    obtain ⟨_, rfl, s₃, hdir, rfl⟩ := hbefore
    exact runs_append.2 ⟨_, runs_uncalled tools request s events, _, hdir, hruns⟩

/-- A production that gets through makes the planned calls, once its working directory is there. -/
theorem Session.callsOf_produced {a : Session} (id : String)
    (hrecorded : a.recording.Fits request.config a.workDir)
    (hcompiled : Mix.compile a.recording.timeline request.config = .ok a.graph) :
    .makeTempDir (workDirStart id) ::
        callsOf (a.recording.steps request.config.assetsDir ++ a.closing request id) =
      plan request.config id a.workDir a.recording.events
        (voicedIn (a.recording.steps request.config.assetsDir ++ a.closing request id)) := by
  have hname : a.graph.output.fileName =
      Mix.outputFileName (Timeline.titleOf a.recording.events) :=
    (Mix.compile_eq_ok hcompiled).2.2
  have hclosing : voicedIn (a.closing request id) = [] := rfl
  have hpublishing : callsOf (a.closing request id) =
      .mix a.staged :: publishingCalls id a.staged request.config.outDir a.graph.output.fileName :=
    rfl
  rw [callsOf_append, voicedIn_append, hclosing, List.append_nil,
    Timeline.callsOf_recording hrecorded, hpublishing, Session.staged, hname]
  rfl

/-- A session makes the planned calls. -/
theorem Session.callsOf_steps {a : Session} (hfits : a.Fits request)
    (hworkDir : a.workDir = workDir) :
    callsOf (a.steps request id) =
      plan request.config id workDir a.recording.events (voicedIn (a.steps request id)) := by
  subst hworkDir
  have hopening : voicedIn (a.opening request id) = [] := rfl
  rw [Session.steps, voicedIn_append, hopening, List.nil_append,
    ← Session.callsOf_produced id hfits.recorded hfits.compiled]
  rfl

/-! ## What is on record -/

theorem adds_removeWorkDir (id workDir : String) (s : Studio) :
    Adds [.remove workDir] s ((removeWorkDir id workDir).after s) := by
  have hremove := Files.adds_remove workDir s
  unfold Action.after removeWorkDir at *
  cases hfile : Files.remove workDir s with
  | ok u s₁ =>
      rw [hfile] at hremove
      rw [Action.bind_of_ok (Action.outcome_of_ok hfile)]
      exact hremove
  | error e s₁ =>
      obtain ⟨-, message, -, rfl⟩ := Files.remove_eq_error hfile
      rw [hfile] at hremove
      rw [Action.bind_of_ok (Action.outcome_of_error hfile)]
      exact hremove

theorem adds_withdrawn (b : Break) (s : Studio) :
    Adds (b.unfinished.toList.map .remove) s (b.withdrawn s) := by
  unfold Break.withdrawn
  cases b.unfinished with
  | none => exact .of_eq rfl
  | some path => exact Files.adds_removeFile path s

theorem adds_reported (b : Break) (id : String) (s : Studio) :
    Adds (b.unfinished.toList.map .remove) s (b.reported id s) := by
  unfold Break.reported
  cases (b.passed s).message? with
  | none => exact adds_withdrawn b s
  | some message => exact adds_withdrawn b s

theorem adds_ended (b : Break) (id : String) (s : Studio) :
    Adds b.removals s (b.ended id s) := by
  unfold Break.removals Break.ended
  rw [List.map_append]
  refine (adds_reported b id s).trans ?_
  cases b.workDir with
  | none => exact .of_eq rfl
  | some workDir => exact adds_removeWorkDir id workDir _

/-- The end of a render that runs these steps up to `s₁`: they are all that was planned and only the
working directory is removed after them, or the next call fails or a check does, and only what is to
be cleaned up is removed after that. -/
inductive Ends (tools : Tools) (request : RenderRequest) (events : List Event) (s : Studio)
    (steps : List Step) (s₁ : Studio) : Option Call → Prop where
  | through {result : Result} :
      callsOf steps =
        plan request.config (idOf (s.renders + 1)) (nextWorkDir s) events (voicedIn steps) →
      render tools request s =
        .ok result ((removeWorkDir (idOf (s.renders + 1)) (nextWorkDir s)).after s₁) →
      Ends tools request events s steps s₁ none
  | halted {halt : Option Call} {b : Break} {s₂ : Studio} :
      Halts tools s₁ halt b.raised s₂ →
      cleaning (nextWorkDir s) halt = b.removals →
      render tools request s = .error (b.comesOut s₂) (b.ended (idOf (s.renders + 1)) s₂) →
      Ends tools request events s steps s₁ halt

theorem adds_of_ends {steps : List Step} {halt : Option Call} {s₁ : Studio} (hquiet : tools.Quiet)
    (hruns : Runs tools.recorded steps s s₁)
    (h : Ends tools.recorded request events s steps s₁ halt) :
    Adds (callsOf steps ++ halt.toList ++ cleaning (nextWorkDir s) halt) s
      ((render tools.recorded request).after s) := by
  cases h with
  | through _ hrender =>
      rw [Action.after_of_ok hrender, Option.toList_none, List.append_nil]
      exact (adds_of_runs hquiet hruns).trans (adds_removeWorkDir _ _ s₁)
  | halted hhalts hcleaning hrender =>
      rw [Action.after_of_error hrender, hcleaning]
      exact ((adds_of_runs hquiet hruns).trans (adds_of_halts hquiet hhalts)).trans (adds_ended ..)

/-- A render whose script cannot be read calls nothing. Any other runs the planned calls up to the
first that fails, or to a check that does, and after that it only cleans up; the record of its calls
says the same, if one is kept. -/
theorem fail_fast (tools : Tools) (request : RenderRequest) (s : Studio) :
    (∀ fault, Script.parse request.strict request.script = .error fault →
      ∃ s', render tools request s = .error (.failure fault.failure) s' ∧ s'.tree = s.tree ∧
        s'.calls = s.calls) ∧
    (∀ events, Script.parse request.strict request.script = .ok events →
      ∃ (steps : List Step) (halt : Option Call) (s₁ : Studio), Runs tools steps s s₁ ∧
        Kept request.config (idOf (s.renders + 1)) (nextWorkDir s) events steps halt ∧
        Ends tools request events s steps s₁ halt ∧
        ∀ kept : Tools, kept.Quiet → tools = kept.recorded →
          Adds (callsOf steps ++ halt.toList ++ cleaning (nextWorkDir s) halt) s
            ((render tools request).after s)) := by
  constructor
  · intro fault hfault
    exact ⟨_, render_of_course_eq_error (course_of_fault hfault), rfl, rfl⟩
  intro events hparse
  suffices h : ∃ (steps : List Step) (halt : Option Call) (s₁ : Studio), Runs tools steps s s₁ ∧
      Kept request.config (idOf (s.renders + 1)) (nextWorkDir s) events steps halt ∧
      Ends tools request events s steps s₁ halt by
    obtain ⟨steps, halt, s₁, hruns, hkept, hends⟩ := h
    refine ⟨steps, halt, s₁, hruns, hkept, hends, ?_⟩
    rintro kept hquiet rfl
    exact adds_of_ends hquiet hruns hends
  cases hrender : render tools request s with
  | ok result s' =>
      obtain ⟨a, s₁, hfits, hruns, hremove, rfl⟩ := render_eq_ok_iff.1 hrender
      cases hparse.symm.trans hfits.parsed
      have hworkDir : a.workDir = nextWorkDir s := by
        obtain ⟨_, rfl, _, rfl, _, rfl, s₂, hdir, -⟩ := hruns
        exact (Files.makeTempDir_eq_ok hdir).2.1
      have hcalls : callsOf (a.steps request (idOf (s.renders + 1))) = plan .. :=
        Session.callsOf_steps hfits hworkDir
      have hdone := hrender
      rw [← Action.after_of_ok hremove, hworkDir] at hdone
      refine ⟨_, none, s₁, hruns, .of_planned ⟨[], ?_⟩, .through hcalls hdone⟩
      rw [Option.toList_none, List.append_nil, List.append_nil, hcalls]
  | error e s' =>
      obtain ⟨b, s₂, hcourse⟩ := course_eq_error_of_render hrender
      obtain ⟨steps, halt, s₁, hruns, hhalts, hplanned, hcleaning⟩ :=
        stopped_of_course hparse hcourse
      exact ⟨steps, halt, s₁, hruns, .of_planned hplanned,
        .halted hhalts hcleaning (render_of_course_eq_error hcourse)⟩

/-- A request for two lines. -/
def duet : RenderRequest :=
  ⟨"@title: Duet\nRuby: Hello\nRuby: Bye", .soloist "Ruby" "/ruby.wav", true⟩

/-- The voice is lost on the second line of the duet. -/
def voiceLost : Tools :=
  Rehearsal.tools { Rehearsal.plain with failVoiceOn := some "Bye" }

theorem fail_fast_voiceLost :
    ∃ (events : List Event) (steps : List Step) (halt : Option Call),
      Script.parse duet.strict duet.script = .ok events ∧
        Kept duet.config (idOf 1) (nextWorkDir .empty) events steps halt ∧
        Adds (callsOf steps ++ halt.toList ++ cleaning (nextWorkDir .empty) halt) .empty
          ((render voiceLost.recorded duet).after .empty) := by
  have hread : (Script.parse duet.strict duet.script).toBool = true := by decide +kernel
  cases hparse : Script.parse duet.strict duet.script with
  | error fault =>
      rw [hparse] at hread
      cases hread
  | ok events =>
      obtain ⟨steps, halt, s₁, -, hkept, -, hrecord⟩ :=
        (fail_fast voiceLost.recorded duet .empty).2 events hparse
      exact ⟨events, steps, halt, rfl, hkept, hrecord voiceLost (Rehearsal.quiet_tools _) rfl⟩

/-- The directory, the first line spoken and measured, the second line, and the directory again. -/
example : ((render voiceLost.recorded duet).after .empty).calls.size = 5 := by decide +kernel

end Render

end StoryMix
