import StoryMix.Proofs.Render.FailFast
import StoryMix.Proofs.Render.Places
import StoryMix.Proofs.Timeline.Outputs

/-!
# Where a render puts its files

Of all that a render writes no two things get in each other's way. Each segment has a place of its own
right in the working directory, the mix has another one there, and the finished file and the copy that
is to become it have two right in the output directory. Titles and speakers are part of the names, and
whatever they are they lead nowhere else.

All of this is read off the calls. A production that is cut short has made the first of those that are
planned and then at most taken a copy away (`adds_produce`), so it is proved of the plan.
-/

namespace StoryMix

namespace Render

variable {tools : Tools} {request : RenderRequest} {id workDir : String} {events : List Event}

/-- The places that the calls of a production lead to. -/
structure Separates (request : RenderRequest) (id workDir : String) (events : List Event)
    (calls : List Call) : Prop where
  /-- No segment is made where another one is. -/
  segments : (segmentPaths calls).Pairwise Path.Apart
  within : ∀ path ∈ segmentPaths calls, Path.ChildOf workDir path
  mixed : ∀ path, .mix path ∈ calls → path = stagedMix workDir events
  staged : Path.ChildOf workDir (stagedMix workDir events)
  /-- The mix is not made where a segment is. -/
  unmixed : ∀ path ∈ segmentPaths calls, Path.Apart path (stagedMix workDir events)
  copied : ∀ source target, .copy source target ∈ calls →
    source = stagedMix workDir events ∧ target = unfinishedPath (outputOf request events) id
  renamed : ∀ source target, .rename source target ∈ calls →
    source = unfinishedPath (outputOf request events) id ∧ target = outputOf request events
  unfinished : Path.ChildOf request.config.outDir (unfinishedPath (outputOf request events) id)
  output : Path.ChildOf request.config.outDir (outputOf request events)
  /-- The copy does not touch what it is to become. -/
  unpublished : Path.Apart (unfinishedPath (outputOf request events) id) (outputOf request events)

/-! ## The plan -/

theorem segmentPaths_plan (config : ProducerConfig) (id workDir : String) (events : List Event)
    (files : List String) :
    segmentPaths (plan config id workDir events files) =
      (Timeline.segmentNames 0 events).map fun name => Path.join [workDir, name] := by
  have hgathering : segmentPaths (gatheringCalls config id workDir events files) =
      segmentPaths (Timeline.buildCalls config workDir events files) := rfl
  have hrest (staged outDir fileName : String) :
      segmentPaths (.mix staged :: publishingCalls id staged outDir fileName) = [] := rfl
  rw [plan, segmentPaths_append, hrest, List.append_nil, hgathering,
    Timeline.segmentPaths_buildCalls]

/-- A call that is planned and not made for the timeline is the mix or one of the last three. -/
theorem mem_plan {config : ProducerConfig} {files : List String} {c : Call}
    (h : c ∈ plan config id workDir events files) (hlate : c.isMix = true ∨ c.publishes = true) :
    c ∈ .mix (stagedMix workDir events) ::
      publishingCalls id (stagedMix workDir events) config.outDir
        (Mix.outputFileName (Timeline.titleOf events)) :=
  (List.mem_append.1 h).resolve_left (not_mem_gatheringCalls hlate)

theorem separates_plan (hid : '/' ∉ id.toList) (files : List String) :
    Separates request id workDir events (plan request.config id workDir events files) := by
  have hfile := Mix.plain_outputFileName (Timeline.titleOf events)
  have hunfinished := unfinishedPath_eq hid request.config.outDir hfile
  have hplain := plain_unfinishedName hid hfile
  exact {
    segments := by
      rw [segmentPaths_plan]
      exact Timeline.pairwise_apart_segmentNames workDir 0 events
    within := by
      intro path hpath
      rw [segmentPaths_plan] at hpath
      exact Timeline.childOf_of_mem_segmentNames hpath
    mixed := by
      intro path hpath
      simpa [publishingCalls] using mem_plan hpath (.inl rfl)
    staged := Path.childOf_join workDir hfile
    unmixed := by
      intro path hpath
      rw [segmentPaths_plan] at hpath
      exact Timeline.apart_output_of_mem_segmentNames hpath _
    copied := by
      intro source target hcopy
      simpa [publishingCalls, outputOf] using mem_plan hcopy (.inr rfl)
    renamed := by
      intro source target hrename
      simpa [publishingCalls, outputOf] using mem_plan hrename (.inr rfl)
    unfinished := by
      rw [outputOf, hunfinished]
      exact Path.childOf_join _ hplain
    output := Path.childOf_join _ hfile
    unpublished := by
      rw [outputOf, hunfinished]
      exact Path.apart_join _ hplain hfile (unfinishedName_ne _ _ _) }

/-- Fewer calls have no more to keep apart, and what is removed is not written. -/
theorem Separates.of_sublist {calls whole : List Call}
    (h : Separates request id workDir events whole) (hcalls : calls.Sublist whole)
    (removals : List String) :
    Separates request id workDir events (calls ++ removals.map .remove) := by
  have hpaths : (segmentPaths (calls ++ removals.map .remove)).Sublist (segmentPaths whole) := by
    have hnone : segmentPaths (removals.map .remove) = [] := by
      refine List.filterMap_eq_nil_iff.2 fun call hcall => ?_
      obtain ⟨path, -, rfl⟩ := List.mem_map.1 hcall
      rfl
    rw [segmentPaths_append, hnone, List.append_nil]
    exact hcalls.filterMap _
  have hmem (c : Call) (hc : ∀ path, c ≠ .remove path)
      (hmade : c ∈ calls ++ removals.map .remove) : c ∈ whole := by
    rcases List.mem_append.1 hmade with hmade | hmade
    · exact hcalls.subset hmade
    · obtain ⟨path, -, rfl⟩ := List.mem_map.1 hmade
      exact absurd rfl (hc path)
  exact { h with
    segments := h.segments.sublist hpaths
    within := fun path hpath => h.within path (hpaths.subset hpath)
    mixed := fun path hpath => h.mixed path (hmem _ nofun hpath)
    unmixed := fun path hpath => h.unmixed path (hpaths.subset hpath)
    copied := fun source target hcopy => h.copied source target (hmem _ nofun hcopy)
    renamed := fun source target hrename => h.renamed source target (hmem _ nofun hrename) }

/-! ## The calls of a production -/

/-- A production makes the first of the calls that are planned, and after that it takes a copy away at
most. -/
theorem adds_produce (hquiet : tools.Quiet) (request : RenderRequest) (id workDir : String)
    (events : List Event) (s : Studio) :
    ∃ (calls : List Call) (files removals : List String),
      .makeTempDir (workDirStart id) :: calls <+: plan request.config id workDir events files ∧
        Adds (calls ++ removals.map .remove) s
          ((produce tools.recorded id request.config events workDir).after s) := by
  rw [produce_eq]
  cases hproduce : producing tools.recorded id request.config events workDir s with
  | ok result s₁ =>
      have hdone : withdrawing (producing tools.recorded id request.config events workDir) s =
          .ok result s₁ := by
        rw [withdrawing, hproduce]
      rw [Action.after_of_ok hdone]
      rw [← produce_eq, produce_eq_ok] at hdone
      obtain ⟨a, rfl, rfl, hrecorded, hcompiled, hruns, -⟩ := hdone
      have hplan := Session.callsOf_produced id hrecorded hcompiled
      refine ⟨_, _, [], ⟨[], by rw [List.append_nil, hplan]⟩, ?_⟩
      rw [List.map_nil, List.append_nil]
      exact adds_of_runs hquiet hruns
  | error b s₁ =>
      have hdone : withdrawing (producing tools.recorded id request.config events workDir) s =
          .error (b.passed s₁) (b.withdrawn s₁) := by
        rw [withdrawing, hproduce]
        exact b.withdraw_eq s₁
      rw [Action.after_of_error hdone]
      obtain ⟨steps, halt, s₂, hruns, hhalts, hplanned, -⟩ :=
        stopped_of_unproduced (unproduced_of_producing hproduce)
      refine ⟨_, _, b.unfinished.toList, hplanned, ?_⟩
      exact ((adds_of_runs hquiet hruns).trans (adds_of_halts hquiet hhalts)).trans
        (adds_withdrawn b s₁)

/-! ## What is mixed -/

/-- If the tools leave a segment where they are told to, it is found there. -/
theorem mem_segmentNames_of_build
    (hvoice : ∀ synthesis s₁ file s₂, tools.voice synthesis s₁ = .ok file s₂ →
      file = synthesis.outputPath)
    (hsilence : ∀ silence s₁ file s₂, tools.silence silence s₁ = .ok file s₂ →
      file = silence.outputPath)
    {config : ProducerConfig} {s s' : Studio} {t : Timeline} {segment : Segment}
    (hbuild : Timeline.build tools config workDir events s = .ok t s')
    (hsegment : segment ∈ t.segments) :
    segment.file ∈
      (Timeline.segmentNames 0 events).map fun name => Path.join [workDir, name] := by
  obtain ⟨r, rfl, hfits, hruns, rfl⟩ := Timeline.build_eq_ok_iff.1 hbuild
  have hfile : segment.file ∈ r.takes.filterMap Timeline.Take.narrationFile? := by
    rw [← Timeline.segments_map_file .start]
    exact List.mem_map_of_mem hsegment
  obtain ⟨take, htake, hfile⟩ := List.mem_filterMap.1 hfile
  suffices h : ∃ u ∈ take.uses config.assetsDir, u.call.segmentPath? = some segment.file by
    obtain ⟨u, hu, hpath⟩ := h
    have hcall : u.call ∈ callsOf (r.steps config.assetsDir) :=
      List.mem_filterMap.2 ⟨_, Timeline.Recording.mem_steps htake hu, rfl⟩
    rw [Timeline.callsOf_recording hfits] at hcall
    rw [← @Timeline.segmentPaths_buildCalls config workDir r.events]
    exact List.mem_filterMap.2 ⟨_, hcall, hpath⟩
  cases take with
  | speech speaker request file duration =>
      cases hfile
      refine ⟨.voice request segment.file, List.mem_cons_self, ?_⟩
      obtain ⟨s₁, s₂, hrun⟩ := use_runs_of_mem hruns
        (Timeline.Recording.mem_steps htake List.mem_cons_self)
      exact congrArg some (hvoice _ _ _ _ hrun).symm
  | silence request file =>
      cases hfile
      refine ⟨.silence request segment.file, List.mem_cons_self, ?_⟩
      obtain ⟨s₁, s₂, hrun⟩ := use_runs_of_mem hruns
        (Timeline.Recording.mem_steps htake List.mem_cons_self)
      exact congrArg some (hsilence _ _ _ _ hrun).symm
  | effect | directive | other => cases hfile

/-- However a production ends, what it has called keeps its files apart and where they belong; and
the mix never takes the place of a segment that goes into it. -/
theorem separates_produce (hquiet : tools.Quiet) (hid : '/' ∉ id.toList) (request : RenderRequest)
    (workDir : String) (events : List Event) (s : Studio) :
    (∃ calls, Adds calls s ((produce tools.recorded id request.config events workDir).after s) ∧
      Separates request id workDir events calls) ∧
    ((∀ synthesis s₁ file s₂, tools.voice synthesis s₁ = .ok file s₂ →
        file = synthesis.outputPath) →
      (∀ silence s₁ file s₂, tools.silence silence s₁ = .ok file s₂ →
        file = silence.outputPath) →
      ∀ t s', Timeline.build tools.recorded request.config workDir events s = .ok t s' →
        ∀ segment ∈ t.segments, Path.Apart segment.file (stagedMix workDir events)) := by
  constructor
  · obtain ⟨calls, files, removals, hprefix, hadds⟩ :=
      adds_produce hquiet request id workDir events s
    have hcalls : calls.Sublist (plan request.config id workDir events files) :=
      (List.sublist_cons_self _ _).trans hprefix.sublist
    exact ⟨_, hadds, (separates_plan hid files).of_sublist hcalls removals⟩
  · intro hvoice hsilence t s' hbuild segment hsegment
    refine Timeline.apart_output_of_mem_segmentNames
      (mem_segmentNames_of_build ?_ ?_ hbuild hsegment) _
    · exact fun synthesis _ => hvoice synthesis _
    · exact fun silence _ => hsilence silence _

/-- Names that would lead elsewhere if they were taken as they are. -/
def climbing : List Event :=
  [.directive "title" "../../out", .utterance "../Ruby" "Hello", .pause 1,
   .utterance "../Ruby" "Bye"]

theorem separates_produce_climbing :
    ∃ t s', Timeline.build Tools.prompt.recorded (.soloist "../Ruby" "/ruby.wav") "/tmp/work" climbing
        .empty = .ok t s' ∧
      (∀ segment ∈ t.segments, Path.Apart segment.file (stagedMix "/tmp/work" climbing)) ∧
      ∃ calls, Adds calls .empty ((produce Tools.prompt.recorded (idOf 1)
          (.soloist "../Ruby" "/ruby.wav") climbing "/tmp/work").after .empty) ∧
        Separates ⟨"", .soloist "../Ruby" "/ruby.wav", true⟩ (idOf 1) "/tmp/work" climbing calls := by
  have hbuild : (Timeline.build Tools.prompt.recorded (.soloist "../Ruby" "/ruby.wav") "/tmp/work"
      climbing).succeeds .empty = true := by decide +kernel
  obtain ⟨t, s', hbuild⟩ := Action.eq_ok_of_succeeds hbuild
  have hquiet : Tools.prompt.Quiet := ⟨fun _ _ => rfl, fun _ _ => rfl, fun _ _ => rfl,
    fun _ _ _ => rfl, fun _ _ _ => rfl⟩
  have hid : '/' ∉ (idOf 1).toList := by decide
  obtain ⟨hcalls, happart⟩ := separates_produce hquiet hid
    ⟨"", .soloist "../Ruby" "/ruby.wav", true⟩ "/tmp/work" climbing .empty
  refine ⟨t, s', hbuild, ?_, hcalls⟩
  exact happart (fun _ _ _ _ h => (Action.pure_eq_ok.1 h).1.symm)
    (fun _ _ _ _ h => (Action.pure_eq_ok.1 h).1.symm) t s' hbuild

end Render

end StoryMix
