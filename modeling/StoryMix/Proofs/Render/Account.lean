import StoryMix.Proofs.Render.Run
import StoryMix.Proofs.Script.Parse

/-!
# What a render mixes

The mixer is used once in a render, and what it is given accounts for the script line by line: first
the file of every utterance and every pause, then those of the beds that the script asks for, then the
file of every effect, each kind in the order of its lines and nothing beside.

The reading, the walk and the compilation each keep the order. The reading is followed by the events
of the takes, the walk by `segments_map_file` and `effects_trackOf`, the compilation by `inputs_eq`.
-/

namespace StoryMix

namespace Timeline

def Take.narrationFile? : Take → Option String
  | .speech _ _ file _ => some file
  | .silence _ file => some file
  | _ => none

def Take.effectFile? : Take → Option String
  | .effect _ _ _ _ file => some file
  | _ => none

namespace Recording

def narration (r : Recording) : List String :=
  r.takes.filterMap Take.narrationFile?

def effects (r : Recording) : List String :=
  r.takes.filterMap Take.effectFile?

/-- The files of the beds, the music first. A tool that answers with the empty text has found none. -/
def beds (r : Recording) : List String :=
  (r.music.toList ++ r.ambience.toList).filter (· ≠ "")

end Recording

theorem exists_asset_of_mem_bedUses {root file : String} {id : Option String} {bed : Option String}
    (h : bed.isSome = id.isSome) (hfile : file ∈ bed) :
    ∃ i, .asset root i file ∈ bedUses root id bed := by
  cases hfile
  obtain ⟨i, rfl⟩ := Option.isSome_iff_exists.1 h.symm
  exact ⟨i, List.mem_singleton.2 rfl⟩

theorem exists_asset_of_mem_beds {config : ProducerConfig} {workDir : String} {r : Recording}
    (hfits : r.Fits config workDir) {file : String}
    (hfile : file ∈ r.music.toList ++ r.ambience.toList) :
    ∃ i, .use (.asset config.assetsDir i file) ∈ r.steps config.assetsDir := by
  have hlookup : ∃ i, .asset config.assetsDir i file ∈ r.lookups config.assetsDir := by
    rcases List.mem_append.1 hfile with hfile | hfile
    · obtain ⟨i, hi⟩ := exists_asset_of_mem_bedUses hfits.music (Option.mem_toList.1 hfile)
      exact ⟨i, List.mem_append_left _ hi⟩
    · obtain ⟨i, hi⟩ := exists_asset_of_mem_bedUses hfits.ambience (Option.mem_toList.1 hfile)
      exact ⟨i, List.mem_append_right _ hi⟩
  obtain ⟨i, hi⟩ := hlookup
  exact ⟨i, List.mem_append_left _ (List.mem_map_of_mem hi)⟩

theorem segments_map_file (c : Clock) (takes : List Take) :
    (trackOf c takes).segments.map Segment.file = takes.filterMap Take.narrationFile? := by
  induction takes generalizing c with
  | nil => rfl
  | cons t ts ih =>
      rw [trackOf, Take.onto, List.map_append, ih, List.filterMap_cons]
      cases t <;> rfl

theorem effects_map_file (c : Clock) (takes : List Take) :
    (trackOf c takes).effects.map Placement.file = takes.filterMap Take.effectFile? := by
  rw [effects_trackOf, List.map_filterMap]
  refine congrArg (fun f => takes.filterMap f) (funext fun t => ?_)
  cases t <;> rfl

theorem length_narration (r : Recording) :
    r.narration.length = r.events.countP Event.isNarrated := by
  rw [Recording.narration, ← segments_map_file .start, List.length_map, length_segments]
  rfl

theorem length_effects (r : Recording) : r.effects.length = r.events.countP Event.isCue := by
  rw [Recording.effects, ← effects_map_file .start, List.length_map, effects_trackOf,
    length_filterMap_placement?]
  rfl

theorem speech_of_allFit {config : ProducerConfig} {workDir : String} {c : Clock} {n : Nat}
    {takes : List Take} (h : AllFit config workDir c n takes) {speaker file : String}
    {request : SynthesisRequest} {duration : Float}
    (ht : .speech speaker request file duration ∈ takes) :
    config.voiceReference speaker = .ok request.voiceReference := by
  induction takes generalizing c n with
  | nil => cases ht
  | cons t ts ih =>
      obtain ⟨hfits, hall⟩ := h
      rcases List.mem_cons.1 ht with rfl | ht
      · exact hfits.1
      · exact ih hall ht

end Timeline

namespace Mix

theorem map_file_bedsOf (music ambience : Option String) (config : ProducerConfig) :
    (bedsOf ⟨music, ambience⟩ config).map Bed.file
      = (music.toList ++ ambience.toList).filter (· ≠ "") := by
  have bed (label : Label) (file : Option String) (gain : Float) :
      (((file.filter (· ≠ "")).map fun f => (⟨label, f, gain⟩ : Bed)).toList).map Bed.file
        = file.toList.filter (· ≠ "") := by
    cases file with
    | none => rfl
    | some f => by_cases hf : f = "" <;> simp [hf]
  rw [bedsOf, List.map_append, List.filter_append, bed, bed]

theorem compile_eq_ok {t : Timeline} {config : ProducerConfig} {graph : Graph}
    (h : compile t config = .ok graph) :
    graph.inputs = inputsOf t config ∧ graph.duration = t.duration
      ∧ graph.output.fileName = outputFileName t.title := by
  unfold compile at h
  split at h
  · cases h
  · cases h
    exact ⟨rfl, rfl, rfl⟩

end Mix

namespace Render

/-- A recording and a graph account for a script. -/
structure Accounts (request : RenderRequest) (result : Result) (r : Timeline.Recording)
    (graph : Mix.Graph) : Prop where
  /-- Every line was read, and what the lines say are the events of the takes, in their order. -/
  lines : ∃ said : List (Option Event),
    (Text.lines request.script.toList).map (Script.readLine request.strict) = said.map .ok
      ∧ said.filterMap id = r.takes.map Timeline.Take.event
  written : ∀ raw e, Script.readLine request.strict raw = .ok (some e) → Script.Writes raw e
  /-- A line is spoken by the voice of exactly its speaker, and its file is the one asked for. -/
  voices : ∀ speaker synthesis file duration, .speech speaker synthesis file duration ∈ r.takes →
    request.config.speakerRefs.find? speaker = some synthesis.voiceReference
      ∧ file = synthesis.outputPath
  silences : ∀ silence file, .silence silence file ∈ r.takes → file = silence.outputPath
  /-- There is a bed just where the first directive for it has a value. -/
  music : r.music.isSome = (nonEmptyDirective? r.events "music").isSome
  ambience : r.ambience.isSome = (nonEmptyDirective? r.events "ambience").isSome
  narration : r.narration.length = r.events.countP Event.isNarrated
  effects : r.effects.length = r.events.countP Event.isCue
  inputs : graph.inputs = r.narration ++ r.beds ++ r.effects
  name : graph.output.fileName
    = Mix.outputFileName ((nonEmptyDirective? r.events "title").getD "story")
  timeline : result.timeline = r.timeline
  duration : result.duration = result.timeline.duration
  total : graph.duration = result.timeline.duration

variable {tools : Tools} {request : RenderRequest} {s s' : Studio} {result : Result}

theorem Session.usesOf_steps (a : Session) (request : RenderRequest) (id : String) :
    usesOf (a.steps request id)
      = a.recording.uses request.config.assetsDir ++ [.mix a.graph a.staged a.mixed] := by
  rw [steps, usesOf_append, usesOf_append, Timeline.Recording.usesOf_steps]
  rfl

theorem Session.mem_steps {a : Session} {id : String} {t : Timeline.Take} {u : Use}
    (ht : t ∈ a.recording.takes) (hu : u ∈ t.uses request.config.assetsDir) :
    .use u ∈ a.steps request id :=
  List.mem_append_right _ (List.mem_append_left _ (Timeline.Recording.mem_steps ht hu))

namespace Session

variable {a : Session} {id : String} {s₁ : Studio}

theorem accounts_of_fits
    (hvoice : ∀ synthesis s₁ file s₂, tools.voice synthesis s₁ = .ok file s₂ →
      file = synthesis.outputPath)
    (hsilence : ∀ silence s₁ file s₂, tools.silence silence s₁ = .ok file s₂ →
      file = silence.outputPath)
    (hfits : a.Fits request) (hruns : Runs tools (a.steps request id) s s₁) :
    Accounts request (a.result request id) a.recording a.graph := by
  obtain ⟨hinputs, hduration, hname⟩ := Mix.compile_eq_ok hfits.compiled
  obtain ⟨said, hsaid, hevents⟩ := Script.parse_eq_ok.1 hfits.parsed
  exact {
    lines := ⟨said, hsaid, hevents.symm⟩
    written := fun _ _ => Script.writes_of_readLine
    voices := by
      intro speaker synthesis file duration ht
      obtain ⟨s₂, s₃, hrun⟩ := use_runs_of_mem hruns (u := .voice synthesis file)
        (mem_steps ht (by simp [Timeline.Take.uses]))
      have href := Timeline.speech_of_allFit hfits.recorded.takes ht
      exact ⟨(ProducerConfig.voiceReference_eq_ok.1 href).1, hvoice synthesis s₂ file s₃ hrun⟩
    silences := by
      intro silence file ht
      obtain ⟨s₂, s₃, hrun⟩ := use_runs_of_mem hruns (u := .silence silence file)
        (mem_steps ht (by simp [Timeline.Take.uses]))
      exact hsilence silence s₂ file s₃ hrun
    music := hfits.recorded.music
    ambience := hfits.recorded.ambience
    narration := Timeline.length_narration a.recording
    effects := Timeline.length_effects a.recording
    inputs := by
      rw [hinputs, Mix.inputsOf]
      exact congrArg₂ _ (congrArg₂ _ (Timeline.segments_map_file ..) (Mix.map_file_bedsOf ..))
        (Timeline.effects_map_file ..)
    name := hname
    timeline := rfl
    duration := rfl
    total := hduration }

theorem beds_eq (hasset : ∀ root i s₂ file s₃, tools.asset root i s₂ = .ok file s₃ → file ≠ "")
    (hfits : a.Fits request) (hruns : Runs tools (a.steps request id) s s₁) :
    a.recording.beds = a.recording.music.toList ++ a.recording.ambience.toList := by
  refine List.filter_eq_self.2 fun file hfile => decide_eq_true ?_
  obtain ⟨i, hi⟩ := Timeline.exists_asset_of_mem_beds hfits.recorded hfile
  have hmem : .use (.asset request.config.assetsDir i file) ∈ a.steps request id :=
    List.mem_append_right _ (List.mem_append_left _ hi)
  obtain ⟨s₂, s₃, hrun⟩ := use_runs_of_mem hruns hmem
  exact hasset _ i s₂ file s₃ hrun

end Session

/-- The tools were used for the recording of the script, then the mixer once, and nothing was used
after that; and the graph that the mixer was given accounts for the script. -/
theorem accounts_of_render
    (hvoice : ∀ synthesis s₁ file s₂, tools.voice synthesis s₁ = .ok file s₂ →
      file = synthesis.outputPath)
    (hsilence : ∀ silence s₁ file s₂, tools.silence silence s₁ = .ok file s₂ →
      file = silence.outputPath)
    (h : render tools request s = .ok result s') :
    ∃ (a : Session) (s₁ : Studio),
      Runs tools (a.steps request result.renderId) s s₁
        ∧ removeWorkDir result.renderId a.workDir s₁ = .ok () s'
        ∧ usesOf (a.steps request result.renderId)
            = a.recording.uses request.config.assetsDir ++ [.mix a.graph a.staged a.mixed]
        ∧ Accounts request result a.recording a.graph
        ∧ ((∀ root i s₂ file s₃, tools.asset root i s₂ = .ok file s₃ → file ≠ "") →
            a.recording.beds = a.recording.music.toList ++ a.recording.ambience.toList) := by
  obtain ⟨a, s₁, hfits, hruns, hremove, rfl⟩ := render_eq_ok_iff.1 h
  refine ⟨a, s₁, hruns, hremove, a.usesOf_steps request _, ?_, ?_⟩
  · exact Session.accounts_of_fits hvoice hsilence hfits hruns
  · intro hasset
    exact Session.beds_eq hasset hfits hruns

def night : RenderRequest :=
  ⟨"@title: Night\n@music: calm\nRuby: Hello\nPAUSE: 2\nSFX: chime", .soloist "Ruby" "/ruby.wav",
    true⟩

theorem accounts_of_render_night :
    ∃ (a : Session) (result : Result) (s' : Studio),
      render .prompt night .empty = .ok result s'
        ∧ Accounts night result a.recording a.graph := by
  have hvoice : ∀ synthesis s₁ file s₂, Tools.prompt.voice synthesis s₁ = .ok file s₂ →
      file = synthesis.outputPath := by
    rintro _ _ _ _ ⟨⟩
    rfl
  have hsilence : ∀ silence s₁ file s₂, Tools.prompt.silence silence s₁ = .ok file s₂ →
      file = silence.outputPath := by
    rintro _ _ _ _ ⟨⟩
    rfl
  have hsucceeds : (render .prompt night).succeeds .empty = true := by decide +kernel
  obtain ⟨result, s', h⟩ := Action.eq_ok_of_succeeds hsucceeds
  obtain ⟨a, -, -, -, -, haccounts, -⟩ := accounts_of_render hvoice hsilence h
  exact ⟨a, result, s', h, haccounts⟩

end Render

end StoryMix
