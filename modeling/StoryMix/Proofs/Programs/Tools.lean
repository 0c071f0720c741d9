import StoryMix.Programs.Tools
import StoryMix.Proofs.Assets.Search
import StoryMix.Proofs.Numeral.Order
import StoryMix.Proofs.Studio.Answer
import StoryMix.Proofs.Timeline.Foresight

/-!
# Tools by programs fail as tools do

Whatever an outside program raises, its tool turns it into a failure of its own kind, and a search that
finds nothing raises that an asset is missing. Only what cannot be written out gets no further than the
attempt to say what it is (`FailsAs`). So nothing else comes out of the tools of production.

When a tool has an answer is told by its program. Two of the programs may raise what does not count as
an error (`Passes`), and neither is then believed: the voice generator must have left its file, and the
description of a sound must state a length.
-/

namespace StoryMix

/-- The failure of this tool. -/
def Thrown.CrashOf (tool : Tool) (e : Thrown) : Prop :=
  ∃ message cause, e = .failure (.externalTool tool message cause)

theorem Thrown.CrashOf.ofTool {tool : Tool} {e : Thrown} (h : e.CrashOf tool) : e.OfTool :=
  ⟨tool, h⟩

namespace Action

/-- The action leaves `s'` and raises nothing that counts as an error. -/
def Passes {α : Type} (x : Action α) (s s' : Studio) : Prop :=
  (∃ a, x s = .ok a s') ∨ ∃ e, x s = .error e s' ∧ e.isFalsy = true

/-- The action raises something that cannot be written out. -/
def RaisesUnwritable {α : Type} (x : Action α) (s : Studio) : Prop :=
  ∃ e s', x s = .error e s' ∧ e.message? = none

end Action

/-- What does not count as an error can be written out. -/
theorem Thrown.message?_of_isFalsy {e : Thrown} (h : e.isFalsy = true) : e.message? ≠ none := by
  cases e with
  | failure | unrecoverable | error => nofun
  | value v =>
      cases v with
      | missing | null | bool | number | text => nofun
      | list | record => cases h

/-- What comes out of a tool that fails: a failure of its own, or, if the program that it runs raises
something that cannot be written out, the error of the attempt to do so. -/
def Action.FailsAs {α : Type} (x : Action α) (tool : Tool) (s : Studio) (e : Thrown) : Prop :=
  (e.CrashOf tool ∧ ¬ x.RaisesUnwritable s) ∨ (e = .unwritable ∧ x.RaisesUnwritable s)

namespace Action

variable {α β : Type} {x : Action α} {tool : Tool} {s s' s₁ s₂ : Studio} {e raised : Thrown}

theorem FailsAs.byTool (h : x.FailsAs tool s e) : e.ByTool :=
  h.imp (fun h => h.1.ofTool) fun h => ⟨_, h.1⟩

theorem Passes.not_raisesUnwritable (h : x.Passes s s') : ¬ x.RaisesUnwritable s := by
  rintro ⟨e, s₁, hraises, hnone⟩
  rcases h with ⟨a, hok⟩ | ⟨e', herror, hfalsy⟩
  · cases hok.symm.trans hraises
  · cases herror.symm.trans hraises
    exact Thrown.message?_of_isFalsy hfalsy hnone

/-- A program has failed, and its tool fails with a message that says what was raised, if it can. -/
theorem failsAs_of_raised (f : String → String) {cause : Option String}
    (hraised : x s = .error raised s₁)
    (h : (.error (raised.message?.elim .unwritable fun message =>
        .failure (.externalTool tool (f message) cause)) s₂ : EStateM.Result Thrown Studio β) =
      .error e s') : x.FailsAs tool s e := by
  obtain ⟨rfl, -⟩ := EStateM.Result.error.inj h
  cases hmessage : raised.message? with
  | none => exact .inr ⟨rfl, raised, s₁, hraised, hmessage⟩
  | some message =>
      refine .inl ⟨⟨_, _, rfl⟩, ?_⟩
      rintro ⟨raised', s₃, hraises, hnone⟩
      cases hraised.symm.trans hraises
      cases hmessage.symm.trans hnone

end Action

namespace Programs

open StoryMix.Action

variable {p : Programs} {s s' : Studio} {e : Thrown}

/-! ## Speaking -/

section Speak

variable {config : VoicegenConfig} {request : SynthesisRequest}

/-- The studio once a line is announced. -/
def announced (request : SynthesisRequest) (s : Studio) : Studio :=
  { s with
    log := s.log.push
      ⟨.info, "Voice synthesis: ref=" ++ request.voiceReference ++ ", text=" ++
        Numeral.natText (Text.unitLength request.text) ++ " chars", []⟩ }

/-- The voice generator has ended: its file is there, or the tool fails. -/
theorem speak_of_passes
    (h : (p.execute config.executable (voiceArguments request config.device)).Passes
      (announced request s) s') :
    p.speak config request s =
      if s'.present request.outputPath then .ok request.outputPath s'
      else .error (.failure (voiceSilence config.executable request.outputPath)) s' := by
  unfold speak
  rw [bind_of_ok (show say _ _ _ s = .ok () (announced request s) from rfl)]
  have hpresent : (do
        if (← get).present request.outputPath then pure request.outputPath
        else fail (voiceSilence config.executable request.outputPath) : Action String) s' =
      if s'.present request.outputPath then .ok request.outputPath s'
      else .error (.failure (voiceSilence config.executable request.outputPath)) s' := by
    rw [bind_of_ok (show (get : Action Studio) s' = .ok s' s' from rfl)]
    split <;> rfl
  rcases h with ⟨_, h⟩ | ⟨e, h, hfalsy⟩
  · exact (bind_of_ok (outcome_of_ok h)).trans hpresent
  · refine (bind_of_ok (outcome_of_error h)).trans ?_
    dsimp only
    rw [hfalsy]
    exact hpresent

theorem speak_of_error
    (h : p.execute config.executable (voiceArguments request config.device) (announced request s) =
      .error e s') (he : e.isFalsy = false) :
    p.speak config request s =
      .error (e.message?.elim .unwritable fun message =>
        .failure (voiceCrash config.executable message e.cause?)) s' := by
  unfold speak
  rw [bind_of_ok (show say _ _ _ s = .ok () (announced request s) from rfl)]
  refine (bind_of_ok (outcome_of_error h)).trans ?_
  dsimp only
  rw [he]
  cases e.message? <;> rfl

/-- The program passes, or it raises an error. -/
theorem speak_cases (p : Programs) (config : VoicegenConfig) (request : SynthesisRequest) (s : Studio) :
    (∃ s', (p.execute config.executable (voiceArguments request config.device)).Passes
      (announced request s) s') ∨
    ∃ e s', p.execute config.executable (voiceArguments request config.device)
      (announced request s) = .error e s' ∧ e.isFalsy = false := by
  cases h : p.execute config.executable (voiceArguments request config.device) (announced request s) with
  | ok a s' => exact .inl ⟨s', .inl ⟨a, h⟩⟩
  | error e s' =>
      cases hfalsy : e.isFalsy with
      | true => exact .inl ⟨s', .inr ⟨e, h, hfalsy⟩⟩
      | false => exact .inr ⟨e, s', rfl, hfalsy⟩

theorem speak_eq_ok {path : String} :
    p.speak config request s = .ok path s' ↔
      (p.execute config.executable (voiceArguments request config.device)).Passes
        (announced request s) s' ∧
      s'.present request.outputPath = true ∧ path = request.outputPath := by
  constructor
  · intro h
    rcases speak_cases p config request s with ⟨s₁, hpasses⟩ | ⟨e, s₁, herror, he⟩
    · rw [speak_of_passes hpasses] at h
      split at h
      · cases h
        exact ⟨hpasses, ‹_›, rfl⟩
      · cases h
    · rw [speak_of_error herror he] at h
      cases h
  · rintro ⟨hpasses, hpresent, rfl⟩
    rw [speak_of_passes hpasses, if_pos hpresent]

theorem failsAs_of_speak (h : p.speak config request s = .error e s') :
    (p.execute config.executable (voiceArguments request config.device)).FailsAs .voice
      (announced request s) e := by
  rcases speak_cases p config request s with ⟨s₁, hpasses⟩ | ⟨e₁, s₁, herror, he⟩
  · rw [speak_of_passes hpasses] at h
    split at h
    · cases h
    · cases h
      exact .inl ⟨⟨_, _, rfl⟩, hpasses.not_raisesUnwritable⟩
  · rw [speak_of_error herror he] at h
    exact failsAs_of_raised (config.executable ++ " failed: " ++ ·) herror h

end Speak

/-! ## Measuring -/

/-- The last step of `measure`: the length stated for the file, or the failure that there is none. -/
def stated (file : String) (metadata : Value) : Action Float :=
  match statedDuration? metadata with
  | some duration => pure duration
  | none => fail (.externalTool .probe ("ffprobe reported no duration for " ++ file) none)

/-- A description states a length: a number that is finite and not negative. -/
def States (metadata : Value) (duration : Float) : Prop :=
  (metadata.field "format").field "duration" = .number duration ∧ duration.isFinite = true ∧ 0 ≤ duration

theorem statedDuration?_eq_some {metadata : Value} {duration : Float} :
    statedDuration? metadata = some duration ↔ States metadata duration := by
  unfold statedDuration? States
  cases (metadata.field "format").field "duration" with
  | number x =>
      have hcheck : (x.isFinite && !decide (x < 0)) = true ↔ x.isFinite = true ∧ 0 ≤ x := by
        rw [Bool.and_eq_true, Bool.not_eq_true', decide_eq_false_iff_not]
        refine and_congr_right fun hfinite => ⟨fun h => ?_, Numeral.not_lt_of_zero_le⟩
        exact Numeral.zero_le_of_not_lt (Numeral.not_isNaN_of_isFinite hfinite) h
      simp only [hcheck, Option.ite_none_right_eq_some, Option.some.injEq, Value.number.injEq]
      constructor
      · rintro ⟨hx, rfl⟩
        exact ⟨rfl, hx⟩
      · rintro ⟨rfl, hx⟩
        exact ⟨hx, rfl⟩
  | missing | null | bool | text | list | record => exact iff_of_false nofun nofun

theorem not_states_missing (duration : Float) : ¬ States .missing duration :=
  nofun

section Measure

variable {file : String}

theorem measure_of_ok {metadata : Value} {s₁ : Studio} (h : p.probe file s = .ok metadata s₁) :
    p.measure file s = stated file metadata s₁ :=
  bind_of_ok (outcome_of_ok h)

theorem measure_of_falsy {s₁ : Studio} (h : p.probe file s = .error e s₁) (he : e.isFalsy = true) :
    p.measure file s = stated file .missing s₁ := by
  refine (bind_of_ok (outcome_of_error h)).trans ?_
  dsimp only
  rw [he]
  rfl

theorem measure_of_error {s₁ : Studio} (h : p.probe file s = .error e s₁) (he : e.isFalsy = false) :
    p.measure file s =
      .error (e.message?.elim .unwritable fun message => .failure
        (.externalTool .probe ("ffprobe failed for " ++ file ++ ": " ++ message) e.cause?)) s₁ := by
  refine (bind_of_ok (outcome_of_error h)).trans ?_
  dsimp only
  rw [he]
  cases e.message? <;> rfl

/-- The length is told from what is known about the file, or an error is raised. -/
theorem measure_cases (p : Programs) (file : String) (s : Studio) :
    (∃ metadata s₁, (p.probe file).Passes s s₁ ∧ p.measure file s = stated file metadata s₁) ∨
    ∃ e s₁, p.probe file s = .error e s₁ ∧ e.isFalsy = false := by
  cases h : p.probe file s with
  | ok metadata s₁ => exact .inl ⟨metadata, s₁, .inl ⟨metadata, h⟩, measure_of_ok h⟩
  | error e s₁ =>
      cases he : e.isFalsy with
      | true => exact .inl ⟨.missing, s₁, .inr ⟨e, h, he⟩, measure_of_falsy h he⟩
      | false => exact .inr ⟨e, s₁, rfl, he⟩

theorem stated_eq_ok {metadata : Value} {duration : Float} :
    stated file metadata s = .ok duration s' ↔ States metadata duration ∧ s = s' := by
  rw [← statedDuration?_eq_some]
  unfold stated
  cases statedDuration? metadata with
  | some x => exact pure_eq_ok.trans (by rw [Option.some.injEq])
  | none => exact iff_of_false nofun nofun

theorem crash_of_stated {metadata : Value} (h : stated file metadata s = .error e s') :
    e.CrashOf .probe := by
  unfold stated at h
  cases hduration : statedDuration? metadata with
  | some duration =>
      rw [hduration] at h
      cases h
  | none =>
      rw [hduration] at h
      cases h
      exact ⟨_, _, rfl⟩

theorem measure_eq_ok {duration : Float} :
    p.measure file s = .ok duration s' ↔
      ∃ metadata, p.probe file s = .ok metadata s' ∧ States metadata duration := by
  cases h : p.probe file s with
  | ok metadata s₁ =>
      rw [measure_of_ok h, stated_eq_ok]
      constructor
      · rintro ⟨hstates, rfl⟩
        exact ⟨_, rfl, hstates⟩
      · rintro ⟨metadata', heq, hstates⟩
        cases heq
        exact ⟨hstates, rfl⟩
  | error e s₁ =>
      refine iff_of_false (fun hok => ?_) nofun
      cases he : e.isFalsy with
      | true =>
          rw [measure_of_falsy h he, stated_eq_ok] at hok
          exact not_states_missing _ hok.1
      | false =>
          rw [measure_of_error h he] at hok
          cases hok

theorem failsAs_of_measure (h : p.measure file s = .error e s') :
    (p.probe file).FailsAs .probe s e := by
  rcases measure_cases p file s with ⟨metadata, s₁, hpasses, hmeasure⟩ | ⟨e₁, s₁, hprobe, he⟩
  · rw [hmeasure] at h
    exact .inl ⟨crash_of_stated h, hpasses.not_raisesUnwritable⟩
  · rw [measure_of_error hprobe he] at h
    exact failsAs_of_raised ("ffprobe failed for " ++ file ++ ": " ++ ·) hprobe h

end Measure

/-! ## Silence and the mix -/

section Media

variable {tool : Tool} {steps : List MediaStep} {started : String → Action Unit} {logged failed : String}

variable (tool logged failed) in
theorem runMedia_of_error {s₁ : Studio} (h : p.media steps started s = .error e s₁) :
    ∃ s₂, p.runMedia tool steps started logged failed s =
      .error (e.message?.elim .unwritable fun message =>
        .failure (.externalTool tool (failed ++ ": " ++ message) e.cause?)) s₂ := by
  unfold runMedia
  rw [bind_of_ok (outcome_of_error h)]
  dsimp only
  cases hmessage : e.message? with
  | none => exact ⟨s₁, writing_bind_of_none rfl⟩
  | some message => exact ⟨_, writing_bind_of_some rfl⟩

theorem runMedia_eq_ok :
    p.runMedia tool steps started logged failed s = .ok () s' ↔ p.media steps started s = .ok () s' := by
  cases h : p.media steps started s with
  | ok u s₁ =>
      rw [runMedia, bind_of_ok (outcome_of_ok h)]
      exact Iff.rfl
  | error e s₁ =>
      obtain ⟨s₂, hrun⟩ := runMedia_of_error tool logged failed h
      rw [hrun]
      exact iff_of_false nofun nofun

theorem failsAs_of_runMedia (h : p.runMedia tool steps started logged failed s = .error e s') :
    (p.media steps started).FailsAs tool s e := by
  cases hmedia : p.media steps started s with
  | ok u s₁ =>
      rw [runMedia, bind_of_ok (outcome_of_ok hmedia)] at h
      cases h
  | error e₁ s₁ =>
      obtain ⟨s₂, hrun⟩ := runMedia_of_error tool logged failed hmedia
      exact failsAs_of_raised (failed ++ ": " ++ ·) hmedia (hrun.symm.trans h)

/-- A media command gives its path once it has been run and its end is logged. -/
theorem runMedia_say_eq_ok {level : Level} {message path file : String} {arguments : List Value} :
    (do p.runMedia tool steps started logged failed; say level message arguments; pure path) s =
        .ok file s' ↔
      ∃ s₁, p.media steps started s = .ok () s₁ ∧ file = path ∧
        s' = { s₁ with log := s₁.log.push ⟨level, message, arguments⟩ } := by
  constructor
  · intro h
    obtain ⟨_, s₁, hrun, h⟩ := bind_eq_ok.1 h
    obtain ⟨_, s₂, hsay, h⟩ := bind_eq_ok.1 h
    obtain ⟨rfl, rfl⟩ := pure_eq_ok.1 h
    exact ⟨s₁, runMedia_eq_ok.1 hrun, rfl, say_eq_ok.1 hsay⟩
  · rintro ⟨s₁, hrun, rfl, rfl⟩
    exact bind_eq_ok.2 ⟨(), s₁, runMedia_eq_ok.2 hrun, rfl⟩

theorem failsAs_of_runMedia_say {level : Level} {message path : String} {arguments : List Value}
    (h : (do p.runMedia tool steps started logged failed; say level message arguments; pure path :
      Action String) s = .error e s') : (p.media steps started).FailsAs tool s e := by
  rcases bind_eq_error h with h | ⟨_, s₁, -, h⟩
  · exact failsAs_of_runMedia h
  · cases h

theorem makeSilence_eq (p : Programs) (request : SilenceRequest) :
    p.makeSilence request = (do
      p.runMedia .silence (silenceSteps request) (fun _ => pure ()) "FFmpeg silence error"
        ("Failed to generate " ++ (Numeral.text request.seconds ++ "s") ++ " of silence")
      say .debug ("Silence generated: " ++ (Numeral.text request.seconds ++ "s") ++ " -> " ++
        request.outputPath) []
      pure request.outputPath) :=
  rfl

theorem mix_eq (p : Programs) (graph : Mix.Graph) (path : String) :
    p.mix graph path = (do
      p.runMedia .mix (mixSteps graph path) (logMixStart graph) "Mix: FFmpeg error" "Mixing failed"
      say .info "Mix: FFmpeg complete" [.record [("outputPath", .text path)]]
      pure path) :=
  rfl

end Media

/-! ## All of them -/

theorem raises_of_find {root id : String} (h : Assets.find root id s = .error e s') : e.OfAsset := by
  cases hfound : (Assets.searchPaths root id).find? s.present with
  | none =>
      cases (Assets.find_of_none hfound).symm.trans h
      exact ⟨id, _, rfl⟩
  | some path =>
      obtain ⟨log, hfind⟩ := Assets.find_of_some hfound
      cases hfind.symm.trans h

/-- When each tool has an answer and which, and that otherwise it fails as itself. -/
structure Adapts (p : Programs) (config : VoicegenConfig) : Prop where
  voice {request s path s'} : (p.tools config).voice request s = .ok path s' ↔
    (p.execute config.executable (voiceArguments request config.device)).Passes
      (announced request s) s' ∧
    s'.present request.outputPath = true ∧ path = request.outputPath
  voiceFails {request s e s'} : (p.tools config).voice request s = .error e s' →
    (p.execute config.executable (voiceArguments request config.device)).FailsAs .voice
      (announced request s) e
  probe {file s duration s'} : (p.tools config).probe file s = .ok duration s' ↔
    ∃ metadata, p.probe file s = .ok metadata s' ∧ States metadata duration
  probeFails {file s e s'} : (p.tools config).probe file s = .error e s' →
    (p.probe file).FailsAs .probe s e
  silence {request s path s'} : (p.tools config).silence request s = .ok path s' ↔
    ∃ s₁, p.media (silenceSteps request) (fun _ => pure ()) s = .ok () s₁ ∧ path = request.outputPath ∧
      s' = { s₁ with
        log := s₁.log.push ⟨.debug, "Silence generated: " ++ (Numeral.text request.seconds ++ "s") ++
          " -> " ++ request.outputPath, []⟩ }
  silenceFails {request s e s'} : (p.tools config).silence request s = .error e s' →
    (p.media (silenceSteps request) (fun _ => pure ())).FailsAs .silence s e
  mix {graph path s file s'} : (p.tools config).mix graph path s = .ok file s' ↔
    ∃ s₁, p.media (mixSteps graph path) (logMixStart graph) s = .ok () s₁ ∧ file = path ∧
      s' = { s₁ with
        log := s₁.log.push ⟨.info, "Mix: FFmpeg complete", [.record [("outputPath", .text path)]]⟩ }
  mixFails {graph path s e s'} : (p.tools config).mix graph path s = .error e s' →
    (p.media (mixSteps graph path) (logMixStart graph)).FailsAs .mix s e

theorem adapts (p : Programs) (config : VoicegenConfig) : p.Adapts config where
  voice := speak_eq_ok
  voiceFails := failsAs_of_speak
  probe := measure_eq_ok
  probeFails := failsAs_of_measure
  silence {request s path s'} := by
    show p.makeSilence request s = .ok path s' ↔ _
    rw [makeSilence_eq, runMedia_say_eq_ok]
  silenceFails {request s e s'} h := by
    replace h : p.makeSilence request s = .error e s' := h
    rw [makeSilence_eq] at h
    exact failsAs_of_runMedia_say h
  mix {graph path s file s'} := by
    show p.mix graph path s = .ok file s' ↔ _
    rw [mix_eq, runMedia_say_eq_ok]
  mixFails {graph path s e s'} h := by
    replace h : p.mix graph path s = .error e s' := h
    rw [mix_eq] at h
    exact failsAs_of_runMedia_say h

/-- Whatever the programs raise can be written out. -/
structure Legible (p : Programs) : Prop where
  execute executable arguments s : ¬ (p.execute executable arguments).RaisesUnwritable s
  probe file s : ¬ (p.probe file).RaisesUnwritable s
  media steps started s : ¬ (p.media steps started).RaisesUnwritable s

/-- The tools of production raise their own failures only, or the error of an attempt to write one out,
whatever the programs do. -/
theorem raisesOwn_programs (p : Programs) (config : VoicegenConfig) : (p.tools config).RaisesOwn where
  voice h := ((adapts p config).voiceFails h).byTool
  probe h := ((adapts p config).probeFails h).byTool
  silence h := ((adapts p config).silenceFails h).byTool
  asset {root id e s s'} h := by
    replace h : Assets.find root id s = .error e s' := h
    exact raises_of_find h
  mix h := ((adapts p config).mixFails h).byTool

end Programs

end StoryMix
