import StoryMix.Proofs.Programs.Tools
import StoryMix.Proofs.Queue.Processor

/-!
# Renders leave the record of jobs alone

What jobs report and which renders they ask for is noted by who works on the jobs, and by nobody else.
An action is discreet if it notes nothing, however it ends; actions one after the other are discreet if
each of them is. So a render is discreet if its tools are (`discreet_render`), and a worker whose
programs are discreet is steady (`steady_worker`).
-/

namespace StoryMix

/-- What jobs have reported and asked for. -/
def Studio.noted (s : Studio) : Array Float × Array RenderRequest :=
  (s.progress, s.requests)

namespace Action

/-- However the action ends, it notes nothing. -/
def Discreet {α : Type} (x : Action α) : Prop :=
  ∀ s, (x.after s).noted = s.noted

namespace Discreet

variable {α β : Type} {x : Action α} {f : α → Action β}

theorem bind (hx : Discreet x) (hf : ∀ a, Discreet (f a)) : Discreet (x >>= f) := by
  intro s
  have h := hx s
  cases hxs : x s with
  | ok a s₁ =>
      rw [after_of_ok hxs] at h
      rw [after, bind_of_ok hxs]
      exact (hf a s₁).trans h
  | error e s₁ =>
      rw [after_of_error hxs] at h
      rw [after, bind_of_error hxs]
      exact h

theorem outcome (hx : Discreet x) : Discreet x.outcome := by
  intro s
  rw [after_outcome]
  exact hx s

theorem onFailure {cleanup : Thrown → Action Unit} (hx : Discreet x)
    (hcleanup : ∀ e, Discreet (cleanup e)) : Discreet (x.onFailure cleanup) := by
  intro s
  have h := hx s
  cases hxs : x s with
  | ok a s₁ =>
      rw [after_of_ok hxs] at h
      rw [after_onFailure_of_ok cleanup hxs, h]
  | error e s₁ =>
      rw [after_of_error hxs] at h
      rw [after_onFailure_of_error cleanup hxs, hcleanup e s₁, h]

theorem always {cleanup : Action Unit} (hx : Discreet x) (hcleanup : Discreet cleanup) :
    Discreet (x.always cleanup) := by
  intro s
  rw [after_always, hcleanup, hx]

theorem pure (a : α) : Discreet (Pure.pure a) :=
  fun _ => rfl

theorem fail (failure : Failure) : Discreet (Action.fail failure : Action α) :=
  fun _ => rfl

theorem ofExcept (r : Except Failure α) : Discreet (Action.ofExcept r) := by
  cases r with
  | ok a => exact .pure a
  | error failure => exact .fail failure

theorem say (level : Level) (message : String) (arguments : List Value) :
    Discreet (Action.say level message arguments) :=
  fun _ => rfl

theorem get : Discreet (get : Action Studio) :=
  fun _ => rfl

theorem writing (text? : Option String) : Discreet (Action.writing text?) := by
  cases text? with
  | none => exact fun _ => rfl
  | some text => exact .pure text

end Discreet

end Action

open StoryMix.Action

/-! ## Files -/

namespace Files

variable {call : Call}

theorem discreet_attempt : Discreet (attempt call) := by
  intro s
  unfold after
  rw [attempt_eq]
  cases s.refusal? call <;> rfl

theorem discreet_change (f : Studio → FileTree) : Discreet (change f) :=
  fun _ => rfl

theorem discreet_makeTempDir (start : String) : Discreet (makeTempDir start) :=
  discreet_attempt.bind fun _ _ => rfl

theorem discreet_copy (source target : String) : Discreet (copy source target) := by
  intro s
  unfold after
  rw [copy_eq]
  refine discreet_attempt.bind (fun _ s₁ => ?_) s
  unfold after
  dsimp only
  cases s₁.tree.read? (s₁.resolve source) <;> rfl

theorem discreet_remove (path : String) : Discreet (remove path) :=
  discreet_attempt.bind fun _ => discreet_change _

theorem discreet_removeFile (path : String) : Discreet (removeFile path) := by
  intro s
  unfold after
  rw [removeFile_eq]
  cases s.unlinkRefusal? path <;> rfl

theorem discreet_removeWorkDir (id workDir : String) : Discreet (Render.removeWorkDir id workDir) := by
  refine .bind (.outcome (discreet_remove _)) fun r => ?_
  cases r with
  | ok _ => exact .pure _
  | error e => exact .bind (.writing _) fun _ => .say _ _ _

theorem discreet_publish (staged outDir fileName id : String) :
    Discreet (Render.publish staged outDir fileName id) :=
  .bind (discreet_attempt.bind fun _ => discreet_change _) fun _ =>
    .bind (.onFailure (.bind (discreet_copy _ _) fun _ => discreet_attempt.bind fun _ => discreet_change _)
      fun _ => discreet_removeFile _) fun _ => .pure _

end Files

/-! ## Renders -/

/-- The tools note nothing. -/
structure Tools.Discreet (tools : Tools) : Prop where
  voice request : Action.Discreet (tools.voice request)
  probe file : Action.Discreet (tools.probe file)
  silence request : Action.Discreet (tools.silence request)
  asset root id : Action.Discreet (tools.asset root id)
  mix graph path : Action.Discreet (tools.mix graph path)

section Tools

variable {tools : Tools} (h : tools.Discreet)
include h

theorem discreet_resolveBed (config : ProducerConfig) (events : List Event) (key : String) :
    Discreet (Timeline.resolveBed tools config events key) := by
  unfold Timeline.resolveBed
  split
  · exact (h.asset _ _).bind fun _ => .pure _
  · exact .pure _

theorem discreet_walk (config : ProducerConfig) (workDir : String) (clock : Clock) (made : Nat)
    (events : List Event) : Discreet (Timeline.walk tools config workDir clock made events) := by
  induction events generalizing clock made with
  | nil => exact .pure _
  | cons event events ih =>
      cases event with
      | utterance speaker text =>
          refine .bind (.bind (.ofExcept _) fun _ => .bind (h.voice _) fun _ => .bind (h.probe _) fun _ =>
            .bind (.say _ _ _) fun _ => .pure _) fun _ => .bind (ih _ _) fun _ => .pure _
      | pause seconds =>
          exact .bind (.bind (h.silence _) fun _ => .pure _) fun _ => .bind (ih _ _) fun _ => .pure _
      | cue asset anchor offset =>
          exact .bind (.bind (.ofExcept _) fun _ => .bind (h.asset _ _) fun _ => .bind (.say _ _ _) fun _ =>
            .pure _) fun _ => .bind (ih _ _) fun _ => .pure _
      | directive key value => exact ih clock made
      | other line => exact ih clock made

theorem discreet_build (config : ProducerConfig) (workDir : String) (events : List Event) :
    Discreet (Timeline.build tools config workDir events) := by
  have hrest : Discreet (do
      ofExcept (Timeline.checkSpeakers config events)
      let title := Timeline.titleOf events
      let beds ← Timeline.resolveBeds tools config events
      let track ← Timeline.walk tools config workDir .start 0 events
      inform .info "Timeline built"
        [("title", .text title),
         ("segments", .ofNat track.segments.length),
         ("sfx", .ofNat track.effects.length),
         ("music", beds.music.elim .null .text),
         ("ambience", beds.ambience.elim .null .text),
         ("totalDuration", .text (Numeral.fixed 3 track.clock.currentTime))]
      pure (⟨title, track.segments, track.effects, beds, track.clock.currentTime⟩ : Timeline)) :=
    .bind (.ofExcept _) fun _ => .bind (.bind (discreet_resolveBed h _ _ _) fun _ =>
      .bind (discreet_resolveBed h _ _ _) fun _ => .pure _) fun _ =>
        .bind (discreet_walk h _ _ _ _ _) fun _ => .bind (.say _ _ _) fun _ => .pure _
  unfold Timeline.build
  split
  · exact .bind (.fail _) fun _ => hrest
  · exact hrest

theorem discreet_produce (id : String) (config : ProducerConfig) (events : List Event)
    (workDir : String) : Discreet (Render.produce tools id config events workDir) :=
  .bind (discreet_build h _ _ _) fun _ => .bind (.ofExcept _) fun _ => .bind (h.mix _ _) fun _ =>
    .bind (Files.discreet_publish _ _ _ _) fun _ => .bind (.say _ _ _) fun _ => .pure _

theorem discreet_render (request : RenderRequest) : Discreet (render tools request) := by
  have hreporting {α : Type} {id : String} {act : Action α} (hact : Discreet act) :
      Discreet (Render.reporting id act) :=
    .onFailure hact fun _ => .bind (.writing _) fun _ => .say _ _ _
  refine .bind (fun _ => rfl) fun id => .bind (.say _ _ _) fun _ => .bind (hreporting ?_) fun prepared => ?_
  · exact .bind (.ofExcept _) fun _ => .bind (.say _ _ _) fun _ =>
      .bind (Files.discreet_makeTempDir _) fun _ => .pure _
  · exact .always (hreporting (discreet_produce h _ _ _ _)) (Files.discreet_removeWorkDir _ _)

end Tools

/-! ## Workers -/

/-- The programs note nothing, as long as who listens to them does not. -/
structure Programs.Discreet (programs : Programs) : Prop where
  execute program arguments : Action.Discreet (programs.execute program arguments)
  probe file : Action.Discreet (programs.probe file)
  media steps started : (∀ line, Action.Discreet (started line)) →
    Action.Discreet (programs.media steps started)

namespace Programs

variable {programs : Programs} (h : programs.Discreet)
include h

theorem discreet_runMedia {tool : Tool} {steps : List MediaStep} {started : String → Action Unit}
    (hstarted : ∀ line, Action.Discreet (started line)) (logged failed : String) :
    Action.Discreet (programs.runMedia tool steps started logged failed) := by
  refine .bind (.outcome (h.media _ _ hstarted)) fun r => ?_
  cases r with
  | ok _ => exact .pure _
  | error e => exact .bind (.writing _) fun _ => .bind (.say _ _ _) fun _ => .fail _

theorem discreet_speak (voicegen : VoicegenConfig) (request : SynthesisRequest) :
    Action.Discreet (programs.speak voicegen request) := by
  have hpresent : Action.Discreet (do
      if (← get).present request.outputPath then pure request.outputPath
      else fail (voiceSilence voicegen.executable request.outputPath) : Action String) := by
    refine .bind .get fun s => ?_
    split
    · exact .pure _
    · exact .fail _
  refine .bind (.say _ _ _) fun _ => .bind (.outcome (h.execute _ _)) fun r => ?_
  cases r with
  | ok _ => exact hpresent
  | error e =>
      dsimp only
      split
      · exact .bind (.writing _) fun _ => .bind (.fail _) fun _ => hpresent
      · exact hpresent

omit h in
theorem discreet_stated (file : String) (metadata : Value) : Action.Discreet (stated file metadata) := by
  unfold stated
  split
  · exact .pure _
  · exact .fail _

theorem discreet_measure (file : String) : Action.Discreet (programs.measure file) := by
  refine .bind (.outcome (h.probe _)) fun r => ?_
  cases r with
  | ok metadata => exact discreet_stated file metadata
  | error e =>
      dsimp only
      split
      · exact discreet_stated file .missing
      · exact .bind (.writing _) fun _ => .bind (.fail _) fun _ => discreet_stated file _

theorem discreet_tools (voicegen : VoicegenConfig) : (programs.tools voicegen).Discreet where
  voice request := discreet_speak h voicegen request
  probe file := discreet_measure h file
  silence request := .bind (discreet_runMedia h (fun _ => .pure _) _ _) fun _ =>
    .bind (.say _ _ _) fun _ => .pure _
  asset root id := by
    refine .bind .get fun s => ?_
    split
    · exact .fail _
    · exact .bind (.say _ _ _) fun _ => .pure _
  mix graph path := .bind
    (discreet_runMedia h (fun _ => .bind (.say _ _ _) fun _ => .bind (.say _ _ _) fun _ => .say _ _ _) _ _)
    fun _ => .bind (.say _ _ _) fun _ => .pure _

/-- A worker reports and asks for renders as it goes, and the render itself adds nothing to that. -/
theorem steady_worker (voicegen : VoicegenConfig) : (Worker.context programs voicegen).Steady where
  report _ _ := ⟨_, rfl, rfl, rfl, rfl, rfl⟩
  progress request s := congrArg Prod.fst (discreet_render (discreet_tools h voicegen) request s)
  requests request s := congrArg Prod.snd (discreet_render (discreet_tools h voicegen) request s)

end Programs

end StoryMix
