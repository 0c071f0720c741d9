import StoryMix.Proofs.FileName
import StoryMix.Proofs.Studio.Frame

/-!
# The files of a recording

While a timeline is built nothing changes but the sounds in the working directory, however the build
ends. The induction goes along the events with one case for each kind; between the events only the
clock and the number of segments are carried on, and neither matters here.
-/

namespace StoryMix.Timeline

open StoryMix.Action
open StoryMix.Path (resolvedNames along)

/-- A sound right in the directory that these names lead to. -/
def Sound (dir : List Path.Name) (path : String) : Prop :=
  ∃ name, Path.Plain name ∧ ".wav".toList <:+ name ∧ path = along (dir ++ [name])

variable {tools : Tools} {config : ProducerConfig} {workDir : String} {dir : List Path.Name}

section

variable (htools : tools.Tidy) (hdir : ∀ cwd, resolvedNames cwd workDir = dir)

include hdir

theorem sound_speechFile (n : Nat) (speaker : String) (s : Studio) :
    Sound dir (s.resolve (speechFile workDir n speaker)) := by
  refine ⟨_, plain_speechName n speaker, suffix_speechName n speaker, ?_⟩
  rw [Studio.resolve, Path.resolve_eq, ← hdir s.cwd,
    ← Path.resolvedNames_join s.cwd workDir (plain_speechName n speaker)]
  rfl

theorem sound_silenceFile (n : Nat) (s : Studio) :
    Sound dir (s.resolve (silenceFile workDir n)) := by
  refine ⟨_, plain_silenceName n, suffix_silenceName n, ?_⟩
  rw [Studio.resolve, Path.resolve_eq, ← hdir s.cwd,
    ← Path.resolvedNames_join s.cwd workDir (plain_silenceName n)]
  rfl

include htools

theorem confines_speak (clock : Clock) (n : Nat) (speaker text : String) :
    Confines (Sound dir) (speak tools config workDir clock n speaker text) := by
  refine confines_bind (confines_ofExcept _) fun reference => ?_
  refine confines_bind (fun s => ?_) fun file => ?_
  · refine (htools.voice _ s).mono ?_
    rintro _ rfl
    exact sound_speechFile hdir n speaker s
  refine confines_bind (fun s => ?_) fun duration => ?_
  · exact (htools.probe file s).mono fun _ h => h.elim
  exact confines_bind (confines_say _ _ _) fun _ => confines_pure _

theorem confines_rest (clock : Clock) (n : Nat) (seconds : Float) :
    Confines (Sound dir) (rest tools workDir clock n seconds) := by
  refine confines_bind (fun s => ?_) fun file => confines_pure _
  refine (htools.silence _ s).mono ?_
  rintro _ rfl
  exact sound_silenceFile hdir n s

omit hdir in
theorem confines_asset (root id : String) : Confines (Sound dir) (tools.asset root id) :=
  fun s => (htools.asset root id s).mono fun _ h => h.elim

omit hdir in
theorem confines_cue (clock : Clock) (asset : String) (anchor : Anchor) (offset : Float) :
    Confines (Sound dir) (cue tools config clock asset anchor offset) := by
  refine confines_bind (confines_ofExcept _) fun startTime => ?_
  refine confines_bind (confines_asset htools _ _) fun file => ?_
  exact confines_bind (confines_say _ _ _) fun _ => confines_pure _

theorem confines_walk (events : List Event) (clock : Clock) (made : Nat) :
    Confines (Sound dir) (walk tools config workDir clock made events) := by
  induction events generalizing clock made with
  | nil => exact confines_pure _
  | cons event events ih =>
      cases event with
      | utterance speaker text =>
          refine confines_bind (confines_speak htools hdir _ _ _ _) fun ⟨segment, next⟩ => ?_
          exact confines_bind (ih next (made + 1)) fun _ => confines_pure _
      | pause seconds =>
          refine confines_bind (confines_rest htools hdir _ _ _) fun ⟨segment, next⟩ => ?_
          exact confines_bind (ih next (made + 1)) fun _ => confines_pure _
      | cue asset anchor offset =>
          refine confines_bind (confines_cue htools _ _ _ _) fun effect => ?_
          exact confines_bind (ih clock made) fun _ => confines_pure _
      | directive key value => exact ih clock made
      | other kind => exact ih clock made

omit hdir in
theorem confines_resolveBed (events : List Event) (key : String) :
    Confines (Sound dir) (resolveBed tools config events key) := by
  unfold resolveBed
  split
  · exact confines_map some (confines_asset htools _ _)
  · exact confines_pure none

/-- A build changes nothing but sounds in its directory. -/
theorem confines_build (events : List Event) :
    Confines (Sound dir) (build tools config workDir events) := by
  unfold build
  dsimp only
  split
  · exact fun s => .refl _ s
  refine confines_bind (confines_ofExcept _) fun _ => ?_
  refine confines_bind ?_ fun beds => ?_
  · refine confines_bind (confines_resolveBed htools events "music") fun music => ?_
    exact confines_bind (confines_resolveBed htools events "ambience") fun _ => confines_pure _
  refine confines_bind (confines_walk htools hdir events _ _) fun track => ?_
  exact confines_bind (confines_say _ _ _) fun _ => confines_pure _

end

end StoryMix.Timeline
