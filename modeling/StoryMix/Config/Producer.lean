import StoryMix.Config.SpeakerRefs

/-!
# Producer configuration

What a render is told beside the script: where the assets lie, where the result goes, which voice
reference each speaker has, and how loud the three beds are.
-/

namespace StoryMix

structure ProducerConfig where
  assetsDir : String
  outDir : String
  speakerRefs : SpeakerRefs
  narrationGainDb : Float
  musicGainDb : Float
  ambienceGainDb : Float

/-- The reference of a speaker, which must not be empty. -/
def ProducerConfig.voiceReference (config : ProducerConfig) (speaker : String) :
    Except Failure String :=
  match (config.speakerRefs.find? speaker).filter (· ≠ "") with
  | some ref => .ok ref
  | none =>
    .error (.configuration ("No voice reference configured for speaker \"" ++ speaker ++
      "\". Provide --ref " ++ speaker ++ "=/path/to/ref.wav"))

theorem ProducerConfig.voiceReference_eq_ok {config : ProducerConfig} {speaker ref : String} :
    config.voiceReference speaker = .ok ref ↔
      config.speakerRefs.find? speaker = some ref ∧ ref ≠ "" := by
  have hfilter : (config.speakerRefs.find? speaker).filter (· ≠ "") = some ref ↔
      config.speakerRefs.find? speaker = some ref ∧ ref ≠ "" := by
    rw [Option.filter_eq_some_iff, decide_eq_true_eq]
  rw [← hfilter]
  unfold voiceReference
  cases (config.speakerRefs.find? speaker).filter (· ≠ "") with
  | none => exact iff_of_false nofun nofun
  | some given => rw [Except.ok.injEq, Option.some.injEq]

/-- The voice generator and the device it runs on. -/
structure VoicegenConfig where
  executable : String
  device : String

end StoryMix
