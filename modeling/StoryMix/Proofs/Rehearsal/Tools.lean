import StoryMix.Proofs.Studio.Answer
import StoryMix.Proofs.Studio.Calls
import StoryMix.Rehearsal.Tools

/-!
# Rehearsed tools are tidy

Whatever a rehearsal is told to do, its tools write where they are asked to and nowhere else, and a
tool that is to fail writes nothing.
-/

namespace StoryMix.Rehearsal

open StoryMix.Action

theorem confined_put (path text : String) (s : Studio) :
    Confined (· = s.resolve path) s ((Files.put path text).after s) where
  cwd := rfl
  refusals := rfl
  dirs := rfl
  files _ hother := (FileTree.read?_write ..).trans (if_neg hother)

variable (r : Rehearsal)

theorem confined_voice (request : SynthesisRequest) (s : Studio) :
    Confined (· = s.resolve request.outputPath) s ((r.voice request).after s) := by
  unfold voice
  dsimp only
  split
  · exact .refl _ s
  · have hput := confined_put request.outputPath (speech request.text) s
    exact ⟨hput.cwd, hput.refusals, hput.dirs, hput.files⟩

/-- To measure a file is only to look at it. -/
theorem after_probe (file : String) (s : Studio) : (r.probe file).after s = s := by
  have hspoken : spokenInto file s = .ok (s.spoken.lookup file) s := rfl
  have hprobe : r.probe file s = _ := bind_of_ok hspoken
  rw [after, hprobe]
  cases s.spoken.lookup file with
  | none => rfl
  | some line =>
      dsimp only
      by_cases hfail : r.failProbeOn = some line
      · rw [if_pos hfail]
        rfl
      · rw [if_neg hfail]
        rfl

theorem after_asset (root id : String) (s : Studio) : (r.asset root id).after s = s := by
  unfold asset
  split <;> rfl

theorem confined_probe (file : String) (s : Studio) :
    Confined (fun _ => False) s ((r.probe file).after s) := by
  rw [after_probe]
  exact .refl _ s

theorem confined_silence (request : SilenceRequest) (s : Studio) :
    Confined (· = s.resolve request.outputPath) s ((r.silence request).after s) := by
  unfold silence
  split
  · exact .refl _ s
  · have hput := confined_put request.outputPath (silent request.seconds) s
    exact ⟨hput.cwd, hput.refusals, hput.dirs, hput.files⟩

theorem confined_asset (root id : String) (s : Studio) :
    Confined (fun _ => False) s ((r.asset root id).after s) := by
  rw [after_asset]
  exact .refl _ s

theorem confined_mix (graph : Mix.Graph) (path : String) (s : Studio) :
    Confined (· = s.resolve path) s ((r.mix graph path).after s) := by
  unfold mix
  split
  · exact .refl _ s
  · have hput := confined_put path graph.filterText s
    exact ⟨hput.cwd, hput.refusals, hput.dirs, hput.files⟩

theorem tidy_tools : r.tools.Tidy where
  voice := r.confined_voice
  probe := r.confined_probe
  silence := r.confined_silence
  asset := r.confined_asset
  mix := r.confined_mix

/-- They also leave the record to others. -/
theorem quiet_tools : r.tools.Quiet where
  voice request s := by
    show ((r.voice request).after s).calls = s.calls
    unfold voice
    dsimp only
    split <;> rfl
  probe file s := congrArg Studio.calls (r.after_probe file s)
  silence request s := by
    show ((r.silence request).after s).calls = s.calls
    unfold silence
    split <;> rfl
  asset root id s := congrArg Studio.calls (r.after_asset root id s)
  mix graph path s := by
    show ((r.mix graph path).after s).calls = s.calls
    unfold mix
    split <;> rfl

end StoryMix.Rehearsal
