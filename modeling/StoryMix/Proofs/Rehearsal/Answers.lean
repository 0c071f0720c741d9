import StoryMix.Proofs.Rehearsal.Tools
import StoryMix.Proofs.Studio.Unlogged
import StoryMix.Proofs.Studio.View
import StoryMix.Proofs.Timeline.Moved

/-!
# What rehearsed tools answer

Rehearsed tools answer by what they are asked, and by the line that was last spoken into a file. What is
left of earlier renders does not matter to them.
-/

namespace StoryMix.Rehearsal

open StoryMix.Action

variable (r : Rehearsal)

/-- The answers of a rehearsal. -/
def answers : Answers where
  voice _ text :=
    if r.failVoiceOn = some text then
      .error (.failure (.externalTool .voice ("synthesis failed for \"" ++ text ++ "\"") none))
    else .ok none
  probe
    | some line =>
      if r.failProbeOn = some line then
        .error (.failure (.externalTool .probe ("unreadable \"" ++ line ++ "\"") none))
      else .ok (r.duration (some line))
    | none => .ok (r.duration none)
  silence _ _ _ :=
    match r.failSilence with
    | some e => .error (.failure (.externalTool .silence e.message none))
    | none => .ok none
  asset root id :=
    match (r.assets.lookup id).filter (· ≠ "") with
    | some path => .ok path
    | none => .error (.failure (.assetResolution id (Assets.searchPaths root id)))
  mix g :=
    match r.failMix with
    | some e => .error (.failure (.externalTool .mix e.message none))
    | none => .ok (some g.filterText)
  mix_moved h := by
    rw [Mix.Graph.filterText, Mix.Graph.filterText, h.filters]

theorem replies_voice (request : SynthesisRequest) (s : Studio) :
    (r.voice request).Replies s
      ((r.answers.voice request.voiceReference request.text).map (·.getD request.outputPath)) := by
  unfold voice answers
  dsimp only
  by_cases hfail : r.failVoiceOn = some request.text
  · rw [if_pos hfail, if_pos hfail]
    exact ⟨rfl, rfl⟩
  · rw [if_neg hfail, if_neg hfail]
    exact ⟨rfl, rfl⟩

/-- Whoever listens hears what was spoken last. -/
theorem spoken_voice (request : SynthesisRequest) {s s' : Studio} {file : String}
    (h : r.voice request s = .ok file s') : s'.spoken.lookup file = some request.text := by
  unfold voice at h
  dsimp only at h
  by_cases hfail : r.failVoiceOn = some request.text
  · rw [if_pos hfail] at h
    cases h
  · rw [if_neg hfail] at h
    cases h
    exact List.lookup_cons_self

theorem replies_probe (file : String) (s : Studio) :
    (r.probe file).Replies s (r.answers.probe (s.spoken.lookup file)) := by
  have hspoken : spokenInto file s = .ok (s.spoken.lookup file) s := rfl
  have hprobe : r.probe file s = _ := bind_of_ok hspoken
  constructor
  · unfold answer answers
    rw [hprobe]
    cases s.spoken.lookup file with
    | none => rfl
    | some line =>
        dsimp only
        by_cases hfail : r.failProbeOn = some line
        · rw [if_pos hfail, if_pos hfail]
          rfl
        · rw [if_neg hfail, if_neg hfail]
          rfl
  · exact congrArg Studio.refusals (r.after_probe file s)

theorem replies_silence (request : SilenceRequest) (s : Studio) :
    (r.silence request).Replies s
      ((r.answers.silence request.seconds request.sampleRate request.channelLayout).map
        (·.getD request.outputPath)) := by
  unfold silence answers
  dsimp only
  cases r.failSilence with
  | some e => exact ⟨rfl, rfl⟩
  | none => exact ⟨rfl, rfl⟩

theorem replies_asset (root id : String) (s : Studio) :
    (r.asset root id).Replies s (r.answers.asset root id) := by
  unfold asset answers
  dsimp only
  cases (r.assets.lookup id).filter (· ≠ "") with
  | some path => exact ⟨rfl, rfl⟩
  | none => exact ⟨rfl, rfl⟩

theorem replies_mix (graph : Mix.Graph) (path : String) (s : Studio) :
    (r.mix graph path).Replies s ((r.answers.mix graph).map fun _ => path) := by
  unfold mix answers
  dsimp only
  cases r.failMix with
  | some e => exact ⟨rfl, rfl⟩
  | none => exact ⟨rfl, rfl⟩

theorem mixed_mix {graph : Mix.Graph} {path file : String} {s s' : Studio}
    (h : r.mix graph path s = .ok file s') :
    r.answers.mix graph = .ok (s'.tree.read? (s'.resolve path)) := by
  unfold mix at h
  unfold answers
  dsimp only
  cases hfail : r.failMix with
  | some e =>
      rw [hfail] at h
      cases h
  | none =>
      rw [hfail] at h
      cases h
      have hwritten : (s.tree.write (s.resolve path) graph.filterText).read? (s.resolve path) =
          some graph.filterText :=
        (FileTree.read?_write ..).trans (if_pos rfl)
      exact congrArg Except.ok hwritten.symm

theorem answering_tools :
    r.tools.Answering r.answers fun s file => s.spoken.lookup file where
  voice := r.replies_voice
  spoken request _ _ _ h := r.spoken_voice request h
  probe := r.replies_probe
  silence := r.replies_silence
  asset := r.replies_asset
  mix graph path s := ⟨path, r.replies_mix graph path s⟩
  mixed _ _ _ _ _ h := r.mixed_mix h

/-- What is spoken into a file is all that the tools see of a studio. -/
theorem dependOn_tools : r.tools.DependOn Studio.spoken where
  noted _ _ _ := rfl
  voice request s t hst := by
    refine ⟨(r.replies_voice request s).answer.trans (r.replies_voice request t).answer.symm, ?_⟩
    change ((r.voice request).after s).spoken = ((r.voice request).after t).spoken
    unfold voice
    dsimp only
    by_cases hfail : r.failVoiceOn = some request.text
    · rw [if_pos hfail]
      exact hst
    · rw [if_neg hfail]
      exact congrArg (fun spoken => _ :: List.filter (·.1 != request.outputPath) spoken) hst
  probe file s t hst := by
    constructor
    · exact (r.replies_probe file s).answer.trans (hst ▸ (r.replies_probe file t).answer.symm)
    · change ((r.probe file).after s).spoken = ((r.probe file).after t).spoken
      rw [after_probe, after_probe, hst]
  silence request s t hst := by
    refine ⟨(r.replies_silence request s).answer.trans (r.replies_silence request t).answer.symm, ?_⟩
    change ((r.silence request).after s).spoken = ((r.silence request).after t).spoken
    unfold silence
    cases r.failSilence with
    | some e => exact hst
    | none => exact hst
  asset root id s t hst := by
    refine ⟨(r.replies_asset root id s).answer.trans (r.replies_asset root id t).answer.symm, ?_⟩
    change ((r.asset root id).after s).spoken = ((r.asset root id).after t).spoken
    rw [after_asset, after_asset, hst]
  found root id s := congrArg Studio.spoken (r.after_asset root id s)

/-- None of the tools reads the log. -/
theorem blindToLog_tools : r.tools.BlindToLog where
  voice request := by
    change Alike (r.voice request) (r.voice request)
    unfold voice
    dsimp only
    by_cases hfail : r.failVoiceOn = some request.text
    · rw [if_pos hfail]
      exact .fail _
    · rw [if_neg hfail]
      exact (Alike.modify fun _ => rfl).bind fun _ _ _ _ =>
        (Alike.modify fun _ => rfl).bind fun _ _ _ _ => .pure _
  probe file s t hst := by
    have hspoken := congrArg Studio.spoken hst
    refine ⟨(r.dependOn_tools.probe file s t hspoken).1, ?_⟩
    change ((r.probe file).after s).unlogged = ((r.probe file).after t).unlogged
    rw [after_probe, after_probe, hst]
  silence request := by
    change Alike (r.silence request) (r.silence request)
    unfold silence
    cases r.failSilence with
    | some e => exact .fail _
    | none => exact (Alike.modify fun _ => rfl).bind fun _ _ _ _ => .pure _
  asset root id := by
    change Alike (r.asset root id) (r.asset root id)
    unfold asset
    cases (r.assets.lookup id).filter (· ≠ "") with
    | some path => exact .pure _
    | none => exact .fail _

end StoryMix.Rehearsal
