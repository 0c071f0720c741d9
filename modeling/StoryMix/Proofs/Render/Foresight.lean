import StoryMix.Proofs.Rehearsal.Tools
import StoryMix.Proofs.Render.Course
import StoryMix.Proofs.Timeline.Foresight

/-!
# Anchors are known before a render begins its work

A build is never given an anchor that it cannot place, since the reading of the script has refused it
with the number of its line. So if an unknown anchor is what comes out of a render, nothing has been
called yet: no step after the reading raises such a failure. Operations on files raise errors of
another kind (`Files.error_of_attempt`), the mixer raises its own, and of the build it is known what it
raises (`Timeline.Foreseen`).
-/

namespace StoryMix

/-! ## What operations on files raise -/

namespace Files

open StoryMix.Action

variable {s s' : Studio} {e : Thrown}

theorem error_of_attempt {call : Call} (h : attempt call s = .error e s') :
    ∃ message : String, e = .error message := by
  obtain ⟨-, error, hrefused, rfl⟩ := attempt_eq_error h
  obtain ⟨message, rfl⟩ := Studio.exists_message_of_refusal? hrefused
  exact ⟨message, rfl⟩

theorem error_of_attempt_bind {α : Type} {call : Call} {act : Unit → Action α}
    (hact : ∀ s₁, act () s₁ = .error e s' → ∃ message : String, e = .error message)
    (h : (attempt call >>= act) s = .error e s') : ∃ message : String, e = .error message := by
  rcases bind_eq_error h with h | ⟨_, s₁, -, h⟩
  · exact error_of_attempt h
  · exact hact s₁ h

theorem error_of_makeTempDir {start : String} (h : makeTempDir start s = .error e s') :
    ∃ message : String, e = .error message :=
  error_of_attempt_bind (fun _ h => by cases h) h

theorem error_of_makeDir {path : String} (h : makeDir path s = .error e s') :
    ∃ message : String, e = .error message :=
  error_of_attempt_bind (fun _ h => by cases h) h

theorem error_of_rename {source target : String} (h : rename source target s = .error e s') :
    ∃ message : String, e = .error message :=
  error_of_attempt_bind (fun _ h => by cases h) h

theorem error_of_copy {source target : String} (h : copy source target s = .error e s') :
    ∃ message : String, e = .error message := by
  rw [copy_eq] at h
  refine error_of_attempt_bind (fun s₁ h => ?_) h
  cases hread : s₁.tree.read? (s₁.resolve source) with
  | none =>
      rw [hread] at h
      cases h
      exact ⟨_, rfl⟩
  | some text =>
      rw [hread] at h
      cases h

end Files

namespace Render

variable {tools : Tools} {request : RenderRequest} {s s₁ s' : Studio} {b : Break} {f : Failure}

/-! ## What a course raises -/

/-- If it is a failure that comes out, it is what led to the break. -/
theorem raised_of_comesOut (h : b.comesOut s = .failure f) : b.raised = .failure f := by
  replace h := Thrown.told_eq_failure h
  unfold Break.passed at h
  split at h
  · exact h
  · cases hm : s.unlinkRefusal? _ with
    | none =>
        rw [hm] at h
        exact h
    | some error =>
        rw [hm] at h
        cases h

theorem error_of_unpublished {staged outDir fileName id workDir : String}
    (h : Unpublished staged outDir fileName id workDir s b s') :
    ∃ message : String, b.raised = .error message := by
  cases h with
  | outDir hdir => exact Files.error_of_makeDir hdir
  | copy _ hcopy => exact Files.error_of_copy hcopy
  | rename _ _ hrename => exact Files.error_of_rename hrename

theorem not_failure_of_unpublished {staged outDir fileName id workDir : String}
    (h : Unpublished staged outDir fileName id workDir s b s') : b.raised ≠ .failure f := by
  obtain ⟨message, hmessage⟩ := error_of_unpublished h
  rw [hmessage]
  nofun

/-- The failures that would come again: everything but a crash of a tool. -/
def lasting : List FailureCode :=
  [.parse, .anchor, .emptyDocument, .configuration, .assetResolution]

theorem lasting_of_fault (fault : Script.ScriptError) : fault.failure.code ∈ lasting := by
  unfold Script.ScriptError.failure
  split
  · simp [lasting, Failure.code]
  · simp [lasting, Failure.code]

theorem raised_of_unproduced (hown : tools.RaisesOwn) {id workDir : String} {events : List Event}
    (h : Unproduced tools id request.config events workDir s b s') :
    (∃ f, b.raised = .failure f ∧ f.code ∈ lasting) ∨ b.raised.ByTool := by
  cases h with
  | timeline hbuild =>
      rcases Timeline.raised_of_build hown hbuild with ⟨-, rfl⟩ | ⟨-, _, -, rfl⟩ |
        ⟨-, htool | ⟨_, _, rfl⟩ | ⟨_, -, rfl⟩⟩
      · exact .inl ⟨_, rfl, by decide⟩
      · exact .inl ⟨_, rfl, by simp [lasting, Failure.code]⟩
      · exact .inr htool
      · exact .inl ⟨_, rfl, by simp [lasting, Failure.code]⟩
      · exact .inl ⟨_, rfl, by simp [lasting, Failure.code]⟩
  | graph hbuild hcompile =>
      obtain ⟨graph, hgraph⟩ := Timeline.compile_of_build hbuild
      rw [hgraph] at hcompile
      cases hcompile
  | mix _ _ hmix => exact .inr (hown.mix hmix)
  | publishing _ _ _ hpublish =>
      obtain ⟨message, hmessage⟩ := error_of_unpublished hpublish
      exact .inr (.inr ⟨_, hmessage⟩)

theorem raised_of_course (hown : tools.RaisesOwn) (h : course tools request s = .error b s₁) :
    (∃ f, b.raised = .failure f ∧ f.code ∈ lasting) ∨ b.raised.ByTool := by
  rw [course_eq] at h
  rcases course_bind_eq_error h with hprepare | ⟨⟨events, workDir⟩, s₂, -, hproduce⟩
  · cases unprepared_of_preparing hprepare with
    | script hfault => exact .inl ⟨_, rfl, lasting_of_fault _⟩
    | workDir _ hdir =>
        obtain ⟨message, hmessage⟩ := Files.error_of_makeTempDir hdir
        exact .inr (.inr ⟨_, hmessage⟩)
  · exact raised_of_unproduced hown (unproduced_of_producing hproduce)

/-- A render with tools that raise their own failures fails as it would again, or a tool has crashed,
or an operation on files has failed. -/
theorem raises_of_render (hown : tools.RaisesOwn) {e : Thrown}
    (h : render tools request s = .error e s') :
    (∃ f, e = .failure f ∧ f.code ∈ lasting) ∨ e.ByTool := by
  obtain ⟨b, s₁, hcourse⟩ := course_eq_error_of_render h
  rw [render_of_course_eq_error hcourse] at h
  obtain ⟨rfl, -⟩ := EStateM.Result.error.inj h
  rcases Thrown.told_cases (b.passed s₁) with htold | htold
  · rw [Break.comesOut, htold]
    unfold Break.passed
    split
    · exact raised_of_course hown hcourse
    · cases s₁.unlinkRefusal? _ with
      | none => exact raised_of_course hown hcourse
      | some error => exact .inr (.inr ⟨error, rfl⟩)
  · rw [Break.comesOut, htold]
    exact .inr (.inr ⟨_, rfl⟩)

/-- A production of a script that could be read meets no unknown anchor. -/
theorem not_anchor_of_unproduced (hown : tools.RaisesOwn) {id workDir : String}
    {events : List Event} {written : String} {line : Option Float}
    (hparse : Script.parse request.strict request.script = .ok events)
    (h : Unproduced tools id request.config events workDir s b s') :
    b.raised ≠ .failure (.anchor written line) := by
  intro hraised
  cases h with
  | timeline hbuild =>
      rename_i e
      obtain rfl : e = .failure (.anchor written line) := hraised
      exact Timeline.not_anchor_of_parse hown hparse written line hbuild
  | graph hbuild hcompile =>
      obtain ⟨graph, hgraph⟩ := Timeline.compile_of_build hbuild
      rw [hgraph] at hcompile
      cases hcompile
  | mix _ _ hmix =>
      rcases hown.mix hmix with ⟨tool, message, cause, he⟩ | ⟨error, he⟩
      · cases he.symm.trans hraised
      · cases he.symm.trans hraised
  | publishing _ _ _ hpublish => exact not_failure_of_unpublished hpublish hraised

/-- Only the reading of the script raises that an anchor is unknown. -/
theorem fault_of_course (hown : tools.RaisesOwn) {written : String} {line : Option Float}
    (h : course tools request s = .error b s₁) (hraised : b.raised = .failure (.anchor written line)) :
    ∃ fault, Script.parse request.strict request.script = .error fault ∧
      fault.failure = .anchor written line := by
  rw [course_eq] at h
  rcases course_bind_eq_error h with hprepare | ⟨⟨events, workDir⟩, s₂, hprepare, hproduce⟩
  · cases unprepared_of_preparing hprepare with
    | script hfault =>
        exact ⟨_, hfault, Thrown.failure.inj hraised⟩
    | workDir _ hdir =>
        obtain ⟨message, he⟩ := Files.error_of_makeTempDir hdir
        cases he.symm.trans hraised
  · have hprepared : prepare (idOf (s.renders + 1)) request (opened request s) =
        .ok (events, workDir) s₂ := by
      rw [prepare_eq, withdrawing, hprepare]
    obtain ⟨hparse, -⟩ := prepare_eq_ok_files hprepared
    exact absurd hraised
      (not_anchor_of_unproduced hown hparse (unproduced_of_producing hproduce))

theorem line_of_anchor {fault : Script.ScriptError} {written : String} {line : Option Float}
    (h : fault.failure = .anchor written line) :
    fault.fault = .unknownAnchor written ∧ line = some (Float.ofNat fault.line) := by
  unfold Script.ScriptError.failure at h
  split at h
  · rename_i hfault
    cases h
    exact ⟨hfault, rfl⟩
  · cases h

/-- What is wrong with a script whatever the tools do is found before they are called. Nobody speaks,
or one who speaks has no voice, just when a build says so at once, and what the walk and the
compilation check again is in order by then. An unknown anchor is found by the reading, so it has a
line and nothing but the log and the number of renders has changed. -/
theorem foreseen (hown : tools.RaisesOwn) :
    (∀ config workDir events s, Timeline.Foreseen tools config workDir events s) ∧
    ∀ request s written line s',
      render tools request s = .error (.failure (.anchor written line)) s' →
      ∃ fault, Script.parse request.strict request.script = .error fault ∧
        fault.fault = .unknownAnchor written ∧ line = some (Float.ofNat fault.line) ∧
        ∃ log, s' = { s with renders := s.renders + 1, log := log } := by
  refine ⟨Timeline.foreseen_of_raisesOwn hown, fun request s written line s' h => ?_⟩
  obtain ⟨b, s₁, hcourse⟩ := course_eq_error_of_render h
  have hraised : b.raised = .failure (.anchor written line) := by
    rw [render_of_course_eq_error hcourse] at h
    exact raised_of_comesOut (EStateM.Result.error.inj h).1
  obtain ⟨fault, hparse, hfailure⟩ := fault_of_course hown hcourse hraised
  obtain ⟨hfault, hline⟩ := line_of_anchor hfailure
  refine ⟨fault, hparse, hfault, hline, ?_⟩
  rw [render_of_course_eq_error (course_of_fault hparse)] at h
  exact ⟨_, (EStateM.Result.error.inj h).2.symm⟩

/-- Rehearsed tools fail as tools and searches do. -/
theorem raisesOwn_rehearsed (r : Rehearsal) : r.tools.RaisesOwn where
  voice {request e s s'} h := by
    change r.voice request s = _ at h
    unfold Rehearsal.voice at h
    dsimp only at h
    split at h
    · cases h
      exact .inl ⟨_, _, _, rfl⟩
    · cases h
  probe {file e s s'} h := by
    change r.probe file s = _ at h
    rcases Action.bind_eq_error h with h | ⟨text, s₁, -, h⟩
    · cases h
    cases text with
    | none => cases h
    | some line =>
        dsimp only at h
        split at h
        · cases h
          exact .inl ⟨_, _, _, rfl⟩
        · cases h
  silence {request e s s'} h := by
    change r.silence request s = _ at h
    unfold Rehearsal.silence at h
    cases hfail : r.failSilence with
    | none =>
        rw [hfail] at h
        cases h
    | some e =>
        rw [hfail] at h
        cases h
        exact .inl ⟨_, _, _, rfl⟩
  asset {root id e s s'} h := by
    change r.asset root id s = _ at h
    unfold Rehearsal.asset at h
    cases hfound : (r.assets.lookup id).filter (· ≠ "") with
    | none =>
        rw [hfound] at h
        cases h
        exact ⟨_, _, rfl⟩
    | some path =>
        rw [hfound] at h
        cases h
  mix {graph path e s s'} h := by
    change r.mix graph path s = _ at h
    unfold Rehearsal.mix at h
    cases hfail : r.failMix with
    | none =>
        rw [hfail] at h
        cases h
    | some e =>
        rw [hfail] at h
        cases h
        exact .inl ⟨_, _, _, rfl⟩

/-- A script with an effect at an anchor that there is not. -/
def lost : RenderRequest :=
  ⟨"Ruby: Hello\nSFX: chime at=later", .soloist "Ruby" "/ruby.wav", true⟩

theorem foreseen_lost :
    Rehearsal.plain.tools.RaisesOwn ∧
      ∃ s', render Rehearsal.plain.tools lost .empty =
          .error (.failure (.anchor "later" (some (Float.ofNat 2)))) s' ∧
        s'.calls = #[] := by
  have hown := raisesOwn_rehearsed .plain
  have hfault : Script.parse lost.strict lost.script =
      .error ⟨2, "SFX: chime at=later", .unknownAnchor "later"⟩ := by decide +kernel
  have hcourse : course Rehearsal.plain.tools lost .empty = .error _ _ := course_of_fault hfault
  have hrender := render_of_course_eq_error hcourse
  obtain ⟨_, -, -, -, log, hlog⟩ := (foreseen hown).2 lost .empty _ _ _ hrender
  refine ⟨hown, _, hrender, ?_⟩
  rw [hlog]
  rfl

end Render

end StoryMix
