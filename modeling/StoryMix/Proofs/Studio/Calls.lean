import StoryMix.Proofs.Studio.Frame

/-!
# Calls on record

What a run has called, as it stands on the record that tools and file operations are entered in. A
step of a run is one call that was answered (`Step.call?`); a run that stops has one more, the call
that fails, unless it stops at a check (`Halts`). If the tools keep no record of their own, the record
grows by just these calls.
-/

namespace StoryMix

/-! ## The calls of a run -/

/-- What was asked. -/
def Use.call : Use → Call
  | voice request _ => .voice request
  | probe file _ => .probe file
  | silence request _ => .silence request
  | asset root id _ => .asset root id
  | mix _ path _ => .mix path

def Step.call? : Step → Option Call
  | use u => some u.call
  | log _ => none
  | begin => none
  | makeTempDir start _ => some (.makeTempDir start)
  | makeDir path => some (.makeDir path)
  | copy source target => some (.copy source target)
  | rename source target => some (.rename source target)

def callsOf (steps : List Step) : List Call :=
  steps.filterMap Step.call?

@[simp] theorem callsOf_append (xs ys : List Step) :
    callsOf (xs ++ ys) = callsOf xs ++ callsOf ys :=
  List.filterMap_append

@[simp] theorem callsOf_map_use (us : List Use) : callsOf (us.map .use) = us.map Use.call := by
  induction us with
  | nil => rfl
  | cons u us ih => exact congrArg (u.call :: ·) ih

@[simp] theorem callsOf_map_log (entries : List LogEntry) : callsOf (entries.map .log) = [] := by
  induction entries with
  | nil => rfl
  | cons e es ih => exact ih

/-- A call that is made for a timeline. -/
def Call.gathers : Call → Bool
  | voice _ | probe _ | silence _ | asset _ _ => true
  | _ => false

/-- The call, made in `s`, raises `e`. -/
def Call.Fails (tools : Tools) : Call → Thrown → Studio → Studio → Prop
  | .voice request, e, s, s' => tools.voice request s = .error e s'
  | .probe file, e, s, s' => tools.probe file s = .error e s'
  | .silence request, e, s, s' => tools.silence request s = .error e s'
  | .asset root id, e, s, s' => tools.asset root id s = .error e s'
  | .mix path, e, s, s' => ∃ graph, tools.mix graph path s = .error e s'
  | .makeTempDir start, e, s, s' => Files.makeTempDir start s = .error e s'
  | .makeDir path, e, s, s' => Files.makeDir path s = .error e s'
  | .copy source target, e, s, s' => Files.copy source target s = .error e s'
  | .rename source target, e, s, s' => Files.rename source target s = .error e s'
  | _, _, _, _ => False

/-- A run stops in `s`: a call fails, or a check does without one. -/
inductive Halts (tools : Tools) (s : Studio) : Option Call → Thrown → Studio → Prop where
  | call {c : Call} {e : Thrown} {s' : Studio} : c.Fails tools e s s' → Halts tools s (some c) e s'
  | check (f : Failure) : Halts tools s none (.failure f) s

/-! ## The record -/

/-- From `s` to `s'` these calls have been added to the record. -/
def Adds (calls : List Call) (s s' : Studio) : Prop :=
  s'.calls.toList = s.calls.toList ++ calls

namespace Adds

variable {xs ys : List Call} {s s₁ s₂ : Studio}

theorem trans (h : Adds xs s s₁) (h' : Adds ys s₁ s₂) : Adds (xs ++ ys) s s₂ := by
  unfold Adds at *
  rw [h', h, List.append_assoc]

theorem of_eq (h : s₁.calls = s.calls) : Adds [] s s₁ := by
  simp [Adds, h]

theorem push {c : Call} (h : s₁.calls = s.calls.push c) : Adds [c] s s₁ := by
  simp [Adds, h]

end Adds

/-- The tools enter nothing in the record themselves. -/
structure Tools.Quiet (tools : Tools) : Prop where
  voice request s : ((tools.voice request).after s).calls = s.calls
  probe file s : ((tools.probe file).after s).calls = s.calls
  silence request s : ((tools.silence request).after s).calls = s.calls
  asset root id s : ((tools.asset root id).after s).calls = s.calls
  mix graph path s : ((tools.mix graph path).after s).calls = s.calls

/-- What is done after the entry leaves the record alone. -/
theorem adds_record {α : Type} {act : Action α} (h : ∀ s, (act.after s).calls = s.calls) (c : Call)
    (s : Studio) : Adds [c] s (Action.after (do Action.record c; act) s) := by
  have hcalls := h { s with calls := s.calls.push c }
  exact .push hcalls

namespace Files

theorem adds_attempt (c : Call) (s : Studio) : Adds [c] s ((attempt c).after s) := by
  unfold Action.after
  rw [attempt_eq]
  cases s.refusal? c with
  | none => exact .push rfl
  | some error => exact .push rfl

theorem adds_attempt_bind {α : Type} {act : Unit → Action α}
    (h : ∀ u s, ((act u).after s).calls = s.calls) (c : Call) (s : Studio) :
    Adds [c] s ((attempt c >>= act).after s) := by
  have hattempt := adds_attempt c s
  show Adds [c] s (Action.after (EStateM.bind (attempt c) act) s)
  unfold Action.after EStateM.bind at *
  cases hc : attempt c s with
  | ok u s₁ =>
      rw [hc] at hattempt
      exact hattempt.trans (.of_eq (h u s₁))
  | error e s₁ =>
      rw [hc] at hattempt
      exact hattempt

theorem adds_makeDir (path : String) (s : Studio) :
    Adds [.makeDir path] s ((makeDir path).after s) :=
  adds_attempt_bind (fun _ _ => rfl) _ s

theorem adds_makeTempDir (start : String) (s : Studio) :
    Adds [.makeTempDir start] s ((makeTempDir start).after s) :=
  adds_attempt_bind (fun _ _ => rfl) _ s

theorem adds_copy (source target : String) (s : Studio) :
    Adds [.copy source target] s ((copy source target).after s) := by
  unfold Action.after
  rw [copy_eq]
  refine adds_attempt_bind (fun _ s₁ => ?_) _ s
  unfold Action.after
  dsimp only
  cases s₁.tree.read? (s₁.resolve source) <;> rfl

theorem adds_rename (source target : String) (s : Studio) :
    Adds [.rename source target] s ((rename source target).after s) :=
  adds_attempt_bind (fun _ _ => rfl) _ s

theorem adds_remove (path : String) (s : Studio) :
    Adds [.remove path] s ((remove path).after s) :=
  adds_attempt_bind (fun _ _ => rfl) _ s

theorem adds_removeFile (path : String) (s : Studio) :
    Adds [.remove path] s ((removeFile path).after s) := by
  unfold Action.after
  rw [removeFile_eq]
  cases s.unlinkRefusal? path with
  | none => exact .push rfl
  | some error => exact .push rfl

end Files

section Recorded

variable {tools : Tools} (hquiet : tools.Quiet) {s s' : Studio}

include hquiet

theorem adds_of_use {u : Use} (h : u.Runs tools.recorded s s') : Adds [u.call] s s' := by
  cases u with
  | voice request file =>
      rw [← Action.after_of_ok h]
      exact adds_record (hquiet.voice request) _ s
  | probe file duration =>
      rw [← Action.after_of_ok h]
      exact adds_record (hquiet.probe file) _ s
  | silence request file =>
      rw [← Action.after_of_ok h]
      exact adds_record (hquiet.silence request) _ s
  | asset root id file =>
      rw [← Action.after_of_ok h]
      exact adds_record (hquiet.asset root id) _ s
  | mix graph path file =>
      rw [← Action.after_of_ok h]
      exact adds_record (hquiet.mix graph path) _ s

theorem adds_of_step {step : Step} (h : step.Runs tools.recorded s s') :
    Adds step.call?.toList s s' := by
  cases step with
  | use u => exact adds_of_use hquiet h
  | log entry =>
      obtain rfl : s' = _ := h
      exact .of_eq rfl
  | begin =>
      obtain rfl : s' = _ := h
      exact .of_eq rfl
  | makeTempDir start path =>
      rw [← Action.after_of_ok h]
      exact Files.adds_makeTempDir start s
  | makeDir path =>
      rw [← Action.after_of_ok h]
      exact Files.adds_makeDir path s
  | copy source target =>
      rw [← Action.after_of_ok h]
      exact Files.adds_copy source target s
  | rename source target =>
      rw [← Action.after_of_ok h]
      exact Files.adds_rename source target s

/-- A run enters its calls in the record, in their order. -/
theorem adds_of_runs {steps : List Step} (h : Runs tools.recorded steps s s') :
    Adds (callsOf steps) s s' := by
  induction steps generalizing s with
  | nil => exact .of_eq (congrArg Studio.calls (Eq.symm h))
  | cons step steps ih =>
      obtain ⟨s₁, hstep, hsteps⟩ := h
      have hcalls : callsOf (step :: steps) = step.call?.toList ++ callsOf steps := by
        unfold callsOf
        rw [List.filterMap_cons]
        cases step.call? <;> rfl
      rw [hcalls]
      exact (adds_of_step hquiet hstep).trans (ih hsteps)

theorem adds_of_fails {c : Call} {e : Thrown} (h : c.Fails tools.recorded e s s') :
    Adds [c] s s' := by
  cases c with
  | voice request =>
      rw [← Action.after_of_error h]
      exact adds_record (hquiet.voice request) _ s
  | probe file =>
      rw [← Action.after_of_error h]
      exact adds_record (hquiet.probe file) _ s
  | silence request =>
      rw [← Action.after_of_error h]
      exact adds_record (hquiet.silence request) _ s
  | asset root id =>
      rw [← Action.after_of_error h]
      exact adds_record (hquiet.asset root id) _ s
  | mix path =>
      obtain ⟨graph, h⟩ := h
      rw [← Action.after_of_error h]
      exact adds_record (hquiet.mix graph path) _ s
  | makeTempDir start =>
      rw [← Action.after_of_error h]
      exact Files.adds_makeTempDir start s
  | makeDir path =>
      rw [← Action.after_of_error h]
      exact Files.adds_makeDir path s
  | copy source target =>
      rw [← Action.after_of_error h]
      exact Files.adds_copy source target s
  | rename source target =>
      rw [← Action.after_of_error h]
      exact Files.adds_rename source target s
  | read | write | remove | execute | mediaProbe | media | mediaStep | mediaRun => exact h.elim

theorem adds_of_halts {halt : Option Call} {e : Thrown} (h : Halts tools.recorded s halt e s') :
    Adds halt.toList s s' := by
  cases h with
  | call h => exact adds_of_fails hquiet h
  | check f => exact .of_eq rfl

end Recorded

end StoryMix
