import StoryMix.Proofs.Studio.Frame

/-!
# What an action answers

An action that is followed step by step: if its first part has an answer, the rest goes on from there,
and if its first part fails, that is the end of it. `answer` is what comes out in either way, and with
`after` it is all that there is to an action in a studio.

Where a failure is told of and then raised again, it comes out as it was, unless it cannot be written out
(`Thrown.told`).
-/

namespace StoryMix

/-- What comes out in the end where something raised is told of and raised again. -/
def Thrown.told (e : Thrown) : Thrown :=
  if e.message?.isSome then e else .unwritable

@[simp] theorem Thrown.told_failure (f : Failure) : (failure f).told = failure f :=
  rfl

@[simp] theorem Thrown.told_error (e : PlainError) : (error e).told = error e :=
  rfl

theorem Thrown.told_of_some {e : Thrown} {message : String} (h : e.message? = some message) :
    e.told = e := by
  rw [told, h]
  rfl

theorem Thrown.told_of_none {e : Thrown} (h : e.message? = none) : e.told = unwritable := by
  rw [told, h]
  rfl

theorem Thrown.told_eq_failure {e : Thrown} {f : Failure} (h : e.told = failure f) : e = failure f := by
  cases hmessage : e.message? with
  | none =>
      rw [told_of_none hmessage] at h
      cases h
  | some message => rwa [told_of_some hmessage] at h

/-- What is told is either what was raised or the error of the attempt. -/
theorem Thrown.told_cases (e : Thrown) : e.told = e ∨ e.told = unwritable := by
  cases hmessage : e.message? with
  | none => exact .inr (told_of_none hmessage)
  | some message => exact .inl (told_of_some hmessage)

namespace Action

variable {α β : Type} {s s₁ : Studio} {e : Thrown}

/-- What an action gives or raises, whatever it leaves behind. -/
def answer (x : Action α) (s : Studio) : Except Thrown α :=
  match x s with
  | .ok a _ => .ok a
  | .error e _ => .error e

theorem answer_of_ok {x : Action α} {a : α} (h : x s = .ok a s₁) : x.answer s = .ok a := by
  rw [answer, h]

theorem answer_of_error {x : Action α} (h : x s = .error e s₁) : x.answer s = .error e := by
  rw [answer, h]

theorem eq_of_answer_ok {x : Action α} {a : α} (h : x.answer s = .ok a) :
    x s = .ok a (x.after s) := by
  unfold answer at h
  unfold after
  cases hx : x s with
  | ok b s₁ =>
      rw [hx] at h
      cases h
      rfl
  | error e s₁ =>
      rw [hx] at h
      cases h

theorem eq_of_answer_error {x : Action α} (h : x.answer s = .error e) :
    x s = .error e (x.after s) := by
  unfold answer at h
  unfold after
  cases hx : x s with
  | ok b s₁ =>
      rw [hx] at h
      cases h
  | error e s₁ =>
      rw [hx] at h
      cases h
      rfl

/-! ## One part after the other -/

theorem bind_of_ok {x : Action α} {f : α → Action β} {a : α} (h : x s = .ok a s₁) :
    (x >>= f) s = f a s₁ := by
  show EStateM.bind x f s = _
  rw [EStateM.bind, h]

theorem bind_of_error {x : Action α} {f : α → Action β} (h : x s = .error e s₁) :
    (x >>= f) s = .error e s₁ := by
  show EStateM.bind x f s = _
  rw [EStateM.bind, h]

theorem writing_bind_of_some {text? : Option String} {text : String} {f : String → Action α}
    (h : text? = some text) : (writing text? >>= f) s = f text s := by
  rw [h]
  rfl

theorem writing_bind_of_none {text? : Option String} {f : String → Action α} (h : text? = none) :
    (writing text? >>= f) s = .error .unwritable s := by
  rw [h]
  rfl

theorem outcome_of_ok {x : Action α} {a : α} (h : x s = .ok a s₁) :
    x.outcome s = .ok (.ok a) s₁ := by
  rw [outcome, h]

theorem outcome_of_error {x : Action α} (h : x s = .error e s₁) :
    x.outcome s = .ok (.error e) s₁ := by
  rw [outcome, h]

/-! ## What is left -/

theorem after_outcome (x : Action α) (s : Studio) : x.outcome.after s = x.after s := by
  unfold after outcome
  cases x s with
  | ok a s₁ => rfl
  | error e s₁ => rfl

theorem after_onFailure_of_ok {x : Action α} {a : α} (cleanup : Thrown → Action Unit)
    (h : x s = .ok a s₁) : (x.onFailure cleanup).after s = s₁ := by
  rw [after, onFailure, h]

theorem after_onFailure_of_error {x : Action α} (cleanup : Thrown → Action Unit)
    (h : x s = .error e s₁) : (x.onFailure cleanup).after s = (cleanup e).after s₁ := by
  rw [after, onFailure, h, after]
  dsimp only
  cases cleanup e s₁ with
  | ok u s₂ => rfl
  | error e₂ s₂ => rfl

/-- However the action ends, its cleanup leaves what it leaves behind the action. -/
theorem after_always (x : Action α) (cleanup : Action Unit) (s : Studio) :
    (x.always cleanup).after s = cleanup.after (x.after s) := by
  unfold after always
  cases x s with
  | ok a s₁ =>
      dsimp only
      cases cleanup s₁ with
      | ok u s₂ => rfl
      | error e s₂ => rfl
  | error e s₁ =>
      dsimp only
      cases cleanup s₁ with
      | ok u s₂ => rfl
      | error e s₂ => rfl

end Action

end StoryMix
