import StoryMix.Proofs.Studio.View

/-!
# Runs that differ in what they log

The log is written for people, and no tool reads it. So actions can be compared without it: two of them
are alike if, from studios that differ in their logs at most, they give or raise the same and leave
studios that again differ in their logs at most. Alike parts make alike actions (`Alike.bind`), whatever
either of them logs (`Alike.say`).
-/

namespace StoryMix

/-- All of a studio but its log. -/
def Studio.unlogged (s : Studio) : Studio :=
  { s with log := #[] }

namespace Action

variable {α β : Type}

/-- From studios that differ in their logs at most, both give or raise the same, and leave studios that
differ in their logs at most. -/
def Alike (x y : Action α) : Prop :=
  ∀ s t : Studio, s.unlogged = t.unlogged →
    x.answer s = y.answer t ∧ (x.after s).unlogged = (y.after t).unlogged

namespace Alike

theorem pure (a : α) : Alike (Pure.pure a) (Pure.pure a) :=
  fun _ _ hst => ⟨rfl, hst⟩

theorem fail (failure : Failure) : Alike (Action.fail failure : Action α) (Action.fail failure) :=
  fun _ _ hst => ⟨rfl, hst⟩

theorem ofExcept (r : Except Failure α) : Alike (Action.ofExcept r) (Action.ofExcept r) := by
  cases r with
  | ok a => exact .pure a
  | error failure => exact .fail failure

/-- What is said makes no difference. -/
theorem say (level level' : Level) (message message' : String) (arguments arguments' : List Value) :
    Alike (Action.say level message arguments) (Action.say level' message' arguments') :=
  fun _ _ hst => ⟨rfl, hst⟩

/-- A change that the log has no part in. -/
theorem modify {f : Studio → Studio} (h : ∀ s, (f s).unlogged = (f s.unlogged).unlogged) :
    Alike (modify f) (modify f) := by
  intro s t hst
  have hview : (f s).unlogged = (f t).unlogged := by rw [h s, hst, ← h t]
  exact ⟨rfl, hview⟩

theorem record (c : Call) : Alike (Action.record c) (Action.record c) :=
  .modify fun _ => rfl

/-- Alike actions go on alike, if they do so from every answer that the first of them can give. -/
theorem bind {x y : Action α} {f g : α → Action β} (h : Alike x y)
    (hrest : ∀ a s s', x s = .ok a s' → Alike (f a) (g a)) : Alike (x >>= f) (y >>= g) := by
  intro s t hst
  obtain ⟨hanswer, hview⟩ := h s t hst
  cases hx : x s with
  | ok a s₁ =>
      rw [answer_of_ok hx] at hanswer
      have hy := eq_of_answer_ok hanswer.symm
      have hnext := hrest a s s₁ hx s₁ (y.after t) (by rw [← hview, after_of_ok hx])
      unfold answer after at hnext ⊢
      rw [bind_of_ok hx, bind_of_ok hy]
      exact hnext
  | error e s₁ =>
      rw [answer_of_error hx] at hanswer
      have hy := eq_of_answer_error hanswer.symm
      rw [after_of_error hx] at hview
      unfold answer after
      rw [bind_of_error hx, bind_of_error hy]
      exact ⟨rfl, hview⟩

theorem map {x y : Action α} (h : Alike x y) (f : α → β) : Alike (f <$> x) (f <$> y) :=
  h.bind fun _ _ _ _ => .pure _

end Alike

end Action

open Action (Alike)

/-- What the tools answer and do does not depend on the log. -/
structure Tools.BlindToLog (tools : Tools) : Prop where
  voice request : Alike (tools.voice request) (tools.voice request)
  probe file : Alike (tools.probe file) (tools.probe file)
  silence request : Alike (tools.silence request) (tools.silence request)
  asset root id : Alike (tools.asset root id) (tools.asset root id)

theorem Tools.BlindToLog.recorded {tools : Tools} (h : tools.BlindToLog) :
    tools.recorded.BlindToLog where
  voice request := (Alike.record _).bind fun _ _ _ _ => h.voice request
  probe file := (Alike.record _).bind fun _ _ _ _ => h.probe file
  silence request := (Alike.record _).bind fun _ _ _ _ => h.silence request
  asset root id := (Alike.record _).bind fun _ _ _ _ => h.asset root id

end StoryMix
