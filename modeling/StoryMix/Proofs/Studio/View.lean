import StoryMix.Proofs.Studio.Answer
import StoryMix.Proofs.Studio.Calls

/-!
# What tools go by

What a tool answers may depend on more than what it is asked: the length of a file depends on what has
been spoken into it. A `view` is the part of a studio that this may be. Tools depend on it if two studios
that look the same in view give the same answers and look the same afterwards (`Tools.DependOn`). Nobody
sees what is on record or in the log, and looking for an asset changes nothing in view, so a run that
spares some look-ups of another and logs what it likes goes through with the same answers
(`runs_of_spares`).
-/

namespace StoryMix

/-! ## Tools in view -/

section

variable {α V : Type} {view : Studio → V}

/-- What the action answers, and what is in view afterwards, depends on what was in view. -/
def Action.DependsOn (x : Action α) (view : Studio → V) : Prop :=
  ∀ s t, view s = view t → x.answer s = x.answer t ∧ view (x.after s) = view (x.after t)

structure Tools.DependOn (tools : Tools) (view : Studio → V) : Prop where
  noted s calls log : view { s with calls := calls, log := log } = view s
  voice request : (tools.voice request).DependsOn view
  probe file : (tools.probe file).DependsOn view
  silence request : (tools.silence request).DependsOn view
  asset root id : (tools.asset root id).DependsOn view
  /-- To look for an asset is only to look. -/
  found root id s : view ((tools.asset root id).after s) = view s

/-- Tools that answer by what they are asked see nothing. -/
theorem Tools.dependOn_nothing {tools : Tools}
    (hvoice : ∀ request s t, (tools.voice request).answer s = (tools.voice request).answer t)
    (hprobe : ∀ file s t, (tools.probe file).answer s = (tools.probe file).answer t)
    (hsilence : ∀ request s t, (tools.silence request).answer s = (tools.silence request).answer t)
    (hasset : ∀ root id s t, (tools.asset root id).answer s = (tools.asset root id).answer t) :
    tools.DependOn fun _ => () where
  noted _ _ _ := rfl
  voice request s t _ := ⟨hvoice request s t, rfl⟩
  probe file s t _ := ⟨hprobe file s t, rfl⟩
  silence request s t _ := ⟨hsilence request s t, rfl⟩
  asset root id s t _ := ⟨hasset root id s t, rfl⟩
  found _ _ _ := rfl

example : Tools.prompt.DependOn fun _ => () :=
  Tools.dependOn_nothing (fun _ _ _ => rfl) (fun _ _ _ => rfl) (fun _ _ _ => rfl) (fun _ _ _ _ => rfl)

theorem Action.DependsOn.ok {x : Action α} (h : x.DependsOn view) {s s' t : Studio} {a : α}
    (hst : view s = view t) (hx : x s = .ok a s') : ∃ t', x t = .ok a t' ∧ view s' = view t' := by
  obtain ⟨hanswer, hview⟩ := h s t hst
  rw [answer_of_ok hx] at hanswer
  rw [after_of_ok hx] at hview
  exact ⟨_, eq_of_answer_ok hanswer.symm, hview⟩

/-- The record makes no difference. -/
theorem Action.DependsOn.record {x : Action α} (h : x.DependsOn view)
    (hnoted : ∀ s calls log, view { s with calls := calls, log := log } = view s) (c : Call) :
    Action.DependsOn (do Action.record c; x) view := by
  intro s t hst
  refine h { s with calls := s.calls.push c } { t with calls := t.calls.push c } ?_
  exact (hnoted s _ _).trans (hst.trans (hnoted t _ _).symm)

theorem Tools.DependOn.recorded {tools : Tools} (h : tools.DependOn view) :
    tools.recorded.DependOn view where
  noted := h.noted
  voice request := (h.voice request).record h.noted _
  probe file := (h.probe file).record h.noted _
  silence request := (h.silence request).record h.noted _
  asset root id := (h.asset root id).record h.noted _
  found root id s := (h.found root id { s with calls := s.calls.push (.asset root id) }).trans
    (h.noted s _ _)

end

/-! ## Runs with fewer look-ups -/

/-- A call that is made for the narration. -/
def Call.narrates : Call → Bool
  | voice _ | probe _ | silence _ => true
  | _ => false

/-- The second run does without some look-ups of the first, whatever either of them logs. -/
inductive Spares : List Step → List Step → Prop
  | nil : Spares [] []
  | use {u : Use} {xs ys : List Step} :
      u.call.gathers = true → Spares xs ys → Spares (.use u :: xs) (.use u :: ys)
  | lookup {root id file : String} {xs ys : List Step} :
      Spares xs ys → Spares (.use (.asset root id file) :: xs) ys
  | logged {entry : LogEntry} {xs ys : List Step} : Spares xs ys → Spares (.log entry :: xs) ys
  | logs {entry : LogEntry} {xs ys : List Step} : Spares xs ys → Spares xs (.log entry :: ys)

namespace Spares

variable {xs ys : List Step}

theorem append {xs' ys' : List Step} (h : Spares xs ys) (h' : Spares xs' ys') :
    Spares (xs ++ xs') (ys ++ ys') := by
  induction h with
  | nil => exact h'
  | use hgathers _ ih => exact .use hgathers ih
  | lookup _ ih => exact .lookup ih
  | logged _ ih => exact .logged ih
  | logs _ ih => exact .logs ih

theorem map_use {us : List Use} (h : us.all (·.call.gathers) = true) :
    Spares (us.map .use) (us.map .use) := by
  induction us with
  | nil => exact .nil
  | cons u us ih =>
      rw [List.all_cons, Bool.and_eq_true] at h
      exact .use h.1 (ih h.2)

theorem map_log (entries entries' : List LogEntry) :
    Spares (entries.map .log) (entries'.map .log) := by
  induction entries with
  | nil =>
      induction entries' with
      | nil => exact .nil
      | cons entry entries' ih => exact .logs ih
  | cons entry entries ih => exact .logged ih

/-- No call for the narration is spared. -/
theorem filter_narrates (h : Spares xs ys) :
    (callsOf ys).filter Call.narrates = (callsOf xs).filter Call.narrates := by
  induction h with
  | nil => rfl
  | @use u xs ys _ _ ih =>
      change (u.call :: callsOf ys).filter _ = (u.call :: callsOf xs).filter _
      rw [List.filter_cons, List.filter_cons, ih]
  | lookup _ ih => exact ih
  | logged _ ih => exact ih
  | logs _ ih => exact ih

end Spares

section Runs

variable {V : Type} {view : Studio → V} {tools : Tools} (htools : tools.DependOn view)
  {s s' t : Studio}

include htools

theorem use_of_view {u : Use} (hgathers : u.call.gathers = true) (hst : view s = view t)
    (h : u.Runs tools s s') : ∃ t', u.Runs tools t t' ∧ view s' = view t' := by
  cases u with
  | voice request file => exact (htools.voice request).ok hst h
  | probe file duration => exact (htools.probe file).ok hst h
  | silence request file => exact (htools.silence request).ok hst h
  | asset root id file => exact (htools.asset root id).ok hst h
  | mix graph path file => cases hgathers

/-- What can be run can be run with fewer look-ups, and what is in view is the same in the end. -/
theorem runs_of_spares {xs ys : List Step} (h : Spares xs ys) (hst : view s = view t)
    (hruns : Runs tools xs s s') : ∃ t', Runs tools ys t t' ∧ view s' = view t' := by
  induction h generalizing s t with
  | nil =>
      cases hruns
      exact ⟨t, rfl, hst⟩
  | use hgathers _ ih =>
      obtain ⟨s₁, huse, hruns⟩ := hruns
      obtain ⟨t₁, huse', hview⟩ := use_of_view htools hgathers hst huse
      obtain ⟨t', hruns', hview⟩ := ih hview hruns
      exact ⟨t', ⟨t₁, huse', hruns'⟩, hview⟩
  | @lookup root id file _ _ _ ih =>
      obtain ⟨s₁, huse, hruns⟩ := hruns
      have hfound := htools.found root id s
      rw [Action.after_of_ok huse] at hfound
      exact ih (hfound.trans hst) hruns
  | logged _ ih =>
      obtain ⟨s₁, rfl, hruns⟩ := hruns
      exact ih ((htools.noted s _ _).trans hst) hruns
  | @logs entry _ _ _ ih =>
      have hlogged := htools.noted t t.calls (t.log.push entry)
      obtain ⟨t', hruns', hview⟩ := ih (hst.trans hlogged.symm) hruns
      exact ⟨t', ⟨_, rfl, hruns'⟩, hview⟩

end Runs

end StoryMix
