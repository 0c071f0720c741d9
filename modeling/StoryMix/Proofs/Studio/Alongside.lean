import StoryMix.Proofs.Studio.Answer

/-!
# Two runs side by side

What is common to two runs that begin in different studios. `Alongside` says of two endings that both are
answers and these are alike, or both are failures and those are alike; and that either run leaves a studio
in which the same operations are refused. Runs that go on from endings like that are followed part by
part, with `bind` for one part after the other.

An operation on files goes the same way in both if it is refused in both or in none. What is refused
beforehand does not go by the paths, if the studio is blind for them (`Refusals.Blind`); on a disk there is
also what stands at them, and that has to be looked at (`attempt_bind`).
-/

namespace StoryMix

/-- Two runs have ended alike: in two answers, or in two failures. -/
inductive Alongside (refusals : Refusals) (E : Thrown → Thrown → Prop) {α β : Type}
    (R : α → Studio → β → Studio → Prop) :
    EStateM.Result Thrown Studio α → EStateM.Result Thrown Studio β → Prop where
  | ok {a : α} {b : β} {s t : Studio} :
      R a s b t → s.refusals = refusals → t.refusals = refusals →
      Alongside refusals E R (.ok a s) (.ok b t)
  | error {e e' : Thrown} {s t : Studio} :
      E e e' → s.refusals = refusals → t.refusals = refusals →
      Alongside refusals E R (.error e s) (.error e' t)

namespace Alongside

variable {refusals : Refusals} {E : Thrown → Thrown → Prop} {α β γ δ : Type} {s t : Studio}
  {R : α → Studio → β → Studio → Prop} {R' : γ → Studio → δ → Studio → Prop}

theorem mono {E' : Thrown → Thrown → Prop} {Q : α → Studio → β → Studio → Prop}
    {r : EStateM.Result Thrown Studio α} {r' : EStateM.Result Thrown Studio β}
    (h : Alongside refusals E R r r') (hE : ∀ e e', E e e' → E' e e')
    (hR : ∀ a s b t, R a s b t → Q a s b t) : Alongside refusals E' Q r r' := by
  cases h with
  | ok h hs ht => exact .ok (hR _ _ _ _ h) hs ht
  | error h hs ht => exact .error (hE _ _ h) hs ht

/-- What is known of the first parts, and that they end in these answers, is known for the rest. -/
theorem bind_of_runs {x : Action α} {y : Action β} {f : α → Action γ} {g : β → Action δ}
    (hx : Alongside refusals E R (x s) (y t))
    (hf : ∀ a s' b t', x s = .ok a s' → y t = .ok b t' → R a s' b t' → s'.refusals = refusals →
      t'.refusals = refusals → Alongside refusals E R' (f a s') (g b t')) :
    Alongside refusals E R' ((x >>= f) s) ((y >>= g) t) := by
  change Alongside refusals E R' (EStateM.bind x f s) (EStateM.bind y g t)
  unfold EStateM.bind
  cases hxs : x s with
  | ok a s₁ =>
      rw [hxs] at hx
      cases hyt : y t with
      | ok b t₁ =>
          rw [hyt] at hx
          cases hx with
          | ok h hs ht => exact hf a s₁ b t₁ hxs hyt h hs ht
      | error e t₁ =>
          rw [hyt] at hx
          cases hx
  | error e s₁ =>
      rw [hxs] at hx
      cases hyt : y t with
      | ok b t₁ =>
          rw [hyt] at hx
          cases hx
      | error e' t₁ =>
          rw [hyt] at hx
          cases hx with
          | error h hs ht => exact .error h hs ht

theorem bind {x : Action α} {y : Action β} {f : α → Action γ} {g : β → Action δ}
    (hx : Alongside refusals E R (x s) (y t))
    (hf : ∀ a s' b t', R a s' b t' → s'.refusals = refusals → t'.refusals = refusals →
      Alongside refusals E R' (f a s') (g b t')) :
    Alongside refusals E R' ((x >>= f) s) ((y >>= g) t) :=
  hx.bind_of_runs fun a s' b t' _ _ => hf a s' b t'

/-- Both runs clean up after a failure, and may fail at that. -/
theorem onFailure_of_runs {x : Action α} {y : Action β} {cleanup cleanup' : Thrown → Action Unit}
    (hx : Alongside refusals E R (x s) (y t))
    (hcleanup : ∀ e s' e' t', x s = .error e s' → y t = .error e' t' → E e e' →
      s'.refusals = refusals → t'.refusals = refusals →
      Alongside refusals E (fun _ _ _ _ => True) (cleanup e s') (cleanup' e' t')) :
    Alongside refusals E R (x.onFailure cleanup s) (y.onFailure cleanup' t) := by
  unfold Action.onFailure
  generalize x s = r at hx hcleanup ⊢
  generalize y t = r' at hx hcleanup ⊢
  cases hx with
  | ok h hs ht => exact .ok h hs ht
  | @error e e' s₁ t₁ h hs ht =>
      have hc := hcleanup e s₁ e' t₁ rfl rfl h hs ht
      dsimp only
      generalize cleanup e s₁ = c at hc ⊢
      generalize cleanup' e' t₁ = c' at hc ⊢
      cases hc with
      | ok _ hs ht => exact .error h hs ht
      | error h hs ht => exact .error h hs ht

theorem onFailure {x : Action α} {y : Action β} {cleanup cleanup' : Thrown → Action Unit}
    (hx : Alongside refusals E R (x s) (y t))
    (hcleanup : ∀ e s' e' t', E e e' → s'.refusals = refusals → t'.refusals = refusals →
      Alongside refusals E (fun _ _ _ _ => True) (cleanup e s') (cleanup' e' t')) :
    Alongside refusals E R (x.onFailure cleanup s) (y.onFailure cleanup' t) :=
  hx.onFailure_of_runs fun e s' e' t' _ _ => hcleanup e s' e' t'

/-- Both runs clean up in the end, and what is known of their answers stays known. -/
theorem always {Q : α → β → Prop} {x : Action α} {y : Action β} {cleanup cleanup' : Action Unit}
    (hx : Alongside refusals E (fun a _ b _ => Q a b) (x s) (y t))
    (hcleanup : ∀ s' t', s'.refusals = refusals → t'.refusals = refusals →
      Alongside refusals E (fun _ _ _ _ => True) (cleanup s') (cleanup' t')) :
    Alongside refusals E (fun a _ b _ => Q a b) (x.always cleanup s) (y.always cleanup' t) := by
  unfold Action.always
  generalize x s = r at hx ⊢
  generalize y t = r' at hx ⊢
  cases hx with
  | @ok a b s₁ t₁ h hs ht =>
      have hc := hcleanup s₁ t₁ hs ht
      dsimp only
      generalize cleanup s₁ = c at hc ⊢
      generalize cleanup' t₁ = c' at hc ⊢
      cases hc with
      | ok _ hs ht => exact .ok h hs ht
      | error h hs ht => exact .error h hs ht
  | @error e e' s₁ t₁ h hs ht =>
      have hc := hcleanup s₁ t₁ hs ht
      dsimp only
      generalize cleanup s₁ = c at hc ⊢
      generalize cleanup' t₁ = c' at hc ⊢
      cases hc with
      | ok _ hs ht => exact .error h hs ht
      | error h hs ht => exact .error h hs ht

section Leaves

variable (hs : s.refusals = refusals) (ht : t.refusals = refusals)
include hs ht

theorem say (level level' : Level) (message message' : String) (arguments arguments' : List Value) :
    Alongside refusals E (fun _ _ _ _ => True) (Action.say level message arguments s)
      (Action.say level' message' arguments' t) :=
  .ok trivial hs ht

/-- Both runs make the same check. -/
theorem ofExcept (hE : ∀ e, E e e) (r : Except Failure α) :
    Alongside refusals E (fun a s' b t' => r = .ok a ∧ a = b ∧ s = s' ∧ t = t')
      (Action.ofExcept r s) (Action.ofExcept r t) := by
  cases r with
  | ok a => exact .ok ⟨rfl, rfl, rfl, rfl⟩ hs ht
  | error f => exact .error (hE _) hs ht

/-- Two operations of which both go through, or both fail alike: refused beforehand in the same words, or
on a disk for the same obstacle. -/
theorem refused (hE : ∀ e, E e e) {call call' : Call}
    (hcall : refusals.message? call' = refusals.message? call)
    (hmet : refusals.onDisk = true → t.obstacle? call' = s.obstacle? call ∧
      ∀ o ∈ s.obstacle? call, E (.error ↑(o.message call)) (.error ↑(o.message call'))) :
    (s.refusal? call = none ∧ t.refusal? call' = none) ∨
      ∃ e e', s.refusal? call = some e ∧ t.refusal? call' = some e' ∧ E (.error e) (.error e') := by
  rw [Studio.refusal?, Studio.refusal?, hs, ht, hcall]
  cases refusals.message? call with
  | some message => exact .inr ⟨_, _, rfl, rfl, hE _⟩
  | none =>
      cases hdisk : refusals.onDisk with
      | false => exact .inl ⟨rfl, rfl⟩
      | true =>
          obtain ⟨hsame, hmet⟩ := hmet hdisk
          rw [hsame]
          cases ho : s.obstacle? call with
          | none => exact .inl ⟨rfl, rfl⟩
          | some o => exact .inr ⟨_, _, rfl, rfl, hmet o ho⟩

theorem attempt_bind (hE : ∀ e, E e e) {call call' : Call}
    (hcall : refusals.message? call' = refusals.message? call)
    (hmet : refusals.onDisk = true → t.obstacle? call' = s.obstacle? call ∧
      ∀ o ∈ s.obstacle? call, E (.error ↑(o.message call)) (.error ↑(o.message call')))
    {f : Unit → Action α} {g : Unit → Action β}
    (hf : Alongside refusals E R (f () { s with calls := s.calls.push call })
      (g () { t with calls := t.calls.push call' })) :
    Alongside refusals E R ((Files.attempt call >>= f) s) ((Files.attempt call' >>= g) t) := by
  have hattempt := Files.attempt_eq call s
  have hattempt' := Files.attempt_eq call' t
  rcases refused hs ht hE hcall hmet with ⟨hm, hm'⟩ | ⟨e, e', hm, hm', he⟩
  · rw [hm] at hattempt
    rw [hm'] at hattempt'
    rw [Action.bind_of_ok hattempt, Action.bind_of_ok hattempt']
    exact hf
  · rw [hm] at hattempt
    rw [hm'] at hattempt'
    rw [Action.bind_of_error hattempt, Action.bind_of_error hattempt']
    exact .error he hs ht

end Leaves

end Alongside

/-- Which operations are refused does not depend on the names of temporary files. -/
structure Refusals.Blind (r : Refusals) : Prop where
  makeTempDir start start' : r.message? (.makeTempDir start') = r.message? (.makeTempDir start)
  copy source target source' target' :
    r.message? (.copy source' target') = r.message? (.copy source target)
  rename source source' target : r.message? (.rename source' target) = r.message? (.rename source target)
  remove path path' : r.message? (.remove path') = r.message? (.remove path)

/-- Whole kinds of operations are refused without a look at their paths. -/
theorem Refusals.blind_ofDisk (kinds : List (FileOperation × String)) : (ofDisk kinds).Blind :=
  ⟨fun _ _ => rfl, fun _ _ _ _ => rfl, fun _ _ _ => rfl, fun _ _ => rfl⟩

end StoryMix
