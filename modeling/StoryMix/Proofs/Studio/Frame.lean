import StoryMix.Proofs.Studio.FileTree
import StoryMix.Proofs.Studio.Run

/-!
# What an action leaves alone

An action may end in two ways, and what it has done by then stays done. `Confined W` says of two
studios that from one to the other no file has changed but at the paths of `W`; an action is confined
if the studio it leaves is, however it ends, and actions one after the other are confined if each of
them is (`confines_bind`). Tools are tidy if each is confined to the path it is given.

For the operations on files it is said more exactly which tree they leave, in either way to end.
-/

namespace StoryMix

/-! ## Actions that fail -/

namespace Action

variable {α β : Type} {s s' : Studio} {e : Thrown}

theorem bind_eq_error {x : Action α} {f : α → Action β} (h : (x >>= f) s = .error e s') :
    x s = .error e s' ∨ ∃ a s₁, x s = .ok a s₁ ∧ f a s₁ = .error e s' := by
  change EStateM.bind x f s = _ at h
  unfold EStateM.bind at h
  cases hx : x s with
  | ok a s₁ =>
      rw [hx] at h
      exact .inr ⟨a, s₁, rfl, h⟩
  | error e₁ s₁ =>
      rw [hx] at h
      cases h
      exact .inl rfl

theorem ofExcept_eq_error {r : Except Failure α} (h : ofExcept r s = .error e s') : s' = s := by
  cases r with
  | ok a => cases h
  | error f =>
      cases h
      rfl

theorem exists_failure_of_ofExcept {r : Except Failure α} (h : ofExcept r s = .error e s') :
    ∃ f, r = .error f ∧ e = .failure f ∧ s' = s := by
  cases r with
  | ok a => cases h
  | error f =>
      cases h
      exact ⟨f, rfl, rfl, rfl⟩

theorem onFailure_eq_error {act : Action α} {cleanup : Thrown → Action Unit}
    (h : act.onFailure cleanup s = .error e s') :
    ∃ e₁ s₁, act s = .error e₁ s₁ ∧
      (cleanup e₁ s₁ = .ok () s' ∨ cleanup e₁ s₁ = .error e s') := by
  unfold onFailure at h
  cases hact : act s with
  | ok a s₁ =>
      rw [hact] at h
      cases h
  | error e₁ s₁ =>
      rw [hact] at h
      refine ⟨e₁, s₁, rfl, ?_⟩
      cases hc : cleanup e₁ s₁ with
      | ok u s₂ =>
          simp only [hc] at h
          cases h
          exact .inl rfl
      | error e₂ s₂ =>
          simp only [hc] at h
          cases h
          exact .inr rfl

theorem always_eq_error {act : Action α} {cleanup : Action Unit}
    (h : act.always cleanup s = .error e s') :
    (∃ a s₁, act s = .ok a s₁ ∧ cleanup s₁ = .error e s') ∨
      ∃ e₁ s₁, act s = .error e₁ s₁ ∧ (cleanup s₁ = .ok () s' ∨ cleanup s₁ = .error e s') := by
  unfold always at h
  cases hact : act s with
  | ok a s₁ =>
      rw [hact] at h
      refine .inl ⟨a, s₁, rfl, ?_⟩
      cases hc : cleanup s₁ with
      | ok u s₂ =>
          simp only [hc] at h
          cases h
      | error e₂ s₂ =>
          simp only [hc] at h
          cases h
          rfl
  | error e₁ s₁ =>
      rw [hact] at h
      refine .inr ⟨e₁, s₁, rfl, ?_⟩
      cases hc : cleanup s₁ with
      | ok u s₂ =>
          simp only [hc] at h
          cases h
          exact .inl rfl
      | error e₂ s₂ =>
          simp only [hc] at h
          cases h
          exact .inr rfl

/-- The studio that an action leaves, however it ends. -/
def after (x : Action α) (s : Studio) : Studio :=
  match x s with
  | .ok _ s' => s'
  | .error _ s' => s'

theorem after_of_ok {x : Action α} {a : α} (h : x s = .ok a s') : x.after s = s' := by
  rw [after, h]

theorem after_of_error {x : Action α} (h : x s = .error e s') : x.after s = s' := by
  rw [after, h]

end Action

/-! ## Confined changes -/

/-- Paths are resolved against the current directory and nothing else. -/
theorem Studio.resolve_of_cwd {s s' : Studio} (h : s'.cwd = s.cwd) (path : String) :
    s'.resolve path = s.resolve path := by
  rw [resolve, resolve, h]

/-- From `s` to `s'` no directory was made or removed and no file changed but at the paths of `W`. -/
structure Confined (W : String → Prop) (s s' : Studio) : Prop where
  cwd : s'.cwd = s.cwd
  refusals : s'.refusals = s.refusals
  dirs : s'.tree.dirs = s.tree.dirs
  files : ∀ path, ¬ W path → s'.tree.read? path = s.tree.read? path

namespace Confined

variable {W V : String → Prop} {s s₁ s₂ : Studio}

theorem refl (W : String → Prop) (s : Studio) : Confined W s s :=
  ⟨rfl, rfl, rfl, fun _ _ => rfl⟩

theorem trans (h₁ : Confined W s s₁) (h₂ : Confined W s₁ s₂) : Confined W s s₂ where
  cwd := h₂.cwd.trans h₁.cwd
  refusals := h₂.refusals.trans h₁.refusals
  dirs := h₂.dirs.trans h₁.dirs
  files path hpath := (h₂.files path hpath).trans (h₁.files path hpath)

theorem mono (hsub : ∀ path, W path → V path) (h : Confined W s s₁) : Confined V s s₁ where
  cwd := h.cwd
  refusals := h.refusals
  dirs := h.dirs
  files path hpath := h.files path fun hw => hpath (hsub path hw)

theorem resolve (h : Confined W s s₁) (path : String) : s₁.resolve path = s.resolve path :=
  Studio.resolve_of_cwd h.cwd path

end Confined

namespace Action

variable {α β : Type} {W : String → Prop}

/-- However the action ends, it is confined. -/
def Confines (W : String → Prop) (x : Action α) : Prop :=
  ∀ s, Confined W s (x.after s)

theorem confines_pure (a : α) : Confines W (pure a) :=
  fun s => .refl W s

theorem confines_ofExcept (r : Except Failure α) : Confines W (ofExcept r) := by
  intro s
  cases r with
  | ok a => exact .refl W s
  | error f => exact .refl W s

theorem confines_say (level : Level) (message : String) (arguments : List Value) :
    Confines W (say level message arguments) :=
  fun _ => ⟨rfl, rfl, rfl, fun _ _ => rfl⟩

theorem confines_bind {x : Action α} {f : α → Action β} (hx : Confines W x)
    (hf : ∀ a, Confines W (f a)) : Confines W (x >>= f) := by
  intro s
  have h := hx s
  change Confined W s (match EStateM.bind x f s with | .ok _ s' => s' | .error _ s' => s')
  unfold EStateM.bind
  unfold after at h
  cases hxs : x s with
  | ok a s₁ =>
      rw [hxs] at h
      exact h.trans (hf a s₁)
  | error e s₁ =>
      rw [hxs] at h
      exact h

theorem confines_map {x : Action α} (f : α → β) (hx : Confines W x) : Confines W (f <$> x) := by
  rw [← bind_pure_comp]
  exact confines_bind hx fun a => confines_pure (f a)

end Action

/-- The tools change no file but the one whose path they are given, however they end. -/
structure Tools.Tidy (tools : Tools) : Prop where
  voice request s : Confined (· = s.resolve request.outputPath) s ((tools.voice request).after s)
  probe file s : Confined (fun _ => False) s ((tools.probe file).after s)
  silence request s :
    Confined (· = s.resolve request.outputPath) s ((tools.silence request).after s)
  asset root id s : Confined (fun _ => False) s ((tools.asset root id).after s)
  mix graph path s : Confined (· = s.resolve path) s ((tools.mix graph path).after s)

/-! ## Operations on files -/

/-- `s'` is `s` with this tree and perhaps more on record. -/
structure Becomes (s : Studio) (tree : FileTree) (s' : Studio) : Prop where
  tree : s'.tree = tree
  cwd : s'.cwd = s.cwd
  refusals : s'.refusals = s.refusals

theorem Becomes.resolve {s s' : Studio} {tree : FileTree} (h : Becomes s tree s') (path : String) :
    s'.resolve path = s.resolve path :=
  Studio.resolve_of_cwd h.cwd path

theorem Becomes.trans {s s₁ s₂ : Studio} {tree₁ tree₂ : FileTree} (h₁ : Becomes s tree₁ s₁)
    (h₂ : Becomes s₁ tree₂ s₂) : Becomes s tree₂ s₂ :=
  ⟨h₂.tree, h₂.cwd.trans h₁.cwd, h₂.refusals.trans h₁.refusals⟩

namespace Studio

/-- The removal of a file at one path takes another path along. On a disk that is the file itself only. -/
def unlinks (s : Studio) (path other : String) : Bool :=
  other == path || (!s.refusals.onDisk && Path.below path other)

theorem ne_of_unlinks {s : Studio} {path other : String} (h : s.unlinks path other = false) :
    other ≠ path :=
  ne_of_beq_false (Bool.or_eq_false_iff.1 h).1

theorem unlinks_of_refusals {s s' : Studio} (h : s'.refusals = s.refusals) (path other : String) :
    s'.unlinks path other = s.unlinks path other := by
  rw [unlinks, unlinks, h]

/-- What an operation fails with is told by the tree, the directory and the refusals. -/
theorem refusal?_of_becomes {s s' : Studio} (h : Becomes s s.tree s') (call : Call) :
    s'.refusal? call = s.refusal? call := by
  obtain ⟨htree, hcwd, hrefusals⟩ := h
  cases s
  cases s'
  cases htree
  cases hcwd
  cases hrefusals
  rfl

/-- An operation that fails is refused, or an obstacle is named, and both in a plain message. -/
theorem exists_message_of_refusal? {s : Studio} {call : Call} {error : PlainError}
    (h : s.refusal? call = some error) : ∃ message : String, error = ↑message := by
  unfold refusal? at h
  split at h
  · exact ⟨_, (Option.some.inj h).symm⟩
  · split at h
    · obtain ⟨o, -, rfl⟩ := Option.map_eq_some_iff.1 h
      exact ⟨_, rfl⟩
    · cases h

/-- Nothing stands in the way of reading but that the file is not there, which is found out then. -/
theorem refusal?_read (s : Studio) (path : String) :
    s.refusal? (.read path) = (s.refusals.message? (.read path)).map fun message => ↑message := by
  unfold refusal?
  cases s.refusals.message? (.read path) with
  | some message => rfl
  | none => simp [obstacle?]

/-- Nothing stands in the way of the removal of a directory with all in it. -/
theorem refusal?_remove_eq_some {s : Studio} {path : String} {error : PlainError} :
    s.refusal? (.remove path) = some error ↔
      ∃ message : String, s.refusals.message? (.remove path) = some message ∧ error = ↑message := by
  unfold refusal?
  cases s.refusals.message? (.remove path) with
  | some message => simp [eq_comm]
  | none => simp [obstacle?]

/-- What is not refused meets no obstacle on a disk. -/
theorem refusal?_eq_none {s : Studio} {call : Call} :
    s.refusal? call = none ↔
      s.refusals.message? call = none ∧ (s.refusals.onDisk = true → s.obstacle? call = none) := by
  unfold refusal?
  cases s.refusals.message? call with
  | some message => simp
  | none => simp

/-- A file is removed unless this is refused or, on a disk, the file is a directory. -/
theorem unlinkRefusal?_eq_none {s : Studio} {path : String} :
    s.unlinkRefusal? path = none ↔ s.refusals.message? (.remove path) = none ∧
      (s.refusals.onDisk = true → s.tree.isDir (s.resolve path) = false) := by
  unfold unlinkRefusal?
  cases s.refusals.message? (.remove path) with
  | some message => simp
  | none => simp

end Studio

namespace Files

open StoryMix.Action

variable {s s' : Studio} {e : Thrown}

section Refused

variable {α : Type} {refused : Option PlainError} {a a' : α} {s₁ s₂ : Studio}

/-- What is left of an operation when it is known whether it is refused. -/
theorem allowed_of_ok
    (h : refused.elim (EStateM.Result.ok a s₁) (fun error => .error (Thrown.error error) s₂) =
      .ok a' s') : refused = none ∧ a' = a ∧ s' = s₁ := by
  cases refused with
  | none =>
      cases h
      exact ⟨rfl, rfl, rfl⟩
  | some error => cases h

theorem refused_of_error
    (h : refused.elim (EStateM.Result.ok a s₁) (fun error => .error (Thrown.error error) s₂) =
      .error e s') : (∃ error, refused = some error ∧ e = .error error) ∧ s' = s₂ := by
  cases refused with
  | none => cases h
  | some error =>
      cases h
      exact ⟨⟨error, rfl, rfl⟩, rfl⟩

end Refused

theorem permit_eq (call : Call) (s : Studio) :
    permit call s = (s.refusal? call).elim (.ok () s) fun e => .error (.error e) s := by
  dsimp only [permit, bind, EStateM.bind, get, getThe, MonadStateOf.get, EStateM.get]
  cases s.refusal? call <;> rfl

/-- An operation is recorded, and then it is refused or not. -/
theorem attempt_eq (call : Call) (s : Studio) :
    attempt call s =
      (s.refusal? call).elim (.ok () { s with calls := s.calls.push call })
        fun e => .error (.error e) { s with calls := s.calls.push call } :=
  permit_eq call { s with calls := s.calls.push call }

theorem refusal?_of_attempt {call : Call} (h : attempt call s = .ok () s') : s.refusal? call = none := by
  rw [attempt_eq] at h
  exact (allowed_of_ok h).1

theorem attempt_eq_ok {call : Call} (h : attempt call s = .ok () s') : Becomes s s.tree s' := by
  rw [attempt_eq] at h
  obtain ⟨-, -, rfl⟩ := allowed_of_ok h
  exact ⟨rfl, rfl, rfl⟩

theorem attempt_eq_error {call : Call} (h : attempt call s = .error e s') :
    Becomes s s.tree s' ∧ ∃ error, s.refusal? call = some error ∧ e = .error error := by
  rw [attempt_eq] at h
  obtain ⟨hrefused, rfl⟩ := refused_of_error h
  exact ⟨⟨rfl, rfl, rfl⟩, hrefused⟩

section Change

variable {call : Call} {f : Studio → FileTree}

/-- An operation that changes the tree, if it is not refused. -/
theorem attempt_change_eq_ok {tree : FileTree} (h : (do attempt call; change f) s = .ok () s')
    (hf : ∀ s₁, Becomes s s.tree s₁ → f s₁ = tree) : Becomes s tree s' := by
  obtain ⟨_, s₁, hattempt, hchange⟩ := bind_eq_ok.1 h
  have h₁ := attempt_eq_ok hattempt
  cases hchange
  exact ⟨hf s₁ h₁, h₁.cwd, h₁.refusals⟩

theorem attempt_change_eq_error (h : (do attempt call; change f) s = .error e s') :
    Becomes s s.tree s' ∧ ∃ error, s.refusal? call = some error ∧ e = .error error := by
  rcases bind_eq_error h with h | ⟨_, s₁, -, h⟩
  · exact attempt_eq_error h
  · cases h

end Change

theorem makeDir_eq_ok {path : String} (h : makeDir path s = .ok () s') :
    Becomes s (s.tree.addDir (s.resolve path)) s' :=
  attempt_change_eq_ok h fun s₁ h₁ => by rw [h₁.tree, h₁.resolve]

theorem makeDir_eq_error {path : String} (h : makeDir path s = .error e s') :
    Becomes s s.tree s' :=
  (attempt_change_eq_error h).1

theorem rename_eq_ok {source target : String} (h : rename source target s = .ok () s') :
    Becomes s (s.tree.rename (s.resolve source) (s.resolve target)) s' :=
  attempt_change_eq_ok h fun s₁ h₁ => by rw [h₁.tree, h₁.resolve, h₁.resolve]

theorem rename_eq_error {source target : String} (h : rename source target s = .error e s') :
    Becomes s s.tree s' :=
  (attempt_change_eq_error h).1

theorem remove_eq_ok {path : String} (h : remove path s = .ok () s') :
    Becomes s (s.tree.remove (s.resolve path)) s' :=
  attempt_change_eq_ok h fun s₁ h₁ => by rw [h₁.tree, h₁.resolve]

theorem remove_eq_error {path : String} (h : remove path s = .error e s') :
    Becomes s s.tree s' ∧ ∃ message, s.refusals.message? (.remove path) = some message ∧
      e = .error message := by
  obtain ⟨hbecomes, error, hrefused, rfl⟩ := attempt_change_eq_error h
  obtain ⟨message, hmessage, rfl⟩ := Studio.refusal?_remove_eq_some.1 hrefused
  exact ⟨hbecomes, message, hmessage, rfl⟩

theorem removeFile_eq (path : String) (s : Studio) :
    removeFile path s =
      (s.unlinkRefusal? path).elim
        (.ok () { s with
          calls := s.calls.push (.remove path), tree := s.tree.remove (s.resolve path) })
        fun e => .error (.error e) { s with calls := s.calls.push (.remove path) } := by
  have hsame : Studio.unlinkRefusal? { s with calls := s.calls.push (.remove path) } path =
      s.unlinkRefusal? path := rfl
  dsimp only [removeFile, Action.record, bind, EStateM.bind, modify, modifyGet, MonadStateOf.modifyGet,
    EStateM.modifyGet, get, getThe, MonadStateOf.get, EStateM.get]
  rw [hsame]
  cases s.unlinkRefusal? path <;> rfl

theorem removeFile_eq_ok {path : String} (h : removeFile path s = .ok () s') :
    Becomes s (s.tree.remove (s.resolve path)) s' ∧ s.unlinkRefusal? path = none := by
  rw [removeFile_eq] at h
  obtain ⟨hallowed, -, rfl⟩ := allowed_of_ok h
  exact ⟨⟨rfl, rfl, rfl⟩, hallowed⟩

/-- The removal of a file leaves nothing at its path and, on a disk, everything else. -/
theorem read?_removeFile {path : String} (h : removeFile path s = .ok () s') (other : String) :
    s'.tree.read? other = if s.unlinks (s.resolve path) other then none else s.tree.read? other := by
  obtain ⟨hbecomes, hallowed⟩ := removeFile_eq_ok h
  have hdir := (Studio.unlinkRefusal?_eq_none.1 hallowed).2
  rw [hbecomes.tree, FileTree.read?_remove, Studio.unlinks, FileTree.within]
  cases hdisk : s.refusals.onDisk with
  | false => simp
  | true =>
      obtain ⟨-, -, hnone, -⟩ := FileTree.isDir_eq_false_iff.1 (hdir hdisk)
      cases hbelow : Path.below (s.resolve path) other with
      | false => simp
      | true => simp [hnone other hbelow]

theorem removeFile_eq_error {path : String} (h : removeFile path s = .error e s') :
    Becomes s s.tree s' ∧ ∃ error, s.unlinkRefusal? path = some error ∧ e = .error error := by
  rw [removeFile_eq] at h
  obtain ⟨hrefused, rfl⟩ := refused_of_error h
  exact ⟨⟨rfl, rfl, rfl⟩, hrefused⟩

theorem makeTempDir_eq (start : String) (s : Studio) :
    makeTempDir start s =
      (s.refusal? (.makeTempDir start)).elim
        (.ok (start ++ "tmp" ++ Numeral.natText (s.tempDirs + 1))
          { s with
            calls := s.calls.push (.makeTempDir start)
            tempDirs := s.tempDirs + 1
            tree := s.tree.addDir
              (s.resolve (start ++ "tmp" ++ Numeral.natText (s.tempDirs + 1))) })
        fun e => .error (.error e) { s with calls := s.calls.push (.makeTempDir start) } := by
  change EStateM.bind (attempt (.makeTempDir start)) _ s = _
  unfold EStateM.bind
  rw [attempt_eq]
  cases s.refusal? (.makeTempDir start) <;> rfl

theorem makeTempDir_eq_ok {start path : String} (h : makeTempDir start s = .ok path s') :
    s.refusal? (.makeTempDir start) = none ∧
      path = start ++ "tmp" ++ Numeral.natText (s.tempDirs + 1) ∧
      Becomes s (s.tree.addDir (s.resolve path)) s' := by
  rw [makeTempDir_eq] at h
  obtain ⟨hallowed, rfl, rfl⟩ := allowed_of_ok h
  exact ⟨hallowed, rfl, rfl, rfl, rfl⟩

theorem makeTempDir_eq_error {start : String} (h : makeTempDir start s = .error e s') :
    s.refusal? (.makeTempDir start) ≠ none ∧ Becomes s s.tree s' := by
  rw [makeTempDir_eq] at h
  obtain ⟨⟨error, hrefused, -⟩, rfl⟩ := refused_of_error h
  refine ⟨?_, rfl, rfl, rfl⟩
  rw [hrefused]
  nofun

/-- A copy that is not refused reads its source and fails if there is none. -/
theorem copy_eq (source target : String) (s : Studio) :
    copy source target s = EStateM.bind (attempt (.copy source target)) (fun _ s₁ =>
      (s₁.tree.read? (s₁.resolve source)).elim
        (.error (.error (Obstacle.missing.message (.copy source target))) s₁)
        fun text => put target text s₁) s := by
  refine congrArg (fun f => EStateM.bind (attempt (.copy source target)) f s)
    (funext fun _ => funext fun s₁ => ?_)
  dsimp only [bind, EStateM.bind, get, getThe, MonadStateOf.get, EStateM.get]
  cases s₁.tree.read? (s₁.resolve source) <;> rfl

theorem copy_eq_ok {source target : String} (h : copy source target s = .ok () s') :
    ∃ text, s.tree.read? (s.resolve source) = some text ∧
      Becomes s (s.tree.write (s.resolve target) text) s' := by
  rw [copy_eq] at h
  obtain ⟨_, s₁, hattempt, hput⟩ := bind_eq_ok.1 h
  have h₁ := attempt_eq_ok hattempt
  rw [← h₁.tree, ← h₁.resolve source, ← h₁.resolve target]
  cases hread : s₁.tree.read? (s₁.resolve source) with
  | none =>
      rw [hread] at hput
      cases hput
  | some text =>
      rw [hread] at hput
      cases hput
      exact ⟨text, rfl, rfl, h₁.cwd, h₁.refusals⟩

/-- On a disk no directory is written over. -/
theorem isDir_of_copy {source target : String} (h : copy source target s = .ok () s')
    (hdisk : s.refusals.onDisk = true) : s.tree.isDir (s.resolve target) = false := by
  obtain ⟨text, hread, -⟩ := copy_eq_ok h
  rw [copy_eq] at h
  obtain ⟨_, s₁, hattempt, -⟩ := bind_eq_ok.1 h
  have hobstacle := (Studio.refusal?_eq_none.1 (refusal?_of_attempt hattempt)).2 hdisk
  simpa [Studio.obstacle?, hread] using hobstacle

theorem copy_eq_error {source target : String} (h : copy source target s = .error e s') :
    Becomes s s.tree s' := by
  rw [copy_eq] at h
  rcases bind_eq_error h with h | ⟨_, s₁, hattempt, hput⟩
  · exact (attempt_eq_error h).1
  · have h₁ := attempt_eq_ok hattempt
    cases hread : s₁.tree.read? (s₁.resolve source) with
    | none =>
        rw [hread] at hput
        cases hput
        exact h₁
    | some text =>
        rw [hread] at hput
        cases hput

end Files

end StoryMix
