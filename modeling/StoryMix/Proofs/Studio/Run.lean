import StoryMix.Studio.Files
import StoryMix.Studio.Tools

/-!
# Runs

An action is opaque from outside: it goes from one studio to the next. A run is what it did on the
way, as a list of steps: every use of a tool with what was asked and what was answered, and beside
these the entries of the log and the operations on files. `Runs tools steps s s'` says that these
steps, one after the other, lead from `s` to `s'`.

The tools are any at all, so they may keep count of how they are used in the studio that they leave.
An action that for all tools ends where its steps end has therefore used them as the steps say, no
more, no less and in that order.
-/

namespace StoryMix

/-! ## Actions that end well

What is known of the parts of an action that gave an answer. -/

namespace Action

variable {α β : Type} {s s' : Studio}

theorem bind_eq_ok {x : Action α} {f : α → Action β} {b : β} :
    (x >>= f) s = .ok b s' ↔ ∃ a s₁, x s = .ok a s₁ ∧ f a s₁ = .ok b s' := by
  change EStateM.bind x f s = _ ↔ _
  unfold EStateM.bind
  cases h : x s with
  | ok a s₁ =>
      constructor
      · exact fun hf => ⟨a, s₁, rfl, hf⟩
      · rintro ⟨a', s₁', heq, hf⟩
        cases heq
        exact hf
  | error e s₁ =>
      constructor
      · exact fun hf => nomatch hf
      · rintro ⟨a', s₁', heq, -⟩
        cases heq

theorem pure_eq_ok {a b : α} : (pure a : Action α) s = .ok b s' ↔ a = b ∧ s = s' := by
  change EStateM.Result.ok a s = _ ↔ _
  simp

theorem map_eq_ok {x : Action α} {f : α → β} {b : β} :
    (f <$> x) s = .ok b s' ↔ ∃ a, x s = .ok a s' ∧ f a = b := by
  change EStateM.map f x s = _ ↔ _
  unfold EStateM.map
  cases x s with
  | ok a s₁ =>
      constructor
      · rintro ⟨⟩
        exact ⟨a, rfl, rfl⟩
      · rintro ⟨a', heq, rfl⟩
        cases heq
        rfl
  | error e s₁ => exact iff_of_false nofun fun ⟨_, heq, _⟩ => nomatch heq

theorem ofExcept_eq_ok {r : Except Failure α} {a : α} :
    ofExcept r s = .ok a s' ↔ r = .ok a ∧ s = s' := by
  cases r with
  | ok b => exact pure_eq_ok.trans (by simp)
  | error f => exact iff_of_false nofun nofun

theorem say_eq_ok {level : Level} {message : String} {arguments : List Value} {u : Unit} :
    say level message arguments s = .ok u s'
      ↔ s' = { s with log := s.log.push ⟨level, message, arguments⟩ } := by
  change EStateM.Result.ok () _ = _ ↔ _
  simp [eq_comm]

theorem onFailure_eq_ok {act : Action α} {cleanup : Thrown → Action Unit} {a : α} :
    act.onFailure cleanup s = .ok a s' ↔ act s = .ok a s' := by
  unfold onFailure
  cases act s with
  | ok b s₁ => rfl
  | error e s₁ =>
      simp only
      cases cleanup e s₁ <;> simp

theorem always_eq_ok {act : Action α} {cleanup : Action Unit} {a : α} :
    act.always cleanup s = .ok a s' ↔ ∃ s₁, act s = .ok a s₁ ∧ cleanup s₁ = .ok () s' := by
  unfold always
  cases act s with
  | ok b s₁ =>
      constructor
      · intro h
        simp only at h
        cases hc : cleanup s₁ with
        | ok u s₂ =>
            rw [hc] at h
            cases h
            exact ⟨s₁, rfl, hc⟩
        | error e s₂ =>
            rw [hc] at h
            cases h
      · rintro ⟨s₁', heq, hc⟩
        cases heq
        simp only [hc]
  | error e s₁ =>
      refine iff_of_false ?_ fun ⟨_, heq, _⟩ => nomatch heq
      simp only
      cases cleanup s₁ <;> exact nofun

def succeeds (x : Action α) (s : Studio) : Bool :=
  match x s with
  | .ok _ _ => true
  | .error _ _ => false

theorem eq_ok_of_succeeds {x : Action α} (h : x.succeeds s = true) : ∃ a s', x s = .ok a s' := by
  unfold succeeds at h
  split at h
  · exact ⟨_, _, ‹_›⟩
  · cases h

end Action

/-! ## Steps -/

/-- One use of a tool: what it was asked and what it answered. -/
inductive Use where
  | voice (request : SynthesisRequest) (file : String)
  | probe (file : String) (duration : Float)
  | silence (request : SilenceRequest) (file : String)
  | asset (root id file : String)
  | mix (graph : Mix.Graph) (path file : String)

/-- The tool, asked in `s`, gives that answer and leaves `s'`. -/
def Use.Runs (tools : Tools) : Use → Studio → Studio → Prop
  | .voice request file, s, s' => tools.voice request s = .ok file s'
  | .probe file duration, s, s' => tools.probe file s = .ok duration s'
  | .silence request file, s, s' => tools.silence request s = .ok file s'
  | .asset root id file, s, s' => tools.asset root id s = .ok file s'
  | .mix graph path file, s, s' => tools.mix graph path s = .ok file s'

/-- One step of a run. Only the uses of tools are more than bookkeeping and operations on files. -/
inductive Step where
  | use (u : Use)
  | log (entry : LogEntry)
  /-- The number of a render is used up. -/
  | begin
  | makeTempDir (start path : String)
  | makeDir (path : String)
  | copy (source target : String)
  | rename (source target : String)

namespace Step

def Runs (tools : Tools) : Step → Studio → Studio → Prop
  | .use u, s, s' => u.Runs tools s s'
  | .log entry, s, s' => s' = { s with log := s.log.push entry }
  | .begin, s, s' => s' = { s with renders := s.renders + 1 }
  | .makeTempDir start path, s, s' => Files.makeTempDir start s = .ok path s'
  | .makeDir path, s, s' => Files.makeDir path s = .ok () s'
  | .copy source target, s, s' => Files.copy source target s = .ok () s'
  | .rename source target, s, s' => Files.rename source target s = .ok () s'

def use? : Step → Option Use
  | .use u => some u
  | _ => none

end Step

/-! ## Steps one after the other -/

/-- These steps lead from `s` to `s'`. -/
def Runs (tools : Tools) : List Step → Studio → Studio → Prop
  | [], s, s' => s = s'
  | step :: steps, s, s' => ∃ s₁, step.Runs tools s s₁ ∧ Runs tools steps s₁ s'

def usesOf (steps : List Step) : List Use :=
  steps.filterMap Step.use?

variable {tools : Tools} {s s' : Studio}

theorem runs_append {xs ys : List Step} :
    Runs tools (xs ++ ys) s s' ↔ ∃ s₁, Runs tools xs s s₁ ∧ Runs tools ys s₁ s' := by
  induction xs generalizing s with
  | nil => simp [Runs]
  | cons x xs ih =>
      simp only [List.cons_append, Runs, ih]
      constructor
      · rintro ⟨s₂, hx, s₁, hxs, hys⟩
        exact ⟨s₁, ⟨s₂, hx, hxs⟩, hys⟩
      · rintro ⟨s₁, ⟨s₂, hx, hxs⟩, hys⟩
        exact ⟨s₂, hx, s₁, hxs, hys⟩

theorem runs_singleton {x : Step} : Runs tools [x] s s' ↔ x.Runs tools s s' := by
  simp [Runs]

theorem use_runs_of_mem {steps : List Step} {u : Use} (h : Runs tools steps s s')
    (hu : .use u ∈ steps) : ∃ s₁ s₂, u.Runs tools s₁ s₂ := by
  obtain ⟨xs, ys, rfl⟩ := List.append_of_mem hu
  obtain ⟨s₁, -, s₂, hstep, -⟩ := runs_append.1 h
  exact ⟨s₁, s₂, hstep⟩

@[simp] theorem usesOf_append (xs ys : List Step) :
    usesOf (xs ++ ys) = usesOf xs ++ usesOf ys :=
  List.filterMap_append

@[simp] theorem usesOf_map_use (us : List Use) : usesOf (us.map .use) = us := by
  induction us with
  | nil => rfl
  | cons u us ih => exact congrArg (u :: ·) ih

@[simp] theorem usesOf_map_log (entries : List LogEntry) : usesOf (entries.map .log) = [] := by
  induction entries with
  | nil => rfl
  | cons e es ih => exact ih

/-! ## The simplest studio -/

/-- Every file is made where it is asked for, every asset lies right below the root, and every line
lasts a second. -/
def Tools.prompt : Tools where
  voice request := pure request.outputPath
  probe _ := pure 1
  silence request := pure request.outputPath
  asset root id := pure (root ++ "/" ++ id)
  mix graph path := do
    Files.put path graph.filterText
    pure path

def ProducerConfig.soloist (speaker reference : String) : ProducerConfig :=
  ⟨"/assets", "/out", ⟨[(speaker, reference)]⟩, 0, 0, 0⟩

def Studio.empty : Studio :=
  .fresh (.ofLists [] []) "/" ⟨[]⟩ []

end StoryMix
