import StoryMix.Proofs.Rehearsal.Tools
import StoryMix.Proofs.Render.Effect

/-!
# Renders one after another

A season is a list of jobs that are rendered in one studio, each with tools of its own and its own
operations refused, removals among them. What was left by one render is there for the next. Still, at
a path outside of all working directories and unfinished files stands what the last of the renders
with this output has mixed, and a render that fails takes no earlier output away
(`Season.outputs_stand`).

One turn is followed with `Failed` and `Finished`; a season by adding turns at its end, since the last
one is the one that counts.
-/

namespace StoryMix

namespace Render

open FileTree (within)

/-- What is to be rendered, with which tools, and which operations are refused meanwhile. -/
structure Job where
  tools : Tools
  request : RenderRequest
  refusals : Refusals

/-- A job and the studio in which it is begun. -/
structure Turn where
  job : Job
  before : Studio

namespace Turn

def ending (t : Turn) : EStateM.Result Thrown Studio Result :=
  render t.job.tools t.job.request t.before

def after (t : Turn) : Studio :=
  (render t.job.tools t.job.request).after t.before

def places? (t : Turn) : Option Places :=
  Render.places? t.job.request t.before

/-- The resolved output path, if the render succeeds. -/
def output? (t : Turn) : Option String :=
  match t.ending with
  | .ok result _ => some (t.before.resolve result.outputPath)
  | .error _ _ => none

/-- The mixer has written this text to the staged file, where there was no file before. -/
def Mixed (t : Turn) (text : String) : Prop :=
  Render.Mixed t.job.tools t.job.request t.before text

/-- The working directory, if one is made, is a new one. -/
def Fresh (t : Turn) : Prop :=
  ∀ places ∈ t.places?, t.before.tree.isDir places.workDir = false ∧
    t.before.tree.read? places.workDir = none

instance (t : Turn) : Decidable t.Fresh :=
  inferInstanceAs (Decidable (∀ places ∈ t.places?, _))

/-- The path lies neither in the working directory nor at the unfinished file. (Off a disk nor below it, as
what is there would be removed along with it.) -/
def Outside (t : Turn) (path : String) : Prop :=
  ∀ places ∈ t.places?,
    within places.workDir path = false ∧ t.before.unlinks places.unfinished path = false

instance (t : Turn) (path : String) : Decidable (t.Outside path) :=
  inferInstanceAs (Decidable (∀ places ∈ t.places?, _))

end Turn

/-- The turn of a job: the studio is as it was left, but other operations are refused. -/
def Job.turn (job : Job) (s : Studio) : Turn :=
  ⟨job, { s with refusals := job.refusals }⟩

@[simp] theorem Job.turn_tree (job : Job) (s : Studio) : (job.turn s).before.tree = s.tree :=
  rfl

def turnsOf : Studio → List Job → List Turn
  | _, [] => []
  | s, job :: jobs => job.turn s :: turnsOf (job.turn s).after jobs

/-- The studio after all jobs. -/
def afterAll : Studio → List Job → Studio
  | s, [] => s
  | s, job :: jobs => afterAll (job.turn s).after jobs

/-- The turn that was the last to end at this path. -/
def lastAt? (path : String) (turns : List Turn) : Option Turn :=
  turns.reverse.find? (·.output? = some path)

/-- At this path stands what the last turn to end there has mixed, or what stood there at first. -/
structure Stands (s : Studio) (turns : List Turn) (path : String) (content : Option String) :
    Prop where
  mixed : ∀ t, lastAt? path turns = some t → ∃ text, t.Mixed text ∧ content = some text
  untouched : lastAt? path turns = none → content = s.tree.read? path

/-- What is asked of the jobs that are begun in `s`: their tools are tidy, and every working directory
is a new one in which no directory for output lies. -/
structure Season (s : Studio) (jobs : List Job) : Prop where
  tidy : ∀ job ∈ jobs, job.tools.Tidy
  fresh : ∀ t ∈ turnsOf s jobs, t.Fresh
  apart : ∀ t ∈ turnsOf s jobs, ∀ places ∈ t.places?, ∀ job ∈ jobs,
    within places.workDir (t.before.resolve job.request.config.outDir) = false

/-! ## One turn -/

namespace Turn

variable {t : Turn} {path : String}

theorem eq_ok_of_output? (h : t.output? = some path) :
    ∃ result s', t.ending = .ok result s' ∧ t.before.resolve result.outputPath = path := by
  unfold output? at h
  split at h
  · exact ⟨_, _, ‹_›, Option.some.inj h⟩
  · cases h

theorem eq_error_of_output? (h : t.output? = none) : ∃ e s', t.ending = .error e s' := by
  unfold output? at h
  split at h
  · cases h
  · exact ⟨_, _, ‹_›⟩

theorem after_of_ending_ok {result : Result} {s' : Studio} (h : t.ending = .ok result s') :
    t.after = s' :=
  Action.after_of_ok h

theorem after_of_ending_error {e : Thrown} {s' : Studio} (h : t.ending = .error e s') :
    t.after = s' :=
  Action.after_of_error h

theorem cwd_after (htidy : t.job.tools.Tidy) : t.after.cwd = t.before.cwd := by
  cases h : t.ending with
  | ok result s' =>
      obtain ⟨_, _, _, -, -, hfinished⟩ := finished_of_render htidy h
      rw [after_of_ending_ok h, hfinished.cwd]
  | error e s' =>
      rw [after_of_ending_error h]
      rcases failed_of_render htidy h with ⟨-, hbecomes⟩ | ⟨_, _, -, hfailed⟩
      · exact hbecomes.cwd
      · exact hfailed.cwd

/-- A turn that ends at this path leaves there what it has mixed. -/
theorem published (htidy : t.job.tools.Tidy) (hfresh : t.Fresh) (hpath : t.Outside path)
    (h : t.output? = some path) : ∃ text, t.Mixed text ∧ t.after.tree.read? path = some text := by
  obtain ⟨result, s', hending, rfl⟩ := eq_ok_of_output? h
  obtain ⟨events, workDir, text, hprepared, hresult, hfinished⟩ := finished_of_render htidy hending
  have hplaces := places?_of_prepared hprepared
  obtain ⟨hdir, hfile⟩ := hfresh _ hplaces
  refine ⟨text, hfinished.mixed_of_vacant (FileTree.vacant_of_absent hdir hfile) hprepared, ?_⟩
  rw [after_of_ending_ok hending, hfinished.files _ (hpath _ hplaces).1, hresult]
  exact if_pos rfl

/-- A turn that does not end at this path leaves it alone. -/
theorem kept (htidy : t.job.tools.Tidy) (hpath : t.Outside path) (h : t.output? ≠ some path) :
    t.after.tree.read? path = t.before.tree.read? path := by
  cases hending : t.ending with
  | ok result s' =>
      obtain ⟨events, workDir, text, hprepared, hresult, hfinished⟩ :=
        finished_of_render htidy hending
      obtain ⟨hwork, hunfinished⟩ := hpath _ (places?_of_prepared hprepared)
      have houtput : path ≠ (placesOf t.job.request t.before events workDir).output := by
        rintro rfl
        rw [output?, hending] at h
        exact h (congrArg (fun p => some (t.before.resolve p)) hresult)
      have hother : path ≠ (placesOf t.job.request t.before events workDir).unfinished :=
        Studio.ne_of_unlinks hunfinished
      rw [after_of_ending_ok hending, hfinished.files _ hwork, if_neg houtput, if_neg hother]
  | error e s' =>
      rw [after_of_ending_error hending]
      rcases failed_of_render htidy hending with ⟨-, hbecomes⟩ | ⟨events, workDir, hprepared, hfailed⟩
      · rw [hbecomes.tree]
      · obtain ⟨hwork, hunfinished⟩ := hpath _ (places?_of_prepared hprepared)
        exact hfailed.files path hwork hunfinished

end Turn

/-! ## Turn after turn -/

theorem turnsOf_append (s : Studio) (xs ys : List Job) :
    turnsOf s (xs ++ ys) = turnsOf s xs ++ turnsOf (afterAll s xs) ys := by
  induction xs generalizing s with
  | nil => rfl
  | cons job jobs ih => exact congrArg (job.turn s :: ·) (ih _)

theorem afterAll_append (s : Studio) (xs ys : List Job) :
    afterAll s (xs ++ ys) = afterAll (afterAll s xs) ys := by
  induction xs generalizing s with
  | nil => rfl
  | cons job jobs ih => exact ih _

theorem lastAt?_concat (path : String) (turns : List Turn) (t : Turn) :
    lastAt? path (turns ++ [t]) = if t.output? = some path then some t else lastAt? path turns := by
  rw [lastAt?, List.reverse_concat, List.find?_cons]
  by_cases h : t.output? = some path
  · rw [if_pos h, decide_eq_true h]
  · rw [if_neg h, decide_eq_false h]
    rfl

theorem stands_nil (s : Studio) (path : String) : Stands s [] path (s.tree.read? path) :=
  ⟨nofun, fun _ => rfl⟩

theorem stands_concat_of_output {s : Studio} {turns : List Turn} {t : Turn} {path text : String}
    (h : t.output? = some path) (hmixed : t.Mixed text) :
    Stands s (turns ++ [t]) path (some text) := by
  have hlast : lastAt? path (turns ++ [t]) = some t := (lastAt?_concat ..).trans (if_pos h)
  constructor
  case mixed =>
    intro u hu
    rw [hlast] at hu
    cases hu
    exact ⟨text, hmixed, rfl⟩
  case untouched =>
    intro hnone
    rw [hlast] at hnone
    cases hnone

theorem stands_concat_of_ne {s : Studio} {turns : List Turn} {t : Turn} {path : String}
    {content : Option String} (h : t.output? ≠ some path) (hstands : Stands s turns path content) :
    Stands s (turns ++ [t]) path content := by
  have hlast : lastAt? path (turns ++ [t]) = lastAt? path turns :=
    (lastAt?_concat ..).trans (if_neg h)
  constructor
  · rw [hlast]
    exact hstands.mixed
  · rw [hlast]
    exact hstands.untouched

theorem exists_job_of_mem {s : Studio} {jobs : List Job} {t : Turn} (h : t ∈ turnsOf s jobs) :
    t.job ∈ jobs := by
  induction jobs generalizing s with
  | nil => cases h
  | cons job jobs ih =>
      rcases List.mem_cons.mp h with rfl | h
      · exact List.mem_cons_self
      · exact List.mem_cons_of_mem _ (ih h)

theorem cwd_of_mem {s : Studio} {jobs : List Job} (htidy : ∀ job ∈ jobs, job.tools.Tidy) {t : Turn}
    (h : t ∈ turnsOf s jobs) : t.before.cwd = s.cwd := by
  induction jobs generalizing s with
  | nil => cases h
  | cons job jobs ih =>
      obtain ⟨hjob, hjobs⟩ := List.forall_mem_cons.mp htidy
      rcases List.mem_cons.mp h with rfl | h
      · rfl
      · rw [ih hjobs h]
        exact (job.turn s).cwd_after hjob

/-- The studio after the first jobs holds what the last of them have left. -/
theorem stands_afterAll {s : Studio} {path : String} (jobs : List Job)
    (htidy : ∀ job ∈ jobs, job.tools.Tidy) (hfresh : ∀ t ∈ turnsOf s jobs, t.Fresh)
    (hpath : ∀ t ∈ turnsOf s jobs, t.Outside path) :
    Stands s (turnsOf s jobs) path ((afterAll s jobs).tree.read? path) := by
  induction jobs using List.reverseRecOn with
  | nil => exact stands_nil s path
  | append_singleton jobs job ih =>
      rw [turnsOf_append] at hfresh hpath ⊢
      obtain ⟨htidies, hjob⟩ := List.forall_mem_append.mp htidy
      obtain ⟨hfreshes, hturn⟩ := List.forall_mem_append.mp hfresh
      obtain ⟨hpaths, hout⟩ := List.forall_mem_append.mp hpath
      have htidy := hjob job List.mem_cons_self
      have hfresh := hturn (job.turn (afterAll s jobs)) List.mem_cons_self
      have hpath := hout (job.turn (afterAll s jobs)) List.mem_cons_self
      rw [afterAll_append]
      change Stands s (turnsOf s jobs ++ [job.turn (afterAll s jobs)]) path
        ((job.turn (afterAll s jobs)).after.tree.read? path)
      by_cases houtput : (job.turn (afterAll s jobs)).output? = some path
      · obtain ⟨text, hmixed, hread⟩ := Turn.published htidy hfresh hpath houtput
        rw [hread]
        exact stands_concat_of_output houtput hmixed
      · rw [Turn.kept htidy hpath houtput]
        exact stands_concat_of_ne houtput (ih htidies hfreshes hpaths)

/-! ## Outputs -/

namespace Season

variable {s : Studio} {jobs : List Job}

theorem resolve_eq (h : Season s jobs) {t u : Turn} (ht : t ∈ turnsOf s jobs)
    (hu : u ∈ turnsOf s jobs) (path : String) : t.before.resolve path = u.before.resolve path :=
  Studio.resolve_of_cwd ((cwd_of_mem h.tidy ht).trans (cwd_of_mem h.tidy hu).symm) path

/-- Where a turn has ended no other turn works. -/
theorem outside_of_output (h : Season s jobs) {t u : Turn} (ht : t ∈ turnsOf s jobs)
    (hu : u ∈ turnsOf s jobs) {path : String} (hpath : t.output? = some path)
    (hfile : u.before.refusals.onDisk = false →
      ∀ places ∈ u.places?, Path.below places.unfinished path = false) : u.Outside path := by
  intro places hplaces
  have hjob := exists_job_of_mem ht
  have hdir := h.apart u hu places hplaces t.job hjob
  obtain ⟨result, s', hending, rfl⟩ := Turn.eq_ok_of_output? hpath
  obtain ⟨events, -, -, -, hresult, -⟩ := finished_of_render (h.tidy t.job hjob) hending
  have hbelow := fun hdisk => hfile hdisk places hplaces
  obtain ⟨events', workDir', hprepared, rfl⟩ := exists_prepared_of_places? hplaces
  rw [h.resolve_eq ht hu, hresult] at hbelow ⊢
  refine ⟨output_outside_workDir _ hprepared hdir, ?_⟩
  have hne := (unfinished_ne_output u.job.request u.before events' t.job.request.config.outDir
    (Timeline.titleOf events)).symm
  rw [Studio.unlinks, Bool.or_eq_false_iff]
  refine ⟨beq_eq_false_iff_ne.2 hne, ?_⟩
  cases hdisk : u.before.refusals.onDisk with
  | true => rfl
  | false =>
      rw [Bool.not_false, Bool.true_and]
      exact hbelow hdisk

/-- After each of the jobs there stands at every path outside of the working directories and the
unfinished files what the last turn to end there has mixed. A turn that fails leaves the outputs of
the turns before as they were. (Off a disk, those that are not below its unfinished file.) -/
theorem outputs_stand (h : Season s jobs) :
    (∀ done, done <+: jobs → ∀ path, (∀ t ∈ turnsOf s done, t.Outside path) →
      Stands s (turnsOf s done) path ((afterAll s done).tree.read? path)) ∧
    (∀ earlier failed later, turnsOf s jobs = earlier ++ failed :: later → failed.output? = none →
      ∀ t ∈ earlier, ∀ path, t.output? = some path →
        (failed.before.refusals.onDisk = false →
          ∀ places ∈ failed.places?, Path.below places.unfinished path = false) →
        failed.after.tree.read? path = failed.before.tree.read? path) := by
  constructor
  · rintro done ⟨rest, rfl⟩ path hpath
    refine stands_afterAll done (fun job hjob => h.tidy job ?_) (fun t ht => h.fresh t ?_) hpath
    · exact List.mem_append_left rest hjob
    · rw [turnsOf_append]
      exact List.mem_append_left _ ht
  · intro earlier failed later hturns hfailed t ht path hpath hfile
    have hmem : t ∈ turnsOf s jobs := by
      rw [hturns]
      exact List.mem_append_left _ ht
    have hmem' : failed ∈ turnsOf s jobs := by
      rw [hturns]
      exact List.mem_append_right _ List.mem_cons_self
    refine Turn.kept (h.tidy _ (exists_job_of_mem hmem')) ?_ ?_
    · exact h.outside_of_output hmem hmem' hpath hfile
    · rw [hfailed]
      exact nofun

/-- An empty disk but for the directory of temporary files. -/
def bareDisk : Studio :=
  .fresh (.ofLists [] ["/tmp"]) "/" ⟨[]⟩ []

def goodNight : Job :=
  ⟨Rehearsal.plain.tools,
    ⟨"@title: Good night\nRuby: Hello", .soloist "Ruby" "/ruby.wav", true⟩,
    .ofDisk [(.remove, "EBUSY")]⟩

/-- Its title differs from that of `goodNight`, but its output does not. -/
def spoiltNight : Job :=
  ⟨Rehearsal.plain.tools,
    ⟨"@title: Good/night\nRuby: Farewell", .soloist "Ruby" "/ruby.wav", true⟩,
    .ofDisk [(.rename, "EXDEV"), (.remove, "EBUSY")]⟩

/-- Nothing can be removed, and the second of two renders fails on the way to the output of the
first. -/
theorem outputs_stand_spoiltNight :
    Season bareDisk [goodNight, spoiltNight] ∧
    (turnsOf bareDisk [goodNight, spoiltNight]).map Turn.output? = [some "/out/Good_night.mp3", none] ∧
    Stands bareDisk (turnsOf bareDisk [goodNight, spoiltNight]) "/out/Good_night.mp3"
      ((afterAll bareDisk [goodNight, spoiltNight]).tree.read? "/out/Good_night.mp3") ∧
    (spoiltNight.turn (goodNight.turn bareDisk).after).after.tree.read? "/out/Good_night.mp3" =
      (goodNight.turn bareDisk).after.tree.read? "/out/Good_night.mp3" := by
  obtain ⟨hturns, hplaces, houtputs⟩ :
      (∀ t ∈ turnsOf bareDisk [goodNight, spoiltNight],
        t.Fresh ∧ t.Outside "/out/Good_night.mp3") ∧
      (∀ t ∈ turnsOf bareDisk [goodNight, spoiltNight], ∀ places ∈ t.places?,
        ∀ job ∈ [goodNight, spoiltNight],
          within places.workDir (t.before.resolve job.request.config.outDir) = false) ∧
      (goodNight.turn bareDisk).output? = some "/out/Good_night.mp3" ∧
        (spoiltNight.turn (goodNight.turn bareDisk).after).output? = none := by decide +kernel
  have hseason : Season bareDisk [goodNight, spoiltNight] := by
    refine ⟨?_, fun t ht => (hturns t ht).1, fun t ht places h => hplaces t ht places h⟩
    exact List.forall_mem_cons.mpr ⟨Rehearsal.plain.tidy_tools,
      List.forall_mem_singleton.mpr Rehearsal.plain.tidy_tools⟩
  obtain ⟨hstands, hspared⟩ := hseason.outputs_stand
  refine ⟨hseason, ?_, ?_, ?_⟩
  · rw [turnsOf, turnsOf, turnsOf, List.map_cons, List.map_cons, List.map_nil, houtputs.1, houtputs.2]
  · exact hstands _ List.prefix_rfl _ fun t ht => (hturns t ht).2
  · have hlist : turnsOf bareDisk [goodNight, spoiltNight] = [goodNight.turn bareDisk] ++
        spoiltNight.turn (goodNight.turn bareDisk).after :: [] := rfl
    have hsame := hspared _ _ _ hlist houtputs.2 _ List.mem_cons_self _ houtputs.1 nofun
    rwa [Job.turn_tree] at hsame

end Season

end Render

end StoryMix
