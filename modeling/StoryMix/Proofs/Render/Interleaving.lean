import StoryMix.Proofs.Render.Course
import StoryMix.Proofs.Render.Places

/-!
# Publications at the same time

Any number of renders bring their mixes to output directories, the same ones or others, and the steps
of their publications are taken in any order. A copy can be seen when it is half done, and any step
can fail, half way or at once; only a renaming is done in one go. `Does` is a step of one publication
in a tree that all share and `Plays` what is made of the steps of all.

At every moment there stands at an output what was there at first, if nothing has been renamed to it,
and else the whole of what the last render renamed to it had staged (`outputs_whole`). It rests on the
names: an unfinished file is nobody's output and nobody's staged file, since it ends differently, and
it is nobody else's unfinished file, since the name says whose it is. So what a render has copied stays
as it is until its own renaming (`Sound.ready`).

That a deed is what an operation on files does, in whatever studio it is called, is said operation by
operation (`Performs.does`). So the operations of many publications, taken in any order, are a play
(`plays_of_works`), and one publication that is left to itself takes them in the order of `publish`
(`works_of_publish`).
-/

namespace StoryMix

namespace Render

open StoryMix.Path (resolvedNames)

/-! ## One publication -/

/-- What a render publishes, and where. Its id brings neither a point nor a slash into a name. -/
structure Publication where
  id : String
  workDir : String
  outDir : String
  title : String
  bare : '.' ∉ id.toList ∧ '/' ∉ id.toList

namespace Publication

variable (p q : Publication) (cwd : String)

def stagedPath : String :=
  Path.join [p.workDir, Mix.outputFileName p.title]

def outputPath : String :=
  Path.join [p.outDir, Mix.outputFileName p.title]

/-- The resolved path of the staged file. -/
def staged : String :=
  Path.resolve cwd p.stagedPath

def output : String :=
  Path.resolve cwd p.outputPath

def unfinished : String :=
  Path.resolve cwd (unfinishedPath p.outputPath p.id)

/-- The publication of the `n`th render. -/
def ofRender (n : Nat) (workDir outDir title : String) : Publication where
  id := idOf n
  workDir := workDir
  outDir := outDir
  title := title
  bare := ⟨fun h => absurd (isDigit_of_mem_idOf h) (by decide), (numeric_idOf n).slashless⟩

end Publication

/-- How far a publication is. -/
inductive Phase where
  | waiting
  /-- The output directory is there, and the copy may be there in part. -/
  | copying
  | copied (text : String)
  | published (text : String)
  /-- A copy or a renaming has failed, and the copy is to be removed. -/
  | failing
  | failed

inductive Deed where
  | makeDir
  /-- Some of the copy is written. -/
  | write
  /-- The copy is finished. -/
  | copy
  | rename
  | remove
  /-- The step that is next fails. -/
  | fail
  deriving DecidableEq

/-- A deed of a publication leads from a phase and a tree to the next ones. -/
inductive Does (p : Publication) (cwd : String) :
    Deed → Phase → FileTree → Phase → FileTree → Prop where
  | makeDir {t : FileTree} :
      Does p cwd .makeDir .waiting t .copying (t.addDir (Path.resolve cwd p.outDir))
  | write {t : FileTree} (portion : String) :
      Does p cwd .write .copying t .copying (t.write (p.unfinished cwd) portion)
  | copy {t : FileTree} {text : String} :
      t.read? (p.staged cwd) = some text →
      Does p cwd .copy .copying t (.copied text) (t.write (p.unfinished cwd) text)
  | rename {t : FileTree} {text : String} :
      Does p cwd .rename (.copied text) t (.published text)
        (t.rename (p.unfinished cwd) (p.output cwd))
  | remove {t : FileTree} :
      Does p cwd .remove .failing t .failed (t.unlink (p.unfinished cwd))
  | noDir {t : FileTree} : Does p cwd .fail .waiting t .failed t
  | noCopy {t : FileTree} : Does p cwd .fail .copying t .failing t
  | noRename {t : FileTree} {text : String} : Does p cwd .fail (.copied text) t .failing t
  | noRemove {t : FileTree} : Does p cwd .fail .failing t .failed t

/-! ## All publications -/

/-- The tree that the publications share, and how far each is. -/
structure Scene (ι : Type) where
  tree : FileTree
  phase : ι → Phase

section Schedule

variable {ι : Type} (pub : ι → Publication) (cwd : String)

/-- The publication that was the last to be renamed to this path. -/
def lastOnto? (path : String) (schedule : List (ι × Deed)) : Option ι :=
  (schedule.reverse.find? fun x => x.2 = .rename ∧ (pub x.1).output cwd = path).map Prod.fst

theorem lastOnto?_concat (path : String) (schedule : List (ι × Deed)) (i : ι) (d : Deed) :
    lastOnto? pub cwd path (schedule ++ [(i, d)]) =
      if d = .rename ∧ (pub i).output cwd = path then some i
      else lastOnto? pub cwd path schedule := by
  rw [lastOnto?, List.reverse_concat, List.find?_cons]
  by_cases h : d = .rename ∧ (pub i).output cwd = path
  · rw [if_pos h, decide_eq_true h]
    rfl
  · rw [if_neg h, decide_eq_false h]
    rfl

end Schedule

section Plays

variable {ι : Type} [DecidableEq ι] (pub : ι → Publication) (cwd : String) (t₀ : FileTree)

/-- The deeds of a schedule, each of the publication that is named with it, lead to a scene. -/
inductive Plays : List (ι × Deed) → Scene ι → Prop where
  | start : Plays [] ⟨t₀, fun _ => .waiting⟩
  | next {schedule : List (ι × Deed)} {scene : Scene ι} {i : ι} {d : Deed} {phase : Phase}
      {t : FileTree} :
      Plays schedule scene → Does (pub i) cwd d (scene.phase i) scene.tree phase t →
      Plays (schedule ++ [(i, d)]) ⟨t, Function.update scene.phase i phase⟩

/-- The text was all of the staged file when the copy of it was finished. -/
def CopiedWhole (schedule : List (ι × Deed)) (i : ι) (text : String) : Prop :=
  ∃ before scene, Plays pub cwd t₀ before scene ∧ before ++ [(i, .copy)] <+: schedule ∧
    scene.tree.read? ((pub i).staged cwd) = some text

/-- What holds whenever: what was copied is there until it is renamed, it is all that was staged, and
at a path where nothing is unfinished stands what was renamed to it last. -/
structure Sound (schedule : List (ι × Deed)) (scene : Scene ι) : Prop where
  ready : ∀ i text, scene.phase i = .copied text →
    scene.tree.read? ((pub i).unfinished cwd) = some text
  whole : ∀ i text, scene.phase i = .copied text ∨ scene.phase i = .published text →
    CopiedWhole pub cwd t₀ schedule i text
  untouched : ∀ path, (∀ i, path ≠ (pub i).unfinished cwd) →
    lastOnto? pub cwd path schedule = none → scene.tree.read? path = t₀.read? path
  renamed : ∀ path, (∀ i, path ≠ (pub i).unfinished cwd) →
    ∀ i, lastOnto? pub cwd path schedule = some i →
      ∃ text, scene.phase i = .published text ∧ scene.tree.read? path = some text

end Plays

/-! ## The names -/

namespace Publication

variable (p q : Publication) (cwd : String)

theorem resolvedNames_unfinished :
    resolvedNames cwd (unfinishedPath p.outputPath p.id) =
      resolvedNames cwd p.outDir ++
        [(unfinishedName (Mix.outputFileName p.title) p.id).toList] := by
  have hname := Mix.plain_outputFileName p.title
  rw [outputPath, unfinishedPath_eq p.bare.2 _ hname,
    Path.resolvedNames_join _ _ (plain_unfinishedName p.bare.2 hname)]

/-- An unfinished file is not where a mix is finished or staged. -/
theorem unfinished_ne_join (dir title : String) :
    p.unfinished cwd ≠ Path.resolve cwd (Path.join [dir, Mix.outputFileName title]) := by
  intro h
  exact unfinishedName_ne (Mix.outputFileName p.title) p.id title
    (Path.last_eq_of_resolve (p.resolvedNames_unfinished cwd)
      (Path.resolvedNames_join _ _ (Mix.plain_outputFileName title)) h)

theorem unfinished_ne_output : p.unfinished cwd ≠ q.output cwd :=
  p.unfinished_ne_join cwd q.outDir q.title

theorem unfinished_ne_staged : p.unfinished cwd ≠ q.staged cwd :=
  p.unfinished_ne_join cwd q.workDir q.title

/-- The name of an unfinished file says whose it is. -/
theorem id_eq_of_unfinished {p q : Publication} {cwd : String}
    (h : p.unfinished cwd = q.unfinished cwd) : p.id = q.id :=
  id_eq_of_unfinishedName p.bare.1 q.bare.1
    (Path.last_eq_of_resolve (p.resolvedNames_unfinished cwd) (q.resolvedNames_unfinished cwd) h)

end Publication

/-! ## One deed -/

section Deed

variable {p : Publication} {cwd : String} {d : Deed} {phase phase' : Phase} {t t' : FileTree}

/-- A deed is seen at the unfinished file, and a renaming at the output. -/
theorem Does.read?_other (h : Does p cwd d phase t phase' t') {path : String}
    (hunfinished : path ≠ p.unfinished cwd) (houtput : d = .rename → path ≠ p.output cwd) :
    t'.read? path = t.read? path := by
  cases h with
  | makeDir => rw [FileTree.read?_addDir]
  | write => rw [FileTree.read?_write, if_neg hunfinished]
  | copy => rw [FileTree.read?_write, if_neg hunfinished]
  | rename => exact FileTree.read?_rename_other hunfinished (houtput rfl)
  | remove => exact FileTree.read?_unlink_other hunfinished
  | noDir | noCopy | noRename | noRemove => rfl

/-- A publication that is at its end does nothing more. -/
theorem Does.not_published {text : String} (h : Does p cwd d (.published text) t phase' t') :
    False := by
  cases h

/-- Something is copied by finishing the copy of it. -/
theorem Does.of_copied {text : String} (h : Does p cwd d phase t (.copied text) t') :
    d = .copy ∧ t.read? (p.staged cwd) = some text ∧ t' = t.write (p.unfinished cwd) text := by
  cases h with
  | copy hread => exact ⟨rfl, hread, rfl⟩

/-- Something is published by renaming what was copied. -/
theorem Does.of_published {text : String} (h : Does p cwd d phase t (.published text) t') :
    phase = .copied text ∧ t' = t.rename (p.unfinished cwd) (p.output cwd) := by
  cases h
  exact ⟨rfl, rfl⟩

theorem Does.of_rename (h : Does p cwd .rename phase t phase' t') :
    ∃ text, phase = .copied text ∧ phase' = .published text ∧
      t' = t.rename (p.unfinished cwd) (p.output cwd) := by
  cases h
  exact ⟨_, rfl, rfl, rfl⟩

end Deed

section Plays

variable {ι : Type} [DecidableEq ι] {pub : ι → Publication} {cwd : String} {t₀ : FileTree}
  {schedule : List (ι × Deed)} {scene : Scene ι}

theorem CopiedWhole.concat {i : ι} {text : String} (h : CopiedWhole pub cwd t₀ schedule i text)
    (x : ι × Deed) : CopiedWhole pub cwd t₀ (schedule ++ [x]) i text := by
  obtain ⟨before, earlier, hplays, hbegins, hread⟩ := h
  exact ⟨before, earlier, hplays, hbegins.trans (List.prefix_append _ _), hread⟩

theorem sound_start : Sound pub cwd t₀ [] ⟨t₀, fun _ => .waiting⟩ where
  ready _ _ := nofun
  whole _ _ := by
    rintro (h | h) <;> cases h
  untouched _ _ _ := rfl
  renamed _ _ _ := nofun

section Next

variable {i : ι} {d : Deed} {phase : Phase} {t : FileTree}
  (hdoes : Does (pub i) cwd d (scene.phase i) scene.tree phase t)

include hdoes

omit [DecidableEq ι] in
/-- What another has not finished is left alone. -/
theorem read?_unfinished_other (hids : Function.Injective fun i => (pub i).id) {j : ι} (h : j ≠ i) :
    t.read? ((pub j).unfinished cwd) = scene.tree.read? ((pub j).unfinished cwd) := by
  refine hdoes.read?_other ?_ fun _ => (pub j).unfinished_ne_output (pub i) cwd
  intro heq
  exact h (hids (Publication.id_eq_of_unfinished heq))

theorem phase_of_published {k : ι} {text : String} (h : scene.phase k = .published text) :
    Function.update scene.phase i phase k = .published text := by
  have hne : k ≠ i := by
    rintro rfl
    rw [h] at hdoes
    exact hdoes.not_published
  rw [Function.update_of_ne hne, h]

variable (hsound : Sound pub cwd t₀ schedule scene)

include hsound

theorem ready_next (hids : Function.Injective fun i => (pub i).id) (j : ι) (text : String)
    (h : Function.update scene.phase i phase j = .copied text) :
    t.read? ((pub j).unfinished cwd) = some text := by
  by_cases hj : j = i
  · subst hj
    rw [Function.update_self] at h
    subst h
    obtain ⟨-, -, rfl⟩ := hdoes.of_copied
    rw [FileTree.read?_write, if_pos rfl]
  · rw [Function.update_of_ne hj] at h
    rw [read?_unfinished_other hdoes hids hj]
    exact hsound.ready j text h

theorem whole_next (hplays : Plays pub cwd t₀ schedule scene) (j : ι) (text : String)
    (h : Function.update scene.phase i phase j = .copied text ∨
      Function.update scene.phase i phase j = .published text) :
    CopiedWhole pub cwd t₀ (schedule ++ [(i, d)]) j text := by
  by_cases hj : j = i
  · subst hj
    rw [Function.update_self] at h
    rcases h with rfl | rfl
    · obtain ⟨rfl, hread, -⟩ := hdoes.of_copied
      exact ⟨schedule, scene, hplays, List.prefix_rfl, hread⟩
    · exact (hsound.whole j text (.inl hdoes.of_published.1)).concat _
  · rw [Function.update_of_ne hj] at h
    exact (hsound.whole j text h).concat _

theorem untouched_next (path : String) (hpath : ∀ j, path ≠ (pub j).unfinished cwd)
    (h : lastOnto? pub cwd path (schedule ++ [(i, d)]) = none) : t.read? path = t₀.read? path := by
  rw [lastOnto?_concat] at h
  split at h
  · cases h
  · rename_i hother
    rw [hdoes.read?_other (hpath i) fun hd heq => hother ⟨hd, heq.symm⟩]
    exact hsound.untouched path hpath h

theorem renamed_next (path : String) (hpath : ∀ j, path ≠ (pub j).unfinished cwd) (j : ι)
    (h : lastOnto? pub cwd path (schedule ++ [(i, d)]) = some j) :
    ∃ text, Function.update scene.phase i phase j = .published text ∧ t.read? path = some text := by
  rw [lastOnto?_concat] at h
  split at h
  · rename_i hlast
    cases h
    obtain ⟨rfl, rfl⟩ := hlast
    obtain ⟨text, hphase, rfl, rfl⟩ := hdoes.of_rename
    refine ⟨text, Function.update_self .., ?_⟩
    rw [FileTree.read?_rename (hsound.ready i text hphase), if_pos rfl]
  · rename_i hother
    obtain ⟨text, hphase, hread⟩ := hsound.renamed path hpath j h
    refine ⟨text, phase_of_published hdoes hphase, ?_⟩
    rw [hdoes.read?_other (hpath i) fun hd heq => hother ⟨hd, heq.symm⟩]
    exact hread

end Next

/-- The invariant holds at every moment, whatever the order of the deeds. -/
theorem sound_of_plays (hids : Function.Injective fun i => (pub i).id)
    (h : Plays pub cwd t₀ schedule scene) : Sound pub cwd t₀ schedule scene := by
  induction h with
  | start => exact sound_start
  | next hplays hdoes ih =>
      exact {
        ready := ready_next hdoes ih hids
        whole := whole_next hdoes ih hplays
        untouched := untouched_next hdoes ih
        renamed := renamed_next hdoes ih }

omit [DecidableEq ι] in
theorem lastOnto?_eq_none {path : String} (h : ∀ i, (pub i).output cwd ≠ path)
    (schedule : List (ι × Deed)) : lastOnto? pub cwd path schedule = none := by
  unfold lastOnto?
  rw [Option.map_eq_none_iff, List.find?_eq_none]
  intro x _ hx
  exact h x.1 (of_decide_eq_true hx).2

theorem read?_staged (hsound : Sound pub cwd t₀ schedule scene) {j : ι}
    (hstaged : ∀ i, (pub i).output cwd ≠ (pub j).staged cwd) :
    scene.tree.read? ((pub j).staged cwd) = t₀.read? ((pub j).staged cwd) :=
  hsound.untouched _ (fun i heq => (pub i).unfinished_ne_staged (pub j) cwd heq.symm)
    (lastOnto?_eq_none hstaged schedule)

/-- Publications whose ids differ, at any moment of any order of their deeds:

* an output to which nothing has been renamed is as it was at first;
* any other holds all that was staged by the publication that was renamed to it last, as it was when
  its copy was finished;
* a staged file is what it was at first, and so is what was copied of it, unless it stands where
  another's output belongs;
* the next deed, whose ever it is, leaves the unfinished files of the others alone, and of their
  staged files and outputs at most the one to which it renames. -/
theorem outputs_whole (hids : Function.Injective fun i => (pub i).id)
    (h : Plays pub cwd t₀ schedule scene) :
    (∀ j, lastOnto? pub cwd ((pub j).output cwd) schedule = none →
      scene.tree.read? ((pub j).output cwd) = t₀.read? ((pub j).output cwd)) ∧
    (∀ j i, lastOnto? pub cwd ((pub j).output cwd) schedule = some i →
      ∃ text, CopiedWhole pub cwd t₀ schedule i text ∧
        scene.tree.read? ((pub j).output cwd) = some text) ∧
    (∀ j, (∀ i, (pub i).output cwd ≠ (pub j).staged cwd) →
      scene.tree.read? ((pub j).staged cwd) = t₀.read? ((pub j).staged cwd) ∧
      ∀ text, CopiedWhole pub cwd t₀ schedule j text →
        t₀.read? ((pub j).staged cwd) = some text) ∧
    (∀ i d phase t, Does (pub i) cwd d (scene.phase i) scene.tree phase t → ∀ j, j ≠ i →
      t.read? ((pub j).unfinished cwd) = scene.tree.read? ((pub j).unfinished cwd) ∧
      ∀ path, path = (pub j).staged cwd ∨ path = (pub j).output cwd →
        (d = .rename → path ≠ (pub i).output cwd) → t.read? path = scene.tree.read? path) := by
  have hsound := sound_of_plays hids h
  have hnames (j i : ι) : (pub j).output cwd ≠ (pub i).unfinished cwd :=
    fun heq => (pub i).unfinished_ne_output (pub j) cwd heq.symm
  refine ⟨fun j => hsound.untouched _ (hnames j), ?_, ?_, ?_⟩
  · intro j i hlast
    obtain ⟨text, hphase, hread⟩ := hsound.renamed _ (hnames j) i hlast
    exact ⟨text, hsound.whole i text (.inr hphase), hread⟩
  · intro j hstaged
    refine ⟨read?_staged hsound hstaged, ?_⟩
    rintro text ⟨before, earlier, hplays, -, hread⟩
    rw [← read?_staged (sound_of_plays hids hplays) hstaged]
    exact hread
  · intro i d phase t hdoes j hj
    refine ⟨read?_unfinished_other hdoes hids hj, fun path hpath houtput => ?_⟩
    refine hdoes.read?_other ?_ houtput
    rcases hpath with rfl | rfl
    · exact fun heq => (pub i).unfinished_ne_staged (pub j) cwd heq.symm
    · exact hnames j i

end Plays

/-- Two renders with one title for one directory. -/
def twins : Bool → Publication
  | false => .ofRender 1 "/tmp/first" "/out" "Night"
  | true => .ofRender 2 "/tmp/second" "/out" "Night"

def twinMixes : FileTree :=
  .ofLists [("/tmp/first/Night.mp3", "first"), ("/tmp/second/Night.mp3", "second")] []

/-- While the first is copying, the second is published. Then the first copy fails. -/
theorem outputs_whole_twins :
    ∃ scene, Plays twins "/" twinMixes
        [(false, .makeDir), (false, .write), (true, .makeDir), (true, .copy), (true, .rename),
          (false, .fail), (false, .remove)] scene ∧
      scene.tree.read? ((twins false).output "/") = some "second" := by
  have hids : Function.Injective fun i => (twins i).id := by
    intro i j h
    cases i <;> cases j <;> first | rfl | exact absurd h (by decide)
  have hstart : Plays twins "/" twinMixes [] ⟨twinMixes, fun _ => .waiting⟩ := .start
  have hhalf := (hstart.next (i := false) .makeDir).next (i := false) (.write "fi")
  have hcopied := (hhalf.next (i := true) .makeDir).next (i := true)
    (.copy (show _ = some "second" by decide +kernel))
  have hrenamed := hcopied.next (i := true) .rename
  have hremoved := (hrenamed.next (i := false) .noCopy).next (i := false) .remove
  have hlast : lastOnto? twins "/" ((twins false).output "/")
      [(false, .makeDir), (false, .write), (true, .makeDir), (true, .copy), (true, .rename),
        (false, .fail), (false, .remove)] = some true := by decide +kernel
  have hapart : ∀ i, (twins i).output "/" ≠ (twins true).staged "/" := by decide +kernel
  have hmix : twinMixes.read? ((twins true).staged "/") = some "second" := by decide +kernel
  obtain ⟨-, hwhole, hstaged, -⟩ := outputs_whole hids hremoved
  obtain ⟨text, hcopied, hread⟩ := hwhole false true hlast
  obtain rfl : "second" = text :=
    Option.some.inj (hmix.symm.trans ((hstaged true hapart).2 text hcopied))
  exact ⟨_, hremoved, hread⟩

/-! ## The operations on files -/

/-- An operation on files by which a publication goes on, in a studio that others may have changed since
its last one. A copy that is only half done is a step of its own. -/
inductive Performs (p : Publication) : Deed → Phase → Studio → Phase → Studio → Prop where
  | makeDir {s s' : Studio} :
      Files.makeDir p.outDir s = .ok () s' → Performs p .makeDir .waiting s .copying s'
  | write {s s' : Studio} {portion : String} :
      Files.put (unfinishedPath p.outputPath p.id) portion s = .ok () s' →
      Performs p .write .copying s .copying s'
  | copy {s s' : Studio} {text : String} :
      Files.copy p.stagedPath (unfinishedPath p.outputPath p.id) s = .ok () s' →
      s.tree.read? (s.resolve p.stagedPath) = some text → Performs p .copy .copying s (.copied text) s'
  | rename {s s' : Studio} {text : String} :
      Files.rename (unfinishedPath p.outputPath p.id) p.outputPath s = .ok () s' →
      Performs p .rename (.copied text) s (.published text) s'
  | remove {s s' : Studio} :
      Files.removeFile (unfinishedPath p.outputPath p.id) s = .ok () s' →
      Performs p .remove .failing s .failed s'
  | noDir {s s' : Studio} {e : Thrown} :
      Files.makeDir p.outDir s = .error e s' → Performs p .fail .waiting s .failed s'
  | noCopy {s s' : Studio} {e : Thrown} :
      Files.copy p.stagedPath (unfinishedPath p.outputPath p.id) s = .error e s' →
      Performs p .fail .copying s .failing s'
  | noRename {s s' : Studio} {e : Thrown} {text : String} :
      Files.rename (unfinishedPath p.outputPath p.id) p.outputPath s = .error e s' →
      Performs p .fail (.copied text) s .failing s'
  | noRemove {s s' : Studio} {e : Thrown} :
      Files.removeFile (unfinishedPath p.outputPath p.id) s = .error e s' →
      Performs p .fail .failing s .failed s'

section Performs

variable {p : Publication} {d : Deed} {phase phase' : Phase} {s s' : Studio}

theorem Performs.becomes (h : Performs p d phase s phase' s') : Becomes s s'.tree s' := by
  cases h with
  | makeDir h => exact ⟨rfl, (Files.makeDir_eq_ok h).cwd, (Files.makeDir_eq_ok h).refusals⟩
  | write h =>
      cases h
      exact ⟨rfl, rfl, rfl⟩
  | copy h hread =>
      obtain ⟨_, -, hbecomes⟩ := Files.copy_eq_ok h
      exact ⟨rfl, hbecomes.cwd, hbecomes.refusals⟩
  | rename h => exact ⟨rfl, (Files.rename_eq_ok h).cwd, (Files.rename_eq_ok h).refusals⟩
  | remove h => exact ⟨rfl, (Files.removeFile_eq_ok h).1.cwd, (Files.removeFile_eq_ok h).1.refusals⟩
  | noDir h => exact ⟨rfl, (Files.makeDir_eq_error h).cwd, (Files.makeDir_eq_error h).refusals⟩
  | noCopy h => exact ⟨rfl, (Files.copy_eq_error h).cwd, (Files.copy_eq_error h).refusals⟩
  | noRename h => exact ⟨rfl, (Files.rename_eq_error h).cwd, (Files.rename_eq_error h).refusals⟩
  | noRemove h =>
      exact ⟨rfl, (Files.removeFile_eq_error h).1.cwd, (Files.removeFile_eq_error h).1.refusals⟩

/-- A file that is removed on a disk was no directory, and one that is a directory is not removed. -/
theorem unlink_of_removeFile {path : String} (h : Files.removeFile path s = .ok () s')
    (hdisk : s.refusals.onDisk = true) : s'.tree = s.tree.unlink (s.resolve path) := by
  obtain ⟨hbecomes, hallowed⟩ := Files.removeFile_eq_ok h
  rw [hbecomes.tree, FileTree.unlink, (Studio.unlinkRefusal?_eq_none.1 hallowed).2 hdisk,
    if_neg Bool.false_ne_true]

/-- On a disk each operation is one deed of its publication. -/
theorem Performs.does (h : Performs p d phase s phase' s') (hdisk : s.refusals.onDisk = true) :
    Does p s.cwd d phase s.tree phase' s'.tree := by
  cases h with
  | makeDir h =>
      rw [(Files.makeDir_eq_ok h).tree]
      exact .makeDir
  | write h =>
      cases h
      exact .write _
  | copy h hread =>
      obtain ⟨text, hsame, hbecomes⟩ := Files.copy_eq_ok h
      cases hsame.symm.trans hread
      rw [hbecomes.tree]
      exact .copy hread
  | rename h =>
      rw [(Files.rename_eq_ok h).tree]
      exact .rename
  | remove h =>
      rw [unlink_of_removeFile h hdisk]
      exact .remove
  | noDir h =>
      rw [(Files.makeDir_eq_error h).tree]
      exact .noDir
  | noCopy h =>
      rw [(Files.copy_eq_error h).tree]
      exact .noCopy
  | noRename h =>
      rw [(Files.rename_eq_error h).tree]
      exact .noRename
  | noRemove h =>
      rw [(Files.removeFile_eq_error h).1.tree]
      exact .noRemove

end Performs

section Works

variable {ι : Type} [DecidableEq ι]

/-- The operations of a schedule, each of the publication that is named with it, lead to a studio. From
one to the next other operations may be refused, but the files are on a disk. -/
inductive Works (pub : ι → Publication) (s₀ : Studio) :
    List (ι × Deed) → Studio → (ι → Phase) → Prop where
  | start : Works pub s₀ [] s₀ fun _ => .waiting
  | next {schedule : List (ι × Deed)} {phases : ι → Phase} {s s₁ s' : Studio} {i : ι} {d : Deed}
      {phase : Phase} :
      Works pub s₀ schedule s phases → s₁.tree = s.tree → s₁.cwd = s.cwd →
      s₁.refusals.onDisk = true → Performs (pub i) d (phases i) s₁ phase s' →
      Works pub s₀ (schedule ++ [(i, d)]) s' (Function.update phases i phase)

/-- What the operations of many publications make of a tree is a play of their deeds. -/
theorem plays_of_works {pub : ι → Publication} {s₀ s : Studio} {schedule : List (ι × Deed)}
    {phases : ι → Phase} (h : Works pub s₀ schedule s phases) :
    Plays pub s₀.cwd s₀.tree schedule ⟨s.tree, phases⟩ ∧ s.cwd = s₀.cwd := by
  induction h with
  | start => exact ⟨.start, rfl⟩
  | next _ htree hcwd hdisk hperforms ih =>
      obtain ⟨hplays, hsame⟩ := ih
      have hdoes := hperforms.does hdisk
      rw [htree, hcwd, hsame] at hdoes
      exact ⟨hplays.next hdoes, hperforms.becomes.cwd.trans (hcwd.trans hsame)⟩

end Works

/-! ## A publication by itself -/

section Alone

variable (p : Publication) {s s₁ s₂ : Studio} {schedule : List (Unit × Deed)} {d : Deed}
  {phase phase' : Phase}

/-- If there is only one publication, there is only one phase, and its operations follow on each other. -/
theorem Works.alone (h : Works (fun _ => p) s schedule s₁ fun _ : Unit => phase)
    (hdisk : s₁.refusals.onDisk = true) (hperforms : Performs p d phase s₁ phase' s₂) :
    Works (fun _ => p) s (schedule ++ [((), d)]) s₂ (fun _ : Unit => phase') ∧
      s₂.refusals.onDisk = true := by
  have hphase : Function.update (fun _ : Unit => phase) () phase' = fun _ => phase' :=
    funext fun _ => Function.update_self ..
  rw [← hphase]
  exact ⟨h.next rfl rfl hdisk hperforms, by rw [hperforms.becomes.refusals, hdisk]⟩

/-- A publication that is to clean up removes its unfinished file, or fails to. -/
theorem works_removeFile (h : Works (fun _ => p) s schedule s₁ fun _ : Unit => .failing)
    (hdisk : s₁.refusals.onDisk = true) :
    ∃ schedule, Works (fun _ => p) s schedule
      ((Files.removeFile (unfinishedPath p.outputPath p.id)).after s₁) fun _ : Unit => .failed := by
  cases hremove : Files.removeFile (unfinishedPath p.outputPath p.id) s₁ with
  | ok u s₂ =>
      rw [Action.after_of_ok hremove]
      exact ⟨_, (h.alone p hdisk (.remove hremove)).1⟩
  | error e s₂ =>
      rw [Action.after_of_error hremove]
      exact ⟨_, (h.alone p hdisk (.noRemove hremove)).1⟩

/-- A publication on a disk is its operations on files one after the other, and it succeeds just when they
come to the end. -/
theorem works_of_publish (hdisk : s.refusals.onDisk = true) :
    ∃ schedule phase, Works (fun _ => p) s schedule
        ((publish p.stagedPath p.outDir (Mix.outputFileName p.title) p.id).after s)
          (fun _ : Unit => phase) ∧
      ((publish p.stagedPath p.outDir (Mix.outputFileName p.title) p.id).succeeds s = true ↔
        ∃ text, phase = .published text) := by
  have hpublish := publish_eq p.stagedPath p.outDir (Mix.outputFileName p.title) p.id p.workDir
  have hstart : Works (fun _ => p) s [] s fun _ : Unit => .waiting := .start
  have hfailed : false = true ↔ ∃ text, Phase.failed = .published text := by
    refine iff_of_false Bool.false_ne_true ?_
    rintro ⟨text, h⟩
    cases h
  cases h : publishing p.stagedPath p.outDir (Mix.outputFileName p.title) p.id p.workDir s with
  | ok path s' =>
      have hdone : publish p.stagedPath p.outDir (Mix.outputFileName p.title) p.id s = .ok path s' := by
        rw [hpublish, withdrawing, h]
      obtain ⟨-, s₁, hmakes, s₂, hcopies, _, hrenames, rfl⟩ :=
        (@publish_eq_ok .prompt _ _ _ _ _ _ _).1 hdone
      obtain ⟨text, hread, -⟩ := Files.copy_eq_ok hcopies
      obtain ⟨hmade, hdisk₁⟩ := hstart.alone p hdisk (.makeDir hmakes)
      obtain ⟨hcopied, hdisk₂⟩ := hmade.alone p hdisk₁ (.copy hcopies hread)
      obtain ⟨hrenamed, -⟩ := hcopied.alone p hdisk₂ (.rename hrenames)
      rw [Action.after_of_ok hdone, Action.succeeds, hdone]
      exact ⟨_, .published text, hrenamed, iff_of_true rfl ⟨text, rfl⟩⟩
  | error b s' =>
      have hdone : publish p.stagedPath p.outDir (Mix.outputFileName p.title) p.id s =
          .error (b.passed s') (b.withdrawn s') := by
        rw [hpublish, withdrawing, h]
        exact b.withdraw_eq s'
      rw [Action.after_of_error hdone, Action.succeeds, hdone]
      cases unpublished_of_publishing h with
      | outDir hfails => exact ⟨_, .failed, (hstart.alone p hdisk (.noDir hfails)).1, hfailed⟩
      | copy hmakes hfails =>
          obtain ⟨hmade, hdisk₁⟩ := hstart.alone p hdisk (.makeDir hmakes)
          obtain ⟨hleft, hdisk₂⟩ := hmade.alone p hdisk₁ (.noCopy hfails)
          obtain ⟨schedule, hworks⟩ := works_removeFile p hleft hdisk₂
          exact ⟨schedule, .failed, hworks, hfailed⟩
      | rename hmakes hcopies hfails =>
          obtain ⟨text, hread, -⟩ := Files.copy_eq_ok hcopies
          obtain ⟨hmade, hdisk₁⟩ := hstart.alone p hdisk (.makeDir hmakes)
          obtain ⟨hcopied, hdisk₂⟩ := hmade.alone p hdisk₁ (.copy hcopies hread)
          obtain ⟨hleft, hdisk₃⟩ := hcopied.alone p hdisk₂ (.noRename hfails)
          obtain ⟨schedule, hworks⟩ := works_removeFile p hleft hdisk₃
          exact ⟨schedule, .failed, hworks, hfailed⟩

end Alone

end Render

end StoryMix
