import StoryMix.Proofs.Rehearsal.Answers
import StoryMix.Proofs.Render.Course
import StoryMix.Proofs.Render.Season
import StoryMix.Proofs.Render.Way

/-!
# Renders do not remember

A render may follow on others that were rendered in the same studio. They have left files behind, used up
numbers and spoken into all sorts of files, and some have failed midway. None of this shows in the ending
of the render: it ends as in any other studio that refuses the same operations, but for its id and the
working directory that its segments lie in (`memoryless`).

On a disk one thing more shows, and that is what stands in the way of the render itself. An output of an
earlier render may stand where this one makes its output directory (`remembers_output`). So the two studios
have to be alike in this as well (`SameGround`).

Two runs of the same render are followed side by side. What is refused and what the tools answer does not
depend on these two names, so the runs go the same way at every turn, and their timelines are one timeline
in two working directories.
-/

namespace StoryMix

namespace Render

open StoryMix.Action
open FileTree (within)
open StoryMix.Path (along)

/-- What is a render's own. -/
structure Workplace where
  id : String
  workDir : String

/-- What a render that begins in `s` has for its own. -/
def workplace (s : Studio) : Workplace where
  id := idOf (s.renders + 1)
  workDir := workDirStart (idOf (s.renders + 1)) ++ "tmp" ++ Numeral.natText (s.tempDirs + 1)

/-- The same operation of two renders, with paths of a workplace. -/
inductive SameCall (a b : Workplace) : Call → Call → Prop where
  | makeTempDir :
      SameCall a b (.makeTempDir (workDirStart a.id)) (.makeTempDir (workDirStart b.id))
  | copy (name outputPath : String) :
      SameCall a b
        (.copy (Path.join [a.workDir, name]) (unfinishedPath outputPath a.id))
        (.copy (Path.join [b.workDir, name]) (unfinishedPath outputPath b.id))
  | rename (outputPath : String) :
      SameCall a b (.rename (unfinishedPath outputPath a.id) outputPath)
        (.rename (unfinishedPath outputPath b.id) outputPath)

/-- The same failure. Only one that says which operation has met an obstacle names a workplace. -/
inductive SameFailure (a b : Workplace) : Thrown → Thrown → Prop where
  | same (e : Thrown) : SameFailure a b e e
  | met (o : Obstacle) {call call' : Call} : SameCall a b call call' →
      SameFailure a b (.error ↑(o.message call)) (.error ↑(o.message call'))
  | isDirectory (outputPath : String) :
      SameFailure a b (.error (.ofDirectory (unfinishedPath outputPath a.id)))
        (.error (.ofDirectory (unfinishedPath outputPath b.id)))

/-- What cannot be written out is the same in both. -/
theorem SameFailure.message? {a b : Workplace} {e e' : Thrown} (h : SameFailure a b e e') :
    (e.message? = none ∧ e'.message? = none) ∨
      ∃ message message', e.message? = some message ∧ e'.message? = some message' := by
  cases h with
  | same e =>
      cases hmessage : e.message? with
      | none => exact .inl ⟨rfl, rfl⟩
      | some message => exact .inr ⟨message, message, rfl, rfl⟩
  | met | isDirectory => exact .inr ⟨_, _, rfl, rfl⟩

/-- The same result: the same output, and the same timeline and graph but for the workplace. -/
structure SameResult (a b : Workplace) (config : ProducerConfig) (r r' : Result) : Prop where
  renderId : r.renderId = a.id
  renderId' : r'.renderId = b.id
  outputPath : r'.outputPath = r.outputPath
  timeline : r.timeline.Moved a.workDir b.workDir r'.timeline
  graph : ∃ g g', Mix.compile r.timeline config = .ok g ∧ Mix.compile r'.timeline config = .ok g' ∧
    g.Moved a.workDir b.workDir g'

/-- The same ending, which is a result or a failure. -/
inductive SameEnding (a b : Workplace) (config : ProducerConfig) :
    Except Thrown Result → Except Thrown Result → Prop where
  | result {r r' : Result} : SameResult a b config r r' → SameEnding a b config (.ok r) (.ok r')
  | failure {e e' : Thrown} : SameFailure a b e e' → SameEnding a b config (.error e) (.error e')

/-- The render meets the same on two disks, in `s` and in `t`: the place for temporary files is there in
both or in none, and so is what stands in the way of the publication. Its tools are tidy, and no directory
for output lies in its working directory, so that it does not get in its own way. -/
structure SameGround (tools : Tools) (request : RenderRequest) (s t : Studio) : Prop where
  tidy : tools.Tidy
  apart : within (s.resolve (workplace s).workDir) (s.resolve request.config.outDir) = false
  apart' : within (t.resolve (workplace t).workDir) (t.resolve request.config.outDir) = false
  tempDir : t.obstacle? (.makeTempDir (workDirStart (workplace t).id)) =
    s.obstacle? (.makeTempDir (workDirStart (workplace s).id))
  way : ∀ events, Script.parse request.strict request.script = .ok events →
    wayOf (workplace t).id request.config.outDir (Mix.outputFileName (Timeline.titleOf events)) t =
      wayOf (workplace s).id request.config.outDir (Mix.outputFileName (Timeline.titleOf events)) s

section Parts

variable {refusals : Refusals} {E : Thrown → Thrown → Prop} {s t : Studio} (hE : ∀ e, E e e)
  (hs : s.refusals = refusals) (ht : t.refusals = refusals)
include hE hs ht

/-! ## Files -/

theorem alongside_makeDir {path : String}
    (hmet : refusals.onDisk = true → t.obstacle? (.makeDir path) = s.obstacle? (.makeDir path)) :
    Alongside refusals E (fun _ _ _ _ => True) (Files.makeDir path s) (Files.makeDir path t) :=
  .attempt_bind hs ht hE rfl (fun hdisk => ⟨hmet hdisk, fun _ _ => hE _⟩) (.ok trivial hs ht)

theorem alongside_makeTempDir (hblind : refusals.Blind) {start start' : String}
    (hmet : refusals.onDisk = true →
      t.obstacle? (.makeTempDir start') = s.obstacle? (.makeTempDir start))
    (hlost : ∀ o : Obstacle, E (.error ↑(o.message (.makeTempDir start)))
      (.error ↑(o.message (.makeTempDir start')))) :
    Alongside refusals E
      (fun a _ b _ => a = start ++ "tmp" ++ Numeral.natText (s.tempDirs + 1) ∧
        b = start' ++ "tmp" ++ Numeral.natText (t.tempDirs + 1))
      (Files.makeTempDir start s) (Files.makeTempDir start' t) :=
  .attempt_bind hs ht hE (hblind.makeTempDir start start')
    (fun hdisk => ⟨hmet hdisk, fun o _ => hlost o⟩) (.ok ⟨rfl, rfl⟩ hs ht)

theorem alongside_copy (hblind : refusals.Blind) {source target source' target' : String}
    (hread : t.tree.read? (t.resolve source') = s.tree.read? (s.resolve source))
    (hdir : refusals.onDisk = true →
      t.tree.isDir (t.resolve target') = s.tree.isDir (s.resolve target))
    (hlost : ∀ o : Obstacle, E (.error ↑(o.message (.copy source target)))
      (.error ↑(o.message (.copy source' target')))) :
    Alongside refusals E (fun _ _ _ _ => True) (Files.copy source target s)
      (Files.copy source' target' t) := by
  rw [Files.copy_eq, Files.copy_eq]
  refine Alongside.attempt_bind hs ht hE (hblind.copy source target source' target')
    (fun hdisk => ⟨?_, fun o _ => hlost o⟩) ?_
  · rw [Studio.obstacle?, Studio.obstacle?, hread, hdir hdisk]
  change Alongside _ _ _ ((s.tree.read? (s.resolve source)).elim _ _)
    ((t.tree.read? (t.resolve source')).elim _ _)
  rw [hread]
  cases s.tree.read? (s.resolve source) with
  | none => exact .error (hlost .missing) hs ht
  | some text => exact .ok trivial hs ht

theorem alongside_rename (hblind : refusals.Blind) {source source' target : String}
    (hread : (t.tree.read? (t.resolve source')).isNone = (s.tree.read? (s.resolve source)).isNone)
    (hdir : refusals.onDisk = true →
      t.tree.isDir (t.resolve target) = s.tree.isDir (s.resolve target))
    (hlost : ∀ o : Obstacle, E (.error ↑(o.message (.rename source target)))
      (.error ↑(o.message (.rename source' target)))) :
    Alongside refusals E (fun _ _ _ _ => True) (Files.rename source target s)
      (Files.rename source' target t) := by
  refine Alongside.attempt_bind hs ht hE (hblind.rename source source' target)
    (fun hdisk => ⟨?_, fun o _ => hlost o⟩) (.ok trivial hs ht)
  rw [Studio.obstacle?, Studio.obstacle?, hread, hdir hdisk]

theorem alongside_removeFile (hblind : refusals.Blind) {path path' : String}
    (hdir : refusals.onDisk = true → t.tree.isDir (t.resolve path') = s.tree.isDir (s.resolve path))
    (hlost : E (.error (.ofDirectory path)) (.error (.ofDirectory path'))) :
    Alongside refusals E (fun _ _ _ _ => True) (Files.removeFile path s) (Files.removeFile path' t) := by
  have hrefused : (s.unlinkRefusal? path = none ∧ t.unlinkRefusal? path' = none) ∨
      ∃ e e', s.unlinkRefusal? path = some e ∧ t.unlinkRefusal? path' = some e' ∧
        E (.error e) (.error e') := by
    rw [Studio.unlinkRefusal?, Studio.unlinkRefusal?, hs, ht, hblind.remove path path']
    cases refusals.message? (.remove path) with
    | some message => exact .inr ⟨_, _, rfl, rfl, hE _⟩
    | none =>
        cases hdisk : refusals.onDisk with
        | false => exact .inl ⟨rfl, rfl⟩
        | true =>
            rw [Bool.true_and, Bool.true_and, hdir hdisk]
            cases s.tree.isDir (s.resolve path) with
            | false => exact .inl ⟨rfl, rfl⟩
            | true => exact .inr ⟨_, _, rfl, rfl, hlost⟩
  rw [Files.removeFile_eq, Files.removeFile_eq]
  rcases hrefused with ⟨hnone, hnone'⟩ | ⟨e, e', hsome, hsome', he⟩
  · rw [hnone, hnone']
    exact .ok trivial hs ht
  · rw [hsome, hsome']
    exact .error he hs ht

omit hE in
/-- The removal of a working directory never fails, be it refused or not. -/
theorem alongside_removeWorkDir (id id' workDir workDir' : String) :
    Alongside refusals E (fun _ _ _ _ => True) (removeWorkDir id workDir s)
      (removeWorkDir id' workDir' t) := by
  obtain ⟨s', h, hcleared⟩ := removeWorkDir_eq_ok id workDir s
  obtain ⟨t', h', hcleared'⟩ := removeWorkDir_eq_ok id' workDir' t
  rw [h, h']
  exact .ok trivial (hcleared.refusals.trans hs) (hcleared'.refusals.trans ht)

end Parts

section Stages

variable {refusals : Refusals} {a b : Workplace} {s t : Studio}

theorem alongside_reporting {α β : Type} {R : α → Studio → β → Studio → Prop} {x : Action α}
    {y : Action β} (id id' : String)
    (h : Alongside refusals (SameFailure a b) R (x s) (y t)) :
    Alongside refusals (SameFailure a b) R (reporting id x s) (reporting id' y t) := by
  refine h.onFailure fun e s' e' t' he hs ht => ?_
  rcases he.message? with ⟨hnone, hnone'⟩ | ⟨message, message', hsome, hsome'⟩
  · rw [writing_bind_of_none hnone, writing_bind_of_none hnone']
    exact .error (.same _) hs ht
  · rw [writing_bind_of_some hsome, writing_bind_of_some hsome']
    exact .say hs ht _ _ _ _ _ _

/-! ## One part after the other -/

variable (hblind : refusals.Blind) (hs : s.refusals = refusals) (ht : t.refusals = refusals)
include hblind hs ht

theorem alongside_prepare (request : RenderRequest)
    (hmet : refusals.onDisk = true → t.obstacle? (.makeTempDir (workDirStart b.id)) =
      s.obstacle? (.makeTempDir (workDirStart a.id))) :
    Alongside refusals (SameFailure a b)
      (fun x _ y _ => y.1 = x.1 ∧
        x.2 = workDirStart a.id ++ "tmp" ++ Numeral.natText (s.tempDirs + 1) ∧
        y.2 = workDirStart b.id ++ "tmp" ++ Numeral.natText (t.tempDirs + 1))
      (prepare a.id request s) (prepare b.id request t) := by
  have hE := SameFailure.same (a := a) (b := b)
  refine (Alongside.ofExcept hs ht hE _).bind fun events _ _ _ h hs ht => ?_
  obtain ⟨-, rfl, rfl, rfl⟩ := h
  -- Before the directory is made, only the log has changed.
  exact (alongside_makeTempDir (s := parsed a.id events s) (t := parsed b.id events t) hE hs ht hblind
    hmet fun o => .met o .makeTempDir).bind fun _ _ _ _ h hs ht => .ok ⟨rfl, h⟩ hs ht

/-- What is staged is copied and renamed in both runs, if it stands there in both or in neither and the way
is the same. -/
theorem alongside_publish {k k' : Nat} (ha : a.id = idOf k) (hb : b.id = idOf k')
    (title outDir : String)
    (hread : t.tree.read? (t.resolve (Path.join [b.workDir, Mix.outputFileName title])) =
      s.tree.read? (s.resolve (Path.join [a.workDir, Mix.outputFileName title])))
    (hway : refusals.onDisk = true → wayOf b.id outDir (Mix.outputFileName title) t =
      wayOf a.id outDir (Mix.outputFileName title) s) :
    Alongside refusals (SameFailure a b) (fun x _ y _ => y = x)
      (publish (Path.join [a.workDir, Mix.outputFileName title]) outDir (Mix.outputFileName title) a.id s)
      (publish (Path.join [b.workDir, Mix.outputFileName title]) outDir (Mix.outputFileName title) b.id
        t) := by
  have hE := SameFailure.same (a := a) (b := b)
  refine (alongside_makeDir hE hs ht fun hdisk => by
    rw [← wayOf_outDir b.id, hway hdisk, wayOf_outDir]).bind_of_runs fun _ s₁ _ t₁ hmade hmade' _ hs₁ ht₁ => ?_
  have h₁ := Files.makeDir_eq_ok hmade
  have h₁' := Files.makeDir_eq_ok hmade'
  -- The directory that was made lies above the two files.
  have hfiles : refusals.onDisk = true →
      (wayOf b.id outDir (Mix.outputFileName title) t₁).unfinished =
          (wayOf a.id outDir (Mix.outputFileName title) s₁).unfinished ∧
        (wayOf b.id outDir (Mix.outputFileName title) t₁).output =
          (wayOf a.id outDir (Mix.outputFileName title) s₁).output := by
    intro hdisk
    rw [ha, hb] at hway ⊢
    rw [(wayOf_of_makeDir h₁).1, (wayOf_of_makeDir h₁).2, (wayOf_of_makeDir h₁').1,
      (wayOf_of_makeDir h₁').2, hway hdisk]
    exact ⟨rfl, rfl⟩
  refine Alongside.bind (R := fun _ _ _ _ => True) (.onFailure_of_runs (R := fun _ _ _ _ => True) ?_ ?_)
    fun _ _ _ _ _ hs ht => .ok rfl hs ht
  · refine (alongside_copy hE hs₁ ht₁ hblind ?_ ?_ fun o => .met o (.copy _ _)).bind_of_runs
      fun _ s₂ _ t₂ hcopy hcopy' _ hs₂ ht₂ => ?_
    · rw [h₁.tree, h₁'.tree, FileTree.read?_addDir, FileTree.read?_addDir, h₁.resolve, h₁'.resolve,
        hread]
    · intro hdisk
      rw [← wayOf_unfinished, ← wayOf_unfinished, (hfiles hdisk).1]
    · obtain ⟨text, -, h₂⟩ := Files.copy_eq_ok hcopy
      obtain ⟨text', -, h₂'⟩ := Files.copy_eq_ok hcopy'
      refine alongside_rename hE hs₂ ht₂ hblind ?_ (fun hdisk => ?_) fun o => .met o (.rename _)
      · rw [h₂.tree, h₂'.tree, h₂.resolve, h₂'.resolve, FileTree.read?_write, FileTree.read?_write,
          if_pos rfl, if_pos rfl]
        rfl
      · have hbeside := (hfiles hdisk).2
        rw [ha, hb] at hbeside
        rw [ha] at h₂
        rw [hb] at h₂'
        rw [← wayOf_output (idOf k'), ← wayOf_output (idOf k), (wayOf_of_write h₂).2,
          (wayOf_of_write h₂').2, hbeside]
  · intro e s₂ e' t₂ hfailed hfailed' _ hs₂ ht₂
    refine alongside_removeFile hE hs₂ ht₂ hblind (fun hdisk => ?_) (.isDirectory _)
    have hunfinished := (hfiles hdisk).1
    rw [ha, hb] at hunfinished ⊢
    rw [ha] at hfailed
    rw [hb] at hfailed'
    rw [← wayOf_unfinished, ← wayOf_unfinished, wayOf_of_withdrawn hfailed, wayOf_of_withdrawn hfailed',
      hunfinished]

end Stages

section Whole

variable {refusals : Refusals} (hblind : refusals.Blind) {tools : Tools} {answers : Answers}
  {heard : Studio → String → Option String} (htools : tools.Answering answers heard) {s t : Studio}
  (hs : s.refusals = refusals) (ht : t.refusals = refusals)
include hblind htools hs ht

omit hblind in
/-- Both mixers fail, or they leave the same at their paths. -/
theorem alongside_mix {E : Thrown → Thrown → Prop} (hE : ∀ e, E e e) {w w' : String} {g g' : Mix.Graph}
    (hgraph : g.Moved w w' g') (path path' : String) :
    Alongside refusals E
      (fun _ s' _ t' => t'.tree.read? (t'.resolve path') = s'.tree.read? (s'.resolve path))
      (tools.mix g path s) (tools.mix g' path' t) := by
  obtain ⟨file, h⟩ := htools.mix g path s
  obtain ⟨file', h'⟩ := htools.mix g' path' t
  have hsame := answers.mix_moved hgraph
  rw [hsame] at h'
  refine .of_replies hs ht hE h h' fun _ _ hmixed hmixed' => ?_
  have hleft := htools.mixed _ _ s _ _ hmixed
  have hleft' := htools.mixed _ _ t _ _ hmixed'
  rw [hsame, hleft] at hleft'
  exact (Except.ok.inj hleft').symm

theorem alongside_produce (request : RenderRequest)
    (hground : refusals.onDisk = true → SameGround tools request s t) {events : List Event}
    (hparse : Script.parse request.strict request.script = .ok events) {s₁ t₁ : Studio}
    (henclosed : Enclosed s (workplace s).workDir s₁) (henclosed' : Enclosed t (workplace t).workDir t₁) :
    Alongside refusals (SameFailure (workplace s) (workplace t))
      (fun r _ r' _ => SameResult (workplace s) (workplace t) request.config r r')
      (produce tools (workplace s).id request.config events (workplace s).workDir s₁)
      (produce tools (workplace t).id request.config events (workplace t).workDir t₁) := by
  have hE := SameFailure.same (a := workplace s) (b := workplace t)
  refine (Timeline.alongside_build htools hE events (henclosed.refusals.trans hs)
    (henclosed'.refusals.trans ht)).bind_of_runs
      fun timeline s₂ timeline' t₂ hbuild hbuild' h hs₂ ht₂ => ?_
  obtain ⟨r, rfl, -, -, htimeline⟩ := Timeline.build_eq_ok_iff.1 hbuild
  rcases Mix.compile_moved h request.config with
    ⟨f, hcompile, hcompile'⟩ | ⟨g, g', hcompile, hcompile', hgraph⟩
  · rw [hcompile, hcompile']
    exact .error (hE _) hs₂ ht₂
  · obtain ⟨-, -, hname⟩ := Mix.compile_eq_ok hcompile
    rw [hcompile, hcompile']
    rw [bind_of_ok (show ofExcept (.ok g) s₂ = .ok g s₂ from rfl),
      bind_of_ok (show ofExcept (.ok g') t₂ = .ok g' t₂ from rfl)]
    rw [hgraph.output]
    refine (alongside_mix htools hs₂ ht₂ hE hgraph _ _).bind_of_runs
      fun _ s₃ _ t₃ hmix hmix' hread hs₃ ht₃ => ?_
    -- Up to here neither render has left its working directory.
    have hway : refusals.onDisk = true →
        wayOf (workplace t).id request.config.outDir g.output.fileName t₃ =
          wayOf (workplace s).id request.config.outDir g.output.fileName s₃ := by
      intro hdisk
      obtain ⟨htidy, hout, hout', -, hway⟩ := hground hdisk
      have hdir := resolvedNames_workDir (s.renders + 1) (s.tempDirs + 1)
      have hdir' := resolvedNames_workDir (t.renders + 1) (t.tempDirs + 1)
      rw [← hgraph.output] at hmix'
      rw [hname, htimeline]
      calc wayOf (workplace t).id request.config.outDir (Mix.outputFileName r.timeline.title) t₃
          = wayOf (workplace t).id request.config.outDir (Mix.outputFileName r.timeline.title) t :=
            wayOf_of_mixed htidy hdir' henclosed' hbuild' hcompile' hmix' hout' _
        _ = wayOf (workplace s).id request.config.outDir (Mix.outputFileName r.timeline.title) s :=
            hway _ hparse
        _ = wayOf (workplace s).id request.config.outDir (Mix.outputFileName r.timeline.title) s₃ :=
            (wayOf_of_mixed htidy hdir henclosed hbuild hcompile hmix hout _).symm
    rw [hname] at hread hway ⊢
    refine (alongside_publish hblind hs₃ ht₃ rfl rfl _ _ hread hway).bind
      fun path _ path' _ hpath hs ht => ?_
    refine (Alongside.say hs ht _ _ _ _ _ _).bind fun _ _ _ _ _ hs ht => ?_
    exact .ok ⟨rfl, rfl, hpath, h, g, g', hcompile, hcompile', hgraph⟩ hs ht

/-- Renders of the same request end alike, in whatever studios they begin. On a disk they have to meet the
same. -/
theorem alongside_render (request : RenderRequest)
    (hground : refusals.onDisk = true → SameGround tools request s t) :
    Alongside refusals (SameFailure (workplace s) (workplace t))
      (fun r _ r' _ => SameResult (workplace s) (workplace t) request.config r r')
      (render tools request s) (render tools request t) := by
  change Alongside _ _ _
    ((reporting (workplace s).id (prepare (workplace s).id request) >>= fun prepared =>
      (reporting (workplace s).id (produce tools (workplace s).id request.config prepared.1
        prepared.2)).always (removeWorkDir (workplace s).id prepared.2)) (opened request s))
    ((reporting (workplace t).id (prepare (workplace t).id request) >>= fun prepared =>
      (reporting (workplace t).id (produce tools (workplace t).id request.config prepared.1
        prepared.2)).always (removeWorkDir (workplace t).id prepared.2)) (opened request t))
  have hprepare := alongside_prepare (a := workplace s) (b := workplace t) (s := opened request s)
    (t := opened request t) hblind hs ht request fun hdisk => (hground hdisk).tempDir
  refine (alongside_reporting _ _ hprepare).bind_of_runs
    fun prepared s₁ prepared' t₁ hprepared hprepared' h _ _ => ?_
  obtain ⟨events, workDir⟩ := prepared
  obtain ⟨events', workDir'⟩ := prepared'
  obtain ⟨hevents, hworkDir, hworkDir'⟩ := h
  obtain rfl : events' = events := hevents
  obtain rfl : workDir = (workplace s).workDir := hworkDir
  obtain rfl : workDir' = (workplace t).workDir := hworkDir'
  have hbegun (s : Studio) : Begun s (opened request s) := ⟨rfl, rfl, rfl, rfl⟩
  have hrun := onFailure_eq_ok.1 hprepared
  have hrun' := onFailure_eq_ok.1 hprepared'
  exact (alongside_reporting _ _ (alongside_produce hblind htools hs ht request hground
    (prepare_eq_ok_files hrun).1 (enclosed_of_prepare hrun (hbegun s)).1
    (enclosed_of_prepare hrun' (hbegun t)).1)).always
      fun _ _ hs ht => alongside_removeWorkDir hs ht _ _ _ _

end Whole

theorem refusals_of_mem {s : Studio} {jobs : List Job} {t : Turn} (h : t ∈ turnsOf s jobs) :
    t.before.refusals = t.job.refusals := by
  induction jobs generalizing s with
  | nil => cases h
  | cons job jobs ih =>
      rcases List.mem_cons.1 h with rfl | h
      · rfl
      · exact ih h

theorem sameEnding_of_alongside {refusals : Refusals} {a b : Workplace} {config : ProducerConfig}
    {x y : Action Result} {s t : Studio}
    (h : Alongside refusals (SameFailure a b) (fun r _ r' _ => SameResult a b config r r') (x s) (y t)) :
    SameEnding a b config (x.answer s) (y.answer t) := by
  unfold answer
  generalize x s = ending at h ⊢
  generalize y t = ending' at h ⊢
  cases h with
  | ok h => exact .result h
  | error h => exact .failure h

/-- Of any number of jobs, one after the other in the same studio, each ends as it would have if it had
been alone in a studio of its own: with the same failure, or with the same output, timeline and graph but
for its id and its working directory. Nothing is asked of the other jobs, nor of how they have ended, but
that on a disk nothing else is in the way of this one than when it is alone. -/
theorem memoryless (s : Studio) (jobs : List Job) {t : Turn} (ht : t ∈ turnsOf s jobs)
    {answers : Answers} {heard : Studio → String → Option String}
    (htools : t.job.tools.Answering answers heard) (hblind : t.job.refusals.Blind) (alone : Studio)
    (hground : t.job.refusals.onDisk = true →
      SameGround t.job.tools t.job.request t.before (t.job.turn alone).before) :
    SameEnding (workplace t.before) (workplace (t.job.turn alone).before) t.job.request.config
      ((render t.job.tools t.job.request).answer t.before)
      ((render t.job.tools t.job.request).answer (t.job.turn alone).before) :=
  sameEnding_of_alongside
    (alongside_render hblind htools (refusals_of_mem ht) rfl t.job.request hground)

/-- One line of the two cannot be measured. -/
def hoarse : Rehearsal :=
  { Rehearsal.plain with failProbeOn := some "Boo" }

/-- This job speaks a line and fails with the next. Its working directory stays. -/
def haunted : Job :=
  ⟨hoarse.tools, ⟨"@title: Night\nRuby: Hello\nRuby: Boo", .soloist "Ruby" "/ruby.wav", true⟩,
    .ofDisk [(.remove, "EBUSY")]⟩

/-- This one speaks the same line to the end. -/
def calm : Job :=
  ⟨hoarse.tools, ⟨"@title: Night\nRuby: Hello\nPAUSE: 2", .soloist "Ruby" "/ruby.wav", true⟩, .ofDisk []⟩

/-- The ground on which the render of `calm` begins is not changed by what `haunted` has left. -/
theorem sameGround_calm : SameGround calm.tools calm.request
    (calm.turn (haunted.turn Season.bareDisk).after).before (calm.turn Season.bareDisk).before := by
  generalize hs : (calm.turn (haunted.turn Season.bareDisk).after).before = s
  generalize ht : (calm.turn Season.bareDisk).before = t
  have hground : within (s.resolve (workplace s).workDir) (s.resolve calm.request.config.outDir) = false ∧
      within (t.resolve (workplace t).workDir) (t.resolve calm.request.config.outDir) = false ∧
      t.obstacle? (.makeTempDir (workDirStart (workplace t).id)) =
        s.obstacle? (.makeTempDir (workDirStart (workplace s).id)) ∧
      (match Script.parse calm.request.strict calm.request.script with
        | .ok events =>
            decide (wayOf (workplace t).id calm.request.config.outDir
                (Mix.outputFileName (Timeline.titleOf events)) t =
              wayOf (workplace s).id calm.request.config.outDir
                (Mix.outputFileName (Timeline.titleOf events)) s)
        | .error _ => true) = true := by
    subst hs ht
    decide +kernel
  obtain ⟨hout, hout', htempDir, hway⟩ := hground
  refine ⟨hoarse.tidy_tools, hout, hout', htempDir, fun events hparse => ?_⟩
  rw [hparse] at hway
  exact of_decide_eq_true hway

/-- A render after one that has failed midway is the render that it would have been without. -/
theorem memoryless_calm :
    (haunted.turn Season.bareDisk).output? = none ∧
    ∃ r r', (render calm.tools calm.request).answer
        (calm.turn (haunted.turn Season.bareDisk).after).before = .ok r ∧
      (render calm.tools calm.request).answer (calm.turn Season.bareDisk).before = .ok r' ∧
      r.renderId = "00000002" ∧ r'.renderId = "00000001" ∧
      SameResult (workplace (calm.turn (haunted.turn Season.bareDisk).after).before)
        (workplace (calm.turn Season.bareDisk).before) calm.request.config r r' := by
  obtain ⟨hhaunted, hcalm, hid, hid'⟩ : (haunted.turn Season.bareDisk).output? = none ∧
      (calm.turn (haunted.turn Season.bareDisk).after).output? = some "/out/Night.mp3" ∧
      (workplace (calm.turn (haunted.turn Season.bareDisk).after).before).id = "00000002" ∧
      (workplace (calm.turn Season.bareDisk).before).id = "00000001" := by
    decide +kernel
  have hmem : calm.turn (haunted.turn Season.bareDisk).after ∈
      turnsOf Season.bareDisk [haunted, calm] :=
    List.mem_cons_of_mem _ List.mem_cons_self
  have hsame : SameEnding (workplace (calm.turn (haunted.turn Season.bareDisk).after).before)
      (workplace (calm.turn Season.bareDisk).before) calm.request.config
      ((render calm.tools calm.request).answer
        (calm.turn (haunted.turn Season.bareDisk).after).before)
      ((render calm.tools calm.request).answer (calm.turn Season.bareDisk).before) :=
    memoryless Season.bareDisk [haunted, calm] hmem hoarse.answering_tools (Refusals.blind_ofDisk [])
      Season.bareDisk fun _ => sameGround_calm
  obtain ⟨r, s', hending, -⟩ := Turn.eq_ok_of_output? hcalm
  have hanswer : (render calm.tools calm.request).answer
      (calm.turn (haunted.turn Season.bareDisk).after).before = .ok r :=
    answer_of_ok hending
  rw [hanswer] at hsame ⊢
  generalize (render calm.tools calm.request).answer (calm.turn Season.bareDisk).before = alone
    at hsame ⊢
  cases hsame with
  | result h => exact ⟨hhaunted, r, _, rfl, rfl, h.renderId.trans hid, h.renderId'.trans hid', h⟩

/-- This job is to put its output where the output of `calm` is. -/
def misplaced : Job :=
  { calm with
    request := { calm.request with
      config := { calm.request.config with outDir := "/out/Night.mp3" } } }

/-- Alone this render succeeds. After another it fails, since on the disk there is an output now where it
makes its output directory. -/
theorem remembers_output :
    misplaced.tools.Answering hoarse.answers (fun s file => s.spoken.lookup file) ∧
    misplaced.refusals.Blind ∧ misplaced.tools.Tidy ∧
    misplaced.turn (calm.turn Season.bareDisk).after ∈ turnsOf Season.bareDisk [calm, misplaced] ∧
    (misplaced.turn (calm.turn Season.bareDisk).after).output? = none ∧
    (misplaced.turn Season.bareDisk).output? = some "/out/Night.mp3/Night.mp3" ∧
    ¬ SameEnding (workplace (misplaced.turn (calm.turn Season.bareDisk).after).before)
      (workplace (misplaced.turn Season.bareDisk).before) misplaced.request.config
      ((render misplaced.tools misplaced.request).answer
        (misplaced.turn (calm.turn Season.bareDisk).after).before)
      ((render misplaced.tools misplaced.request).answer (misplaced.turn Season.bareDisk).before) := by
  obtain ⟨hafter, halone⟩ : (misplaced.turn (calm.turn Season.bareDisk).after).output? = none ∧
      (misplaced.turn Season.bareDisk).output? = some "/out/Night.mp3/Night.mp3" := by
    decide +kernel
  refine ⟨hoarse.answering_tools, Refusals.blind_ofDisk [], hoarse.tidy_tools,
    List.mem_cons_of_mem _ List.mem_cons_self, hafter, halone, fun hsame => ?_⟩
  obtain ⟨r, s', hending, -⟩ := Turn.eq_ok_of_output? halone
  have hanswer : (render misplaced.tools misplaced.request).answer
      (misplaced.turn Season.bareDisk).before = .ok r :=
    answer_of_ok hending
  rw [hanswer] at hsame
  obtain ⟨e, s₁, hending'⟩ := Turn.eq_error_of_output? hafter
  have hanswer' : (render misplaced.tools misplaced.request).answer
      (misplaced.turn (calm.turn Season.bareDisk).after).before = .error e :=
    answer_of_error hending'
  rw [hanswer'] at hsame
  cases hsame

end Render

end StoryMix
