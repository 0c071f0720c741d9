import StoryMix.Proofs.Command.Spelling
import StoryMix.Proofs.Config.Items
import StoryMix.Proofs.Queue.Carried
import StoryMix.Proofs.Queue.Processor

/-!
# What is queued and what is taken

The command that queues a render and the worker that takes the job check it on their own. The worker
takes what it finds with all that was asked for, but only if every text has a character. The command does
not look at that: among its arguments directories and references can be empty, and if they are
(not `Filled`), it queues a job that every worker refuses (`taken_iff_filled`).
-/

namespace StoryMix

namespace EnqueueCommand

variable {words : List String} {arguments : List Argument} {command : EnqueueCommand} {script : String}
  {job : RenderJob} {refs : SpeakerRefs}

/-- No text that is asked for is empty: neither directory, nor the last reference of a speaker. -/
structure Filled (arguments : List Argument) : Prop where
  assetsDir : ¬ LastGiven "--assets-dir" "" arguments
  outDir : ¬ LastGiven "--out-dir" "" arguments
  refs : ∀ items, TakesAll "--ref" arguments items →
    ∀ speaker, SpeakerRefs.LastGives items speaker "" → speaker = SpeakerRefs.reserved

/-- The job says what the command asks for. -/
structure Carries (command : EnqueueCommand) (script : String) (job : RenderJob) : Prop where
  script : job.script = script
  refs : ∃ asked refs, SpeakerRefs.ofItems "--ref" command.refs = .ok asked ∧ job.refs = some refs ∧
    ∀ speaker, refs.find? speaker = asked.find? speaker
  assetsDir : job.assetsDir = command.assetsDir
  outDir : job.outDir = command.outDir
  strict : job.strict = some command.strict

/-- References are all filled just when no speaker's last one is empty. -/
theorem forall_refs_iff (h : SpeakerRefs.ofItems "--ref" command.refs = .ok refs) :
    (∀ e ∈ refs.entries, e.2 ≠ "") ↔
      ∀ speaker, SpeakerRefs.LastGives command.refs speaker "" → speaker = SpeakerRefs.reserved := by
  have hentry (speaker : String) : (speaker, "") ∈ refs.entries ↔
      speaker ≠ SpeakerRefs.reserved ∧ SpeakerRefs.LastGives command.refs speaker "" :=
    (Entries.mem_iff_lookup (SpeakerRefs.sound_ofItems h).distinct).trans (SpeakerRefs.find?_ofItems h)
  constructor
  · intro hfilled speaker hlast
    by_contra hspeaker
    exact hfilled _ ((hentry speaker).2 ⟨hspeaker, hlast⟩) rfl
  · rintro hlast ⟨speaker, ref⟩ hmem rfl
    obtain ⟨hspeaker, hgives⟩ := (hentry speaker).1 hmem
    exact hspeaker (hlast speaker hgives)

theorem filled_iff (h : Means arguments command)
    (hrefs : SpeakerRefs.ofItems "--ref" command.refs = .ok refs) :
    Filled arguments ↔
      (∀ e ∈ refs.entries, e.2 ≠ "") ∧ command.assetsDir ≠ some "" ∧ command.outDir ≠ some "" := by
  rw [forall_refs_iff hrefs, Ne, Ne, h.assetsDir, h.outDir]
  constructor
  · rintro ⟨hassets, hout, hlast⟩
    exact ⟨hlast _ h.refs, hassets, hout⟩
  · rintro ⟨hlast, hassets, hout⟩
    exact ⟨hassets, hout, fun items hitems => h.refs.unique hitems ▸ hlast⟩

theorem find?_ordered (h : refs.Sound) (speaker : String) :
    refs.ordered.find? speaker = refs.find? speaker :=
  Entries.lookup_eq_of_perm (Entries.distinct_inOrder h.distinct) (Entries.inOrder_perm _) speaker

/-- A job that is queued with a script is taken just when no text among the arguments is empty, and then
it is the job that was asked for. Otherwise every worker refuses it for good. -/
theorem taken_iff_filled (hspells : flags.Spells arguments words) (hread : read words = .ok command)
    (hscript : script ≠ "") (hjob : command.job script = .ok job) :
    ((∃ taken, RenderJob.check job.toValue.carried = .ok taken) ↔ Filled arguments) ∧
    (∀ taken, RenderJob.check job.toValue.carried = .ok taken → command.Carries script taken) ∧
    (¬ Filled arguments → ∀ (context : JobContext) (id : String) (s : Studio), ∃ issues,
      context.process id job.toValue.carried s =
        .error (.unrecoverable ("Invalid render job payload: " ++ issuesText "data" issues)) s) := by
  obtain ⟨refs, hrefs, rfl⟩ := job_eq_ok.1 hjob
  have hsound := SpeakerRefs.sound_ofItems hrefs
  have htaken : (∃ taken, RenderJob.check (RenderJob.toValue ⟨script, some refs, command.assetsDir,
      command.outDir, some command.strict⟩).carried = .ok taken) ↔ Filled arguments := by
    simp only [RenderJob.check_carried hsound, filled_iff (readBy.means _ _ _ hspells hread) hrefs]
    constructor
    · rintro ⟨_, -, hnonempty, hassets, hout, -⟩
      exact ⟨hnonempty, hassets, hout⟩
    · rintro ⟨hnonempty, hassets, hout⟩
      exact ⟨_, hscript, hnonempty, hassets, hout, rfl⟩
  refine ⟨htaken, ?_, ?_⟩
  · intro taken hcheck
    obtain ⟨-, -, -, -, rfl⟩ := (RenderJob.check_carried hsound taken).1 hcheck
    exact ⟨rfl, ⟨refs, refs.ordered, hrefs, rfl, find?_ordered hsound⟩, rfl, rfl, rfl⟩
  · intro hunfilled context id s
    cases hcheck : RenderJob.check (RenderJob.toValue ⟨script, some refs, command.assetsDir,
        command.outDir, some command.strict⟩).carried with
    | ok taken => exact absurd (htaken.1 ⟨taken, hcheck⟩) hunfilled
    | failed issues => exact ⟨issues, JobContext.process_of_refused context id hcheck s⟩

/-- The directory of assets is asked for, but with nothing in it. -/
def placeless : List Argument :=
  [.option "--story" "night.txt", .option "--ref" "Ruby=ruby.wav", .option "--assets-dir" ""]

/-- The job of a directory without a name is queued and then refused. -/
theorem taken_iff_filled_placeless :
    ∃ command job, read (placeless.flatMap Argument.words) = .ok command ∧
      command.job "Ruby: Hello" = .ok job ∧
      (¬ ∃ taken, RenderJob.check job.toValue.carried = .ok taken) ∧
      ∀ (context : JobContext) (id : String) (s : Studio), ∃ issues,
        context.process id job.toValue.carried s =
          .error (.unrecoverable ("Invalid render job payload: " ++ issuesText "data" issues)) s := by
  have hspells : flags.Spells placeless (placeless.flatMap Argument.words) := ⟨by decide, rfl⟩
  have hread : read (placeless.flatMap Argument.words) =
      .ok ⟨"night.txt", some "", none, ["Ruby=ruby.wav"], false⟩ := by
    rfl
  have hjob : EnqueueCommand.job ⟨"night.txt", some "", none, ["Ruby=ruby.wav"], false⟩ "Ruby: Hello" =
      .ok ⟨"Ruby: Hello", some ⟨[("Ruby", "ruby.wav")]⟩, some "", none, some false⟩ := by
    rfl
  have hunfilled : ¬ Filled placeless := fun h => h.assetsDir ⟨placeless.take 2, [], rfl, nofun⟩
  obtain ⟨htaken, -, hrefused⟩ := taken_iff_filled hspells hread (by decide : "Ruby: Hello" ≠ "") hjob
  exact ⟨_, _, hread, hjob, fun h => hunfilled (htaken.1 h), hrefused hunfilled⟩

end EnqueueCommand

end StoryMix
