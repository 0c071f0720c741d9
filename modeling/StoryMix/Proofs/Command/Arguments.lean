import StoryMix.Command.Enqueue
import StoryMix.Proofs.Studio.Answer

/-!
# The same words for two commands

The two commands that ask for a render know the same words, but for the options of the voice generator,
which one of them knows and the other refuses. Words without those options are therefore read alike, or
are refused by both (`read_eq_ok_iff`).
-/

namespace StoryMix

theorem readArguments_cons (flags : Flags) (word : String) (rest : List String) :
    readArguments flags (word :: rest) =
      if flags.switches.contains word then (.switch word :: ·) <$> readArguments flags rest
      else if flags.options.contains word then
        match rest with
        | [] => .error (missingValue word)
        | value :: rest =>
          if looksLikeFlag value then .error (missingValue word)
          else (.option word value :: ·) <$> readArguments flags rest
      else .error (unknownArgument word) :=
  readArguments.eq_def flags (word :: rest)

/-- The flags know the same of these words. -/
def Flags.Agree (flags flags' : Flags) (words : List String) : Prop :=
  ∀ word ∈ words, flags.switches.contains word = flags'.switches.contains word ∧
    flags.options.contains word = flags'.options.contains word

theorem readArguments_congr {flags flags' : Flags} {words : List String} (h : flags.Agree flags' words) :
    readArguments flags words = readArguments flags' words := by
  fun_induction readArguments flags words with
  | case1 => rw [readArguments]
  | case2 word rest hswitch ih =>
      obtain ⟨⟨hs, -⟩, hrest⟩ := List.forall_mem_cons.1 h
      rw [readArguments_cons, ← hs, if_pos hswitch, ih hrest]
  | case3 word hswitch hoption =>
      obtain ⟨hs, ho⟩ := h word List.mem_cons_self
      rw [readArguments_cons, ← hs, ← ho, if_neg hswitch, if_pos hoption]
  | case4 word hswitch hoption value rest hflag =>
      obtain ⟨hs, ho⟩ := h word List.mem_cons_self
      rw [readArguments_cons, ← hs, ← ho, if_neg hswitch, if_pos hoption]
      exact (if_pos hflag).symm
  | case5 word hswitch hoption value rest hflag ih =>
      obtain ⟨⟨hs, ho⟩, hrest⟩ := List.forall_mem_cons.1 h
      rw [readArguments_cons, ← hs, ← ho, if_neg hswitch, if_pos hoption,
        ih (List.forall_mem_cons.1 hrest).2]
      exact (if_neg hflag).symm
  | case6 word rest hswitch hoption =>
      obtain ⟨hs, ho⟩ := h word List.mem_cons_self
      rw [readArguments_cons, ← hs, ← ho, if_neg hswitch, if_neg hoption]

theorem map_eq_ok {α β : Type} {f : α → β} {r : Except Failure α} {b : β} :
    f <$> r = .ok b ↔ ∃ a, r = .ok a ∧ f a = b := by
  cases r with
  | ok a => simp [Functor.map, Except.map]
  | error e => simp [Functor.map, Except.map]

/-- Only words that stand there are read. -/
theorem mem_of_option {flags : Flags} {words : List String} {arguments : List Argument}
    {name value : String} (h : readArguments flags words = .ok arguments)
    (hmem : .option name value ∈ arguments) : name ∈ words := by
  fun_induction readArguments flags words generalizing arguments with
  | case1 =>
      cases h
      cases hmem
  | case2 word rest hswitch ih =>
      obtain ⟨more, hmore, rfl⟩ := map_eq_ok.1 h
      rcases List.mem_cons.1 hmem with hmem | hmem
      · cases hmem
      · exact List.mem_cons_of_mem _ (ih hmore hmem)
  | case5 word hswitch hoption other rest hflag ih =>
      obtain ⟨more, hmore, rfl⟩ := map_eq_ok.1 h
      rcases List.mem_cons.1 hmem with hmem | hmem
      · cases hmem
        exact List.mem_cons_self
      · exact List.mem_cons_of_mem _ (List.mem_cons_of_mem _ (ih hmore hmem))
  | case3 | case4 | case6 => cases h

theorem last?_of_not_mem {flags : Flags} {words : List String} {arguments : List Argument} {name : String}
    (h : readArguments flags words = .ok arguments) (hname : name ∉ words) :
    Arguments.last? name arguments = none := by
  have hvalues : Arguments.values name arguments = [] := by
    refine List.filterMap_eq_nil_iff.2 fun argument hmem => ?_
    cases argument with
    | switch other => rfl
    | option other value =>
        have hother := mem_of_option h hmem
        refine if_neg ?_
        rintro rfl
        exact hname hother
  rw [Arguments.last?, hvalues]
  rfl

/-- No word belongs to the worker. -/
def Unreserved (words : List String) : Prop :=
  "--voicegen" ∉ words ∧ "--device" ∉ words

namespace Unreserved

variable {words : List String}

theorem agree (h : Unreserved words) : RenderCommand.flags.Agree EnqueueCommand.flags words := by
  intro word hword
  have hvoicegen : word ≠ "--voicegen" := fun heq => h.1 (heq ▸ hword)
  have hdevice : word ≠ "--device" := fun heq => h.2 (heq ▸ hword)
  refine ⟨rfl, ?_⟩
  simp [RenderCommand.flags, EnqueueCommand.flags, hvoicegen, hdevice]

theorem checkWords (h : Unreserved words) : EnqueueCommand.checkWords words = .ok () := by
  induction words with
  | nil => rfl
  | cons word rest ih =>
      obtain ⟨hvoicegen, hv⟩ := List.ne_and_not_mem_of_not_mem_cons h.1
      obtain ⟨hdevice, hd⟩ := List.ne_and_not_mem_of_not_mem_cons h.2
      have hlookup : EnqueueCommand.workerOptions.lookup word = none := by
        simp [EnqueueCommand.workerOptions, List.lookup_cons, beq_eq_false_iff_ne.2 hvoicegen.symm,
          beq_eq_false_iff_ne.2 hdevice.symm]
      rw [EnqueueCommand.checkWords, hlookup]
      exact ih ⟨hv, hd⟩

end Unreserved

/-- The command that does in place what this one leaves to the worker. -/
def EnqueueCommand.inPlace (command : EnqueueCommand) : RenderCommand where
  story := command.story
  assetsDir := command.assetsDir
  outDir := command.outDir
  voicegen := none
  device := none
  refs := command.refs
  strict := command.strict

theorem read_eq_ok_iff {words : List String} (h : Unreserved words) {command : RenderCommand} :
    RenderCommand.read words = .ok command ↔
      ∃ queued, EnqueueCommand.read words = .ok queued ∧ command = queued.inPlace := by
  unfold RenderCommand.read EnqueueCommand.read
  rw [h.checkWords, readArguments_congr h.agree]
  cases harguments : readArguments EnqueueCommand.flags words with
  | error f => exact iff_of_false nofun fun ⟨_, hqueued, _⟩ => nomatch hqueued
  | ok arguments =>
      have hvoicegen := last?_of_not_mem harguments h.1
      have hdevice := last?_of_not_mem harguments h.2
      simp only [bind, Except.bind, Arguments.required, hvoicegen, hdevice]
      cases (Arguments.last? "--story" arguments).filter (· ≠ "") with
      | none => exact iff_of_false nofun fun ⟨_, hqueued, _⟩ => nomatch hqueued
      | some story =>
          constructor
          · intro hread
            exact ⟨_, rfl, (Except.ok.inj hread).symm⟩
          · rintro ⟨queued, hqueued, rfl⟩
            cases hqueued
            rfl

end StoryMix
