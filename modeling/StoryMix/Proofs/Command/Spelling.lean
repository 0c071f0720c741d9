import Mathlib.Data.List.Basic
import StoryMix.Proofs.Command.Arguments

/-!
# How commands are written

Words fall into arguments just when they are the words of arguments that the flags allow, one after the
other (`readArguments_eq_ok_iff`). A command finds what it takes from them by name: the last value of an
option, all of its values, a switch. So arguments can be reordered, as long as those of one name stay in
order, and the same command is read. `ReadBy` says all of this of one command, `commands_spelled` of the
three that take arguments.
-/

namespace StoryMix

/-! ## Words and arguments -/

/-- The word that an argument begins with. -/
def Argument.name : Argument → String
  | switch name => name
  | option name _ => name

namespace Flags

variable {flags : Flags} {words : List String} {arguments arguments' : List Argument}

/-- The flags let an argument stand: they know its name, and its value does not begin with two
hyphens. -/
def Allows (flags : Flags) : Argument → Prop
  | .switch name => name ∈ flags.switches
  | .option name value => name ∈ flags.options ∧ ¬ ['-', '-'] <+: value.toList

instance (flags : Flags) : DecidablePred flags.Allows
  | .switch name => inferInstanceAs (Decidable (name ∈ flags.switches))
  | .option name value =>
    inferInstanceAs (Decidable (name ∈ flags.options ∧ ¬ ['-', '-'] <+: value.toList))

/-- The words are those of the arguments, from left to right. -/
structure Spells (flags : Flags) (arguments : List Argument) (words : List String) : Prop where
  allowed : ∀ argument ∈ arguments, flags.Allows argument
  words_eq : words = arguments.flatMap Argument.words

/-- No word is an option and a switch. -/
def Apart (flags : Flags) : Prop :=
  ∀ name ∈ flags.options, name ∉ flags.switches

theorem looksLikeFlag_iff {word : String} : looksLikeFlag word = true ↔ ['-', '-'] <+: word.toList :=
  List.isPrefixOf_iff_prefix

theorem Spells.cons {argument : Argument} (hargument : flags.Allows argument)
    (h : flags.Spells arguments words) : flags.Spells (argument :: arguments) (argument.words ++ words) where
  allowed := List.forall_mem_cons.2 ⟨hargument, h.allowed⟩
  words_eq := by rw [h.words_eq, List.flatMap_cons]

theorem spells_of_readArguments (h : readArguments flags words = .ok arguments) :
    flags.Spells arguments words := by
  fun_induction readArguments flags words generalizing arguments with
  | case1 =>
      cases h
      exact ⟨List.forall_mem_nil _, rfl⟩
  | case2 word rest hswitch ih =>
      obtain ⟨more, hmore, rfl⟩ := map_eq_ok.1 h
      have hallowed : flags.Allows (.switch word) := List.contains_iff_mem.1 hswitch
      exact (ih hmore).cons hallowed
  | case5 word hswitch hoption value rest hflag ih =>
      obtain ⟨more, hmore, rfl⟩ := map_eq_ok.1 h
      have hallowed : flags.Allows (.option word value) :=
        ⟨List.contains_iff_mem.1 hoption, fun hvalue => hflag (looksLikeFlag_iff.2 hvalue)⟩
      exact (ih hmore).cons hallowed
  | case3 | case4 | case6 => cases h

/-- Words that begin with those of arguments fall into these first. -/
theorem readArguments_append (hapart : flags.Apart) (hallowed : ∀ argument ∈ arguments, flags.Allows argument)
    (rest : List String) : readArguments flags (arguments.flatMap Argument.words ++ rest)
      = (arguments ++ ·) <$> readArguments flags rest := by
  induction arguments with
  | nil =>
      simp only [List.flatMap_nil, List.nil_append]
      exact (id_map (readArguments flags rest)).symm
  | cons argument arguments ih =>
      obtain ⟨hargument, hrest⟩ := List.forall_mem_cons.1 hallowed
      rw [List.flatMap_cons]
      cases argument with
      | switch name =>
          have hswitch : flags.switches.contains name = true := List.contains_iff_mem.2 hargument
          rw [Argument.words, List.append_assoc, List.singleton_append, readArguments_cons, if_pos hswitch,
            ih hrest, ← comp_map]
          rfl
      | option name value =>
          obtain ⟨hname, hvalue⟩ := hargument
          have hswitch : ¬ flags.switches.contains name = true := fun hmem =>
            hapart name hname (List.contains_iff_mem.1 hmem)
          have hoption : flags.options.contains name = true := List.contains_iff_mem.2 hname
          have hflag : ¬ looksLikeFlag value = true := fun hlooks => hvalue (looksLikeFlag_iff.1 hlooks)
          rw [Argument.words, List.append_assoc, List.cons_append, List.singleton_append, readArguments_cons,
            if_neg hswitch, if_pos hoption]
          dsimp only
          rw [if_neg hflag, ih hrest, ← comp_map]
          rfl

theorem Spells.read (hapart : flags.Apart) (h : flags.Spells arguments words) :
    readArguments flags words = .ok arguments := by
  obtain ⟨hallowed, rfl⟩ := h
  have hread := readArguments_append hapart hallowed []
  rw [List.append_nil] at hread
  rw [hread]
  exact congrArg Except.ok (List.append_nil arguments)

/-- Words fall into the arguments that they are the words of, and into no others. -/
theorem readArguments_eq_ok_iff (hapart : flags.Apart) :
    readArguments flags words = .ok arguments ↔ flags.Spells arguments words :=
  ⟨spells_of_readArguments, Spells.read hapart⟩

end Flags

/-! ## What is found among arguments -/

/-- The same arguments in another order, those of one name in the same. -/
def Reordered (arguments arguments' : List Argument) : Prop :=
  ∀ name, arguments'.filter (·.name = name) = arguments.filter (·.name = name)

/-- The last value that an option is given. -/
def LastGiven (name value : String) (arguments : List Argument) : Prop :=
  ∃ before after, arguments = before ++ .option name value :: after ∧
    ∀ other, .option name other ∉ after

/-- A setting is the last value of this option, if it has one. -/
def TakesLast (name : String) (arguments : List Argument) (setting : Option String) : Prop :=
  ∀ value, setting = some value ↔ LastGiven name value arguments

/-- A list is all values of this option, in their order. -/
def TakesAll (name : String) (arguments : List Argument) (values : List String) : Prop :=
  arguments.filter (·.name = name) = values.map (.option name)

theorem TakesAll.unique {name : String} {arguments : List Argument} {values values' : List String}
    (h : TakesAll name arguments values) (h' : TakesAll name arguments values') : values = values' :=
  List.map_injective_iff.2 (fun _ _ heq => (Argument.option.inj heq).2) (h.symm.trans h')

namespace Reordered

variable {arguments arguments' : List Argument}

theorem perm (h : Reordered arguments arguments') : arguments'.Perm arguments := by
  refine List.perm_iff_count.2 fun argument => ?_
  have hcount (l : List Argument) :
      (l.filter (·.name = argument.name)).count argument = l.count argument :=
    List.count_filter (by simp)
  rw [← hcount arguments', h, hcount]

theorem values_eq (h : Reordered arguments arguments') (name : String) :
    Arguments.values name arguments' = Arguments.values name arguments := by
  have hvalues (l : List Argument) :
      Arguments.values name (l.filter (·.name = name)) = Arguments.values name l := by
    unfold Arguments.values
    rw [List.filterMap_filter]
    refine congrArg (List.filterMap · l) (funext fun argument => ?_)
    cases argument with
    | switch other => simp
    | option other value =>
        by_cases hother : other = name
        · simp [Argument.name, hother]
        · simp [Argument.name, hother]
  rw [← hvalues arguments', h, hvalues]

theorem last?_eq (h : Reordered arguments arguments') (name : String) :
    Arguments.last? name arguments' = Arguments.last? name arguments := by
  rw [Arguments.last?, h.values_eq, ← Arguments.last?]

theorem has_eq (h : Reordered arguments arguments') (name : String) :
    Arguments.has name arguments' = Arguments.has name arguments := by
  unfold Arguments.has
  rw [Bool.eq_iff_iff, List.contains_iff_mem, List.contains_iff_mem]
  exact h.perm.mem_iff

theorem required_eq (h : Reordered arguments arguments') (command name what : String) :
    Arguments.required command name what arguments' = Arguments.required command name what arguments := by
  unfold Arguments.required
  rw [h.last?_eq]

end Reordered

namespace Arguments

variable {flags : Flags} {name value command what : String} {arguments : List Argument}

theorem mem_values : value ∈ values name arguments ↔ .option name value ∈ arguments := by
  unfold values
  rw [List.mem_filterMap]
  constructor
  · rintro ⟨argument, hmem, hargument⟩
    cases argument with
    | switch other => cases hargument
    | option other given =>
        obtain ⟨rfl, hgiven⟩ := Option.ite_none_right_eq_some.1 hargument
        cases hgiven
        exact hmem
  · exact fun hmem => ⟨_, hmem, if_pos rfl⟩

theorem values_append (before after : List Argument) :
    values name (before ++ after) = values name before ++ values name after :=
  List.filterMap_append

theorem values_option (after : List Argument) :
    values name (.option name value :: after) = value :: values name after :=
  List.filterMap_cons_some (if_pos rfl)

theorem last?_eq_some_iff : last? name arguments = some value ↔ LastGiven name value arguments := by
  rw [last?, List.getLast?_eq_some_iff]
  constructor
  · rintro ⟨earlier, hvalues⟩
    obtain ⟨before, rest, rfl, -, hrest⟩ := List.filterMap_eq_append_iff.1 hvalues
    obtain ⟨others, argument, after, rfl, -, hargument, hafter⟩ := List.filterMap_eq_cons_iff.1 hrest
    cases argument with
    | switch other => cases hargument
    | option other given =>
        obtain ⟨rfl, hgiven⟩ := Option.ite_none_right_eq_some.1 hargument
        cases hgiven
        refine ⟨before ++ others, after, (List.append_assoc ..).symm, fun other hmem => ?_⟩
        have hother : other ∈ values _ after := mem_values.2 hmem
        rw [values, hafter] at hother
        cases hother
  · rintro ⟨before, after, rfl, hafter⟩
    have hnone : values name after = [] :=
      List.eq_nil_iff_forall_not_mem.2 fun other hmem => hafter other (mem_values.1 hmem)
    exact ⟨values name before, by rw [values_append, values_option, hnone]⟩

theorem takesLast_last? : TakesLast name arguments (last? name arguments) :=
  fun _ => last?_eq_some_iff

theorem takesAll_values (h : ∀ argument ∈ arguments, flags.Allows argument) (hname : name ∉ flags.switches) :
    TakesAll name arguments (values name arguments) := by
  unfold TakesAll
  induction arguments with
  | nil => rfl
  | cons argument arguments ih =>
      obtain ⟨hargument, hrest⟩ := List.forall_mem_cons.1 h
      by_cases heq : argument.name = name
      · rw [List.filter_cons_of_pos (by simpa using heq), ih hrest]
        cases argument with
        | switch other => exact absurd (heq ▸ hargument) hname
        | option other given =>
            obtain rfl : other = name := heq
            rw [values_option, List.map_cons]
      · rw [List.filter_cons_of_neg (by simpa using heq), ih hrest]
        have hvalues : values name (argument :: arguments) = values name arguments := by
          refine List.filterMap_cons_none ?_
          cases argument with
          | switch other => rfl
          | option other given => exact if_neg heq
        rw [hvalues]

theorem has_iff : has name arguments = true ↔ .switch name ∈ arguments :=
  List.contains_iff_mem

theorem required_eq_ok :
    required command name what arguments = .ok value ↔ LastGiven name value arguments ∧ value ≠ "" := by
  rw [← last?_eq_some_iff]
  unfold required
  cases last? name arguments with
  | none => exact iff_of_false nofun fun h => nomatch h.1
  | some given =>
      by_cases hgiven : given = ""
      · rw [Option.filter_some_neg (by simpa using hgiven)]
        exact iff_of_false nofun fun ⟨hvalue, hne⟩ => hne (Option.some.inj hvalue ▸ hgiven)
      · rw [Option.filter_some_pos (by simpa using hgiven)]
        constructor
        · rintro ⟨⟩
          exact ⟨rfl, hgiven⟩
        · rintro ⟨⟨⟩, -⟩
          rfl

end Arguments

/-! ## Commands -/

/-- An option has a value, and its last one is not empty. -/
def Names (name : String) (arguments : List Argument) : Prop :=
  ∃ value, LastGiven name value arguments ∧ value ≠ ""

/-- How a command is read: which arguments make a whole command, and what that command is then. -/
structure ReadBy {α : Type} (flags : Flags) (Whole : List Argument → Prop)
    (Means : List Argument → α → Prop) (read : List String → Except Failure α) : Prop where
  accepts : ∀ words, (∃ command, read words = .ok command) ↔
    ∃ arguments, flags.Spells arguments words ∧ Whole arguments
  means : ∀ words arguments command, flags.Spells arguments words → read words = .ok command →
    Means arguments command
  reordered : ∀ arguments arguments', (∀ argument ∈ arguments, flags.Allows argument) →
    Reordered arguments arguments' →
    read (arguments'.flatMap Argument.words) = read (arguments.flatMap Argument.words)

theorem Failure.bind_eq_ok {α β : Type} {r : Except Failure α} {f : α → Except Failure β} {b : β} :
    r >>= f = .ok b ↔ ∃ a, r = .ok a ∧ f a = .ok b := by
  cases r with
  | ok a => simp [bind, Except.bind]
  | error e => simp [bind, Except.bind]

namespace ReadBy

variable {α β : Type} {flags : Flags} {Whole : List Argument → Prop} {Means : List Argument → α → Prop}
  {read : List String → Except Failure α}

/-- A command with one option that must be there. What the command is beside its value is settled by
`finish`. -/
theorem of_required (command name what : String) (finish : List Argument → String → Except Failure α)
    (hread : ∀ {words arguments}, flags.Spells arguments words →
      read words = Arguments.required command name what arguments >>= finish arguments)
    (hspelled : ∀ {words asked}, read words = .ok asked → ∃ arguments, flags.Spells arguments words)
    (hwhole : ∀ arguments, Whole arguments ↔
      ∃ value, (LastGiven name value arguments ∧ value ≠ "") ∧ ∃ asked, finish arguments value = .ok asked)
    (hmeans : ∀ {arguments value asked}, (∀ argument ∈ arguments, flags.Allows argument) →
      LastGiven name value arguments → finish arguments value = .ok asked → Means arguments asked)
    (hreordered : ∀ {arguments arguments'}, Reordered arguments arguments' →
      finish arguments' = finish arguments) :
    ReadBy flags Whole Means read where
  accepts words := by
    constructor
    · rintro ⟨asked, hasked⟩
      obtain ⟨arguments, hspells⟩ := hspelled hasked
      obtain ⟨value, hvalue, hfinish⟩ := Failure.bind_eq_ok.1 ((hread hspells).symm.trans hasked)
      exact ⟨arguments, hspells,
        (hwhole arguments).2 ⟨value, Arguments.required_eq_ok.1 hvalue, asked, hfinish⟩⟩
    · rintro ⟨arguments, hspells, harguments⟩
      obtain ⟨value, hvalue, asked, hfinish⟩ := (hwhole arguments).1 harguments
      refine ⟨asked, (hread hspells).trans (Failure.bind_eq_ok.2 ⟨value, ?_, hfinish⟩)⟩
      exact Arguments.required_eq_ok.2 hvalue
  means words arguments asked hspells hasked := by
    obtain ⟨value, hvalue, hfinish⟩ := Failure.bind_eq_ok.1 ((hread hspells).symm.trans hasked)
    exact hmeans hspells.allowed (Arguments.required_eq_ok.1 hvalue).1 hfinish
  reordered arguments arguments' hallowed h := by
    have hallowed' : ∀ argument ∈ arguments', flags.Allows argument := fun argument hmem =>
      hallowed argument (h.perm.mem_iff.1 hmem)
    rw [hread ⟨hallowed, rfl⟩, hread ⟨hallowed', rfl⟩, h.required_eq, hreordered h]

/-- The same command as one of several. -/
theorem map (h : ReadBy flags Whole Means read) (f : α → β) :
    ReadBy flags Whole (fun arguments command => ∃ asked, command = f asked ∧ Means arguments asked)
      (fun words => f <$> read words) where
  accepts words := by
    rw [← h.accepts words]
    simp only [map_eq_ok]
    exact ⟨fun ⟨_, asked, hread, _⟩ => ⟨asked, hread⟩, fun ⟨asked, hread⟩ => ⟨_, asked, hread, rfl⟩⟩
  means words arguments command hspells hread := by
    obtain ⟨asked, hasked, rfl⟩ := map_eq_ok.1 hread
    exact ⟨asked, rfl, h.means words arguments asked hspells hasked⟩
  reordered arguments arguments' hallowed hreordered :=
    congrArg (f <$> ·) (h.reordered arguments arguments' hallowed hreordered)

end ReadBy

namespace RenderCommand

/-- What a render takes from its arguments. -/
structure Means (arguments : List Argument) (command : RenderCommand) : Prop where
  story : LastGiven "--story" command.story arguments
  assetsDir : TakesLast "--assets-dir" arguments command.assetsDir
  outDir : TakesLast "--out-dir" arguments command.outDir
  voicegen : TakesLast "--voicegen" arguments command.voicegen
  device : TakesLast "--device" arguments command.device
  refs : TakesAll "--ref" arguments command.refs
  strict : command.strict = true ↔ .switch "--strict" ∈ arguments

theorem apart_flags : flags.Apart := by
  unfold Flags.Apart
  decide

/-- The render of a story that arguments ask for. -/
def ofArguments (arguments : List Argument) (story : String) : RenderCommand where
  story := story
  assetsDir := Arguments.last? "--assets-dir" arguments
  outDir := Arguments.last? "--out-dir" arguments
  voicegen := Arguments.last? "--voicegen" arguments
  device := Arguments.last? "--device" arguments
  refs := Arguments.values "--ref" arguments
  strict := Arguments.has "--strict" arguments

theorem read_eq (words : List String) :
    read words = readArguments flags words >>= fun arguments =>
      Arguments.required "render" "--story" "file" arguments >>= fun story =>
        .ok (ofArguments arguments story) :=
  rfl

theorem readBy : ReadBy flags (Names "--story") Means read := by
  refine .of_required "render" "--story" "file" (fun arguments story => .ok (ofArguments arguments story))
    ?_ ?_ ?_ ?_ ?_
  · intro words arguments hspells
    rw [read_eq, hspells.read apart_flags]
    rfl
  · intro words command hread
    obtain ⟨arguments, harguments, -⟩ := Failure.bind_eq_ok.1 hread
    exact ⟨arguments, Flags.spells_of_readArguments harguments⟩
  · exact fun arguments => exists_congr fun value => (and_iff_left ⟨_, rfl⟩).symm
  · rintro arguments story command hallowed hstory ⟨⟩
    exact {
      story := hstory
      assetsDir := Arguments.takesLast_last?
      outDir := Arguments.takesLast_last?
      voicegen := Arguments.takesLast_last?
      device := Arguments.takesLast_last?
      refs := Arguments.takesAll_values hallowed (by decide)
      strict := Arguments.has_iff }
  · intro arguments arguments' h
    simp only [ofArguments, h.last?_eq, h.values_eq, h.has_eq]

end RenderCommand

namespace EnqueueCommand

/-- What a queued render takes from its arguments. -/
structure Means (arguments : List Argument) (command : EnqueueCommand) : Prop where
  story : LastGiven "--story" command.story arguments
  assetsDir : TakesLast "--assets-dir" arguments command.assetsDir
  outDir : TakesLast "--out-dir" arguments command.outDir
  refs : TakesAll "--ref" arguments command.refs
  strict : command.strict = true ↔ .switch "--strict" ∈ arguments

theorem apart_flags : flags.Apart := by
  unfold Flags.Apart
  decide

/-- The queued render of a story that arguments ask for. -/
def ofArguments (arguments : List Argument) (story : String) : EnqueueCommand where
  story := story
  assetsDir := Arguments.last? "--assets-dir" arguments
  outDir := Arguments.last? "--out-dir" arguments
  refs := Arguments.values "--ref" arguments
  strict := Arguments.has "--strict" arguments

theorem read_eq (words : List String) :
    read words = checkWords words >>= fun _ => readArguments flags words >>= fun arguments =>
      Arguments.required "enqueue-render" "--story" "file" arguments >>= fun story =>
        .ok (ofArguments arguments story) :=
  rfl

/-- No word of the arguments that a queued render can have belongs to the worker, not even as a value. -/
theorem unreserved_of_spells {arguments : List Argument} {words : List String}
    (h : flags.Spells arguments words) : Unreserved words := by
  have hwords (word : String) (hword : word ∈ words) : word ∈ flags.options ∨ word ∈ flags.switches ∨
      ¬ ['-', '-'] <+: word.toList := by
    rw [h.words_eq] at hword
    obtain ⟨argument, hmem, hword⟩ := List.mem_flatMap.1 hword
    have hallowed := h.allowed argument hmem
    cases argument with
    | switch name =>
        obtain rfl := List.mem_singleton.1 hword
        exact .inr (.inl hallowed)
    | option name value =>
        rcases List.mem_cons.1 hword with rfl | hword
        · exact .inl hallowed.1
        · obtain rfl := List.mem_singleton.1 hword
          exact .inr (.inr hallowed.2)
  constructor
  · exact fun hmem => absurd (hwords _ hmem) (by decide)
  · exact fun hmem => absurd (hwords _ hmem) (by decide)

theorem readBy : ReadBy flags (Names "--story") Means read := by
  refine .of_required "enqueue-render" "--story" "file"
    (fun arguments story => .ok (ofArguments arguments story)) ?_ ?_ ?_ ?_ ?_
  · intro words arguments hspells
    rw [read_eq, (unreserved_of_spells hspells).checkWords, hspells.read apart_flags]
    rfl
  · intro words command hread
    obtain ⟨-, -, hread⟩ := Failure.bind_eq_ok.1 hread
    obtain ⟨arguments, harguments, -⟩ := Failure.bind_eq_ok.1 hread
    exact ⟨arguments, Flags.spells_of_readArguments harguments⟩
  · exact fun arguments => exists_congr fun value => (and_iff_left ⟨_, rfl⟩).symm
  · rintro arguments story command hallowed hstory ⟨⟩
    exact {
      story := hstory
      assetsDir := Arguments.takesLast_last?
      outDir := Arguments.takesLast_last?
      refs := Arguments.takesAll_values hallowed (by decide)
      strict := Arguments.has_iff }
  · intro arguments arguments' h
    simp only [ofArguments, h.last?_eq, h.values_eq, h.has_eq]

end EnqueueCommand

namespace GenerateCommand

/-- What a generated story takes from its arguments. -/
structure Means (arguments : List Argument) (command : GenerateCommand) : Prop where
  title : LastGiven "--title" command.title arguments
  seed : ∀ seed, command.seed = some seed ↔
    ∃ text, LastGiven "--seed" text arguments ∧ Numeral.readNumber text = seed
  narrator : TakesLast "--narrator" arguments command.narrator
  music : TakesLast "--music" arguments command.music
  ambience : TakesLast "--ambience" arguments command.ambience
  out : TakesLast "--out" arguments command.out

/-- The last seed, if there is one, is written as a whole number. -/
def SeedIsWhole (arguments : List Argument) : Prop :=
  ∀ text, LastGiven "--seed" text arguments → Numeral.isWhole (Numeral.readNumber text) = true

theorem apart_flags : flags.Apart := by
  unfold Flags.Apart
  decide

/-- The generated story of a title that arguments ask for. -/
def ofArguments (arguments : List Argument) (title : String) : Except Failure GenerateCommand :=
  (Arguments.last? "--seed" arguments).mapM readSeed >>= fun seed => .ok {
    title := title
    seed := seed
    narrator := Arguments.last? "--narrator" arguments
    music := Arguments.last? "--music" arguments
    ambience := Arguments.last? "--ambience" arguments
    out := Arguments.last? "--out" arguments }

theorem read_eq (words : List String) :
    read words = readArguments flags words >>= fun arguments =>
      Arguments.required "generate" "--title" "title" arguments >>= ofArguments arguments :=
  rfl

theorem readSeed_eq_ok {text : String} {seed : Float} :
    readSeed text = .ok seed ↔ Numeral.isWhole (Numeral.readNumber text) = true ∧
      Numeral.readNumber text = seed := by
  unfold readSeed
  dsimp only
  split
  · rename_i hwhole
    exact ⟨fun h => ⟨hwhole, Except.ok.inj h⟩, fun h => congrArg _ h.2⟩
  · rename_i hwhole
    exact iff_of_false nofun fun h => hwhole h.1

/-- A seed is refused just when the last one is not written as a whole number. -/
theorem exists_seed_iff {arguments : List Argument} :
    (∃ seed, (Arguments.last? "--seed" arguments).mapM readSeed = .ok seed) ↔ SeedIsWhole arguments := by
  unfold SeedIsWhole
  simp only [← Arguments.last?_eq_some_iff]
  cases Arguments.last? "--seed" arguments with
  | none => exact iff_of_true ⟨none, rfl⟩ nofun
  | some text =>
      have hsome : (some text).mapM readSeed = some <$> readSeed text := rfl
      simp only [hsome, map_eq_ok, readSeed_eq_ok]
      constructor
      · rintro ⟨_, _, ⟨hwhole, -⟩, -⟩ _ ⟨⟩
        exact hwhole
      · exact fun hwhole => ⟨_, _, ⟨hwhole text rfl, rfl⟩, rfl⟩

theorem seed_of_ok {arguments : List Argument} {seed : Option Float}
    (h : (Arguments.last? "--seed" arguments).mapM readSeed = .ok seed) (x : Float) :
    seed = some x ↔ ∃ text, LastGiven "--seed" text arguments ∧ Numeral.readNumber text = x := by
  simp only [← Arguments.last?_eq_some_iff]
  generalize Arguments.last? "--seed" arguments = last at h
  cases last with
  | none =>
      cases h
      simp
  | some text =>
      have hsome : (some text).mapM readSeed = some <$> readSeed text := rfl
      obtain ⟨y, hy, rfl⟩ := map_eq_ok.1 (hsome.symm.trans h)
      obtain ⟨-, rfl⟩ := readSeed_eq_ok.1 hy
      simp

theorem readBy :
    ReadBy flags (fun arguments => Names "--title" arguments ∧ SeedIsWhole arguments) Means read := by
  refine .of_required "generate" "--title" "title" ofArguments ?_ ?_ ?_ ?_ ?_
  · intro words arguments hspells
    rw [read_eq, hspells.read apart_flags]
    rfl
  · intro words command hread
    obtain ⟨arguments, harguments, -⟩ := Failure.bind_eq_ok.1 hread
    exact ⟨arguments, Flags.spells_of_readArguments harguments⟩
  · intro arguments
    constructor
    · rintro ⟨⟨title, htitle⟩, hwhole⟩
      obtain ⟨seed, hseed⟩ := exists_seed_iff.2 hwhole
      exact ⟨title, htitle, _, Failure.bind_eq_ok.2 ⟨seed, hseed, rfl⟩⟩
    · rintro ⟨title, htitle, command, hfinish⟩
      obtain ⟨seed, hseed, -⟩ := Failure.bind_eq_ok.1 hfinish
      exact ⟨⟨title, htitle⟩, exists_seed_iff.1 ⟨seed, hseed⟩⟩
  · intro arguments title command hallowed htitle hfinish
    obtain ⟨seed, hseed, ⟨⟩⟩ := Failure.bind_eq_ok.1 hfinish
    exact {
      title := htitle
      seed := seed_of_ok hseed
      narrator := Arguments.takesLast_last?
      music := Arguments.takesLast_last?
      ambience := Arguments.takesLast_last?
      out := Arguments.takesLast_last? }
  · intro arguments arguments' h
    funext title
    simp only [ofArguments, h.last?_eq]

end GenerateCommand

/-- The words of a command are those of arguments that its flags allow, with the one option that must be
there; the command takes the last value of each setting, all references and the switch. Arguments of
different names can be reordered. Words that leave the voice generator alone ask for the same render in
place and by the queue. -/
theorem commands_spelled :
    ReadBy RenderCommand.flags (Names "--story")
      (fun arguments command => ∃ asked, command = .render asked ∧ RenderCommand.Means arguments asked)
      (fun words => MixerCommand.read ("render" :: words)) ∧
    ReadBy GenerateCommand.flags
      (fun arguments => Names "--title" arguments ∧ GenerateCommand.SeedIsWhole arguments)
      (fun arguments command => ∃ asked, command = .generate asked ∧ GenerateCommand.Means arguments asked)
      (fun words => MixerCommand.read ("generate" :: words)) ∧
    ReadBy EnqueueCommand.flags (Names "--story") EnqueueCommand.Means EnqueueCommand.read ∧
    ∀ words, Unreserved words → ∀ command, MixerCommand.read ("render" :: words) = .ok command ↔
      ∃ queued, EnqueueCommand.read words = .ok queued ∧ command = .render queued.inPlace := by
  have hrender (words : List String) :
      MixerCommand.read ("render" :: words) = MixerCommand.render <$> RenderCommand.read words := by
    rw [MixerCommand.read, if_pos rfl]
  have hgenerate (words : List String) :
      MixerCommand.read ("generate" :: words) = MixerCommand.generate <$> GenerateCommand.read words := by
    rw [MixerCommand.read, if_neg (by decide), if_pos rfl]
  simp only [hrender, hgenerate]
  refine ⟨RenderCommand.readBy.map MixerCommand.render, GenerateCommand.readBy.map MixerCommand.generate,
    EnqueueCommand.readBy, fun words hwords command => ?_⟩
  rw [map_eq_ok]
  constructor
  · rintro ⟨asked, hasked, rfl⟩
    obtain ⟨queued, hqueued, rfl⟩ := (read_eq_ok_iff hwords).1 hasked
    exact ⟨queued, hqueued, rfl⟩
  · rintro ⟨queued, hqueued, rfl⟩
    exact ⟨_, (read_eq_ok_iff hwords).2 ⟨queued, hqueued, rfl⟩, rfl⟩

/-- Two stories of which the last counts, and a reference on either side of the switch. -/
def hurried : List Argument :=
  [.option "--story" "draft.txt", .option "--ref" "Ruby=ruby.wav", .switch "--strict",
    .option "--ref" "Ruby=-late.wav", .option "--story" "night.txt"]

/-- The same arguments, each name in one place. -/
def tidied : List Argument :=
  [.switch "--strict", .option "--story" "draft.txt", .option "--story" "night.txt",
    .option "--ref" "Ruby=ruby.wav", .option "--ref" "Ruby=-late.wav"]

theorem reordered_hurried : Reordered hurried tidied := by
  intro name
  by_cases hstory : name = "--story"
  · subst hstory
    rfl
  by_cases href : name = "--ref"
  · subst href
    rfl
  by_cases hstrict : name = "--strict"
  · subst hstrict
    rfl
  · simp [hurried, tidied, Argument.name, Ne.symm hstory, Ne.symm href, Ne.symm hstrict]

/-- In either order the arguments are the same render, and the last story is queued. -/
theorem commands_spelled_hurried :
    MixerCommand.read ("render" :: tidied.flatMap Argument.words) =
      MixerCommand.read ("render" :: hurried.flatMap Argument.words) ∧
    ∃ queued, EnqueueCommand.read (hurried.flatMap Argument.words) = .ok queued ∧
      LastGiven "--story" queued.story hurried := by
  have hspells : EnqueueCommand.flags.Spells hurried (hurried.flatMap Argument.words) :=
    ⟨by decide, rfl⟩
  have hnames : Names "--story" hurried := ⟨"night.txt", ⟨hurried.take 4, [], rfl, nofun⟩, by decide⟩
  obtain ⟨hrender, -, hqueue, -⟩ := commands_spelled
  refine ⟨hrender.reordered hurried tidied (by decide) reordered_hurried, ?_⟩
  obtain ⟨queued, hqueued⟩ := (hqueue.accepts _).2 ⟨hurried, hspells, hnames⟩
  exact ⟨queued, hqueued, (hqueue.means _ hurried queued hspells hqueued).story⟩

end StoryMix
