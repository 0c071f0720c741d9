import StoryMix.Proofs.Command.Spelling
import StoryMix.Proofs.Numeral.Readings

/-!
# The seed of a story

A text is taken for a seed if the number that it is read as is whole (`seed_read`). The number is judged and
not the text, so a blank text is taken for zero, a numeral for any number if the float nearest to that is
whole, and a numeral for a whole number only if it is in the range of floats. Up to 53 bits the seed is the
number that is written.
-/

namespace StoryMix.GenerateCommand

open Numeral (NumeralFor Nearest overflow value)
open Text (trim)

/-- The words ask for a story with a title, and the text is the last that they give for its seed. -/
inductive SeedGiven (text : String) : List String → Prop
  | mk {before after} :
      (∀ argument ∈ before, flags.Allows argument) → (∀ argument ∈ after, flags.Allows argument) →
      Names "--title" (before ++ after) → (∀ other, .option "--seed" other ∉ after) →
      SeedGiven text ("generate" :: (before.flatMap Argument.words
        ++ "--seed" :: text :: after.flatMap Argument.words))

/-- The float nearest to the number is whole. -/
def NearWhole (r : ℚ) : Prop :=
  ∃ x : Float, Nearest r (.ofFloat x) ∧ x.isFinite = true ∧ ∃ n : ℤ, value x = n

variable {text : String} {words : List String}

/-! ## How the command is read -/

theorem names_append_seed (text : String) {before after : List Argument} (h : Names "--title" (before ++ after)) :
    Names "--title" (before ++ .option "--seed" text :: after) := by
  obtain ⟨title, htitle, hne⟩ := h
  refine ⟨title, ?_, hne⟩
  rw [← Arguments.last?_eq_some_iff] at htitle ⊢
  have hother : Arguments.values "--title" (.option "--seed" text :: after) = Arguments.values "--title" after :=
    List.filterMap_cons_none (if_neg (by decide))
  rw [Arguments.last?, Arguments.values_append, hother, ← Arguments.values_append]
  exact htitle

/-- The story of a title and a seed that arguments ask for. -/
def settled (arguments : List Argument) (title : String) (seed : Float) : GenerateCommand where
  title := title
  seed := some seed
  narrator := Arguments.last? "--narrator" arguments
  music := Arguments.last? "--music" arguments
  ambience := Arguments.last? "--ambience" arguments
  out := Arguments.last? "--out" arguments

theorem ofArguments_eq {arguments : List Argument} (h : Arguments.last? "--seed" arguments = some text)
    (title : String) : ofArguments arguments title = settled arguments title <$> readSeed text := by
  have hsome : (some text).mapM readSeed = some <$> readSeed text := rfl
  rw [ofArguments, h, hsome]
  cases readSeed text <;> rfl

/-- Once all else is settled, it is the text that decides. -/
theorem read_of_seedGiven (h : SeedGiven text words) : ∃ arguments title,
    MixerCommand.read words = if looksLikeFlag text then .error (missingValue "--seed")
      else (fun seed => .generate (settled arguments title seed)) <$> readSeed text := by
  obtain @⟨before, after, hbefore, hafter, htitle, hlast⟩ := h
  obtain ⟨arguments, harguments⟩ : ∃ arguments, before ++ .option "--seed" text :: after = arguments := ⟨_, rfl⟩
  obtain ⟨title, hnames⟩ := names_append_seed text htitle
  have hseed : Arguments.last? "--seed" arguments = some text :=
    Arguments.last?_eq_some_iff.2 ⟨before, after, harguments.symm, hlast⟩
  have hword : readArguments flags ("--seed" :: text :: after.flatMap Argument.words)
      = if looksLikeFlag text then .error (missingValue "--seed")
        else (.option "--seed" text :: ·) <$> readArguments flags (after.flatMap Argument.words) := by
    rw [readArguments_cons, if_neg (by decide), if_pos (by decide)]
  refine ⟨arguments, title, ?_⟩
  rw [MixerCommand.read, if_neg (by decide), if_pos rfl, read_eq,
    Flags.readArguments_append apart_flags hbefore, hword]
  split
  · rfl
  · rw [Flags.Spells.read apart_flags ⟨hafter, rfl⟩]
    change MixerCommand.generate <$> (Arguments.required "generate" "--title" "title" (before ++ _)
      >>= ofArguments (before ++ _)) = _
    rw [harguments, Arguments.required_eq_ok.2 (harguments ▸ hnames)]
    change MixerCommand.generate <$> ofArguments arguments title = _
    rw [ofArguments_eq hseed, ← comp_map]
    rfl

/-- A text that begins with two hyphens is neither blank nor a numeral. -/
theorem not_isWhole_of_flag (h : looksLikeFlag text = true) :
    Numeral.isWhole (Numeral.readNumber text) = false := by
  obtain ⟨rest, hrest⟩ := Flags.looksLikeFlag_iff.1 h
  have hhyphen : Text.isBlank '-' = false := by decide
  have hhyphens : ['-', '-'] ≠ [] := List.cons_ne_nil _ _
  obtain ⟨kept, hkept, -⟩ := Text.exists_trims_append hhyphens (by rintro c ⟨⟩; exact hhyphen)
    (by rintro c ⟨⟩; exact hhyphen) rest
  have htrim : trim text.toList = '-' :: '-' :: kept := by
    rw [← hrest]
    exact Text.trim_of_trims hkept
  rw [Bool.eq_false_iff]
  intro hwhole
  rcases Numeral.blank_or_numeralFor hwhole with hblank | ⟨r, hr⟩
  · rw [htrim] at hblank
    cases hblank
  · rw [htrim] at hr
    exact Numeral.not_numeralFor_of_hyphens hr

/-- A command is read just when the number is whole that its seed is read as. -/
theorem read_eq_ok_iff_isWhole (h : SeedGiven text words) :
    (∃ command, MixerCommand.read words = .ok command)
      ↔ Numeral.isWhole (Numeral.readNumber text) = true := by
  obtain ⟨arguments, title, hread⟩ := read_of_seedGiven h
  rw [hread]
  split
  · rename_i hflag
    rw [not_isWhole_of_flag hflag]
    exact iff_of_false nofun Bool.false_ne_true
  · simp only [map_eq_ok, readSeed_eq_ok]
    exact ⟨fun ⟨_, _, ⟨hwhole, _⟩, _⟩ => hwhole, fun hwhole => ⟨_, _, ⟨hwhole, rfl⟩, rfl⟩⟩

theorem seed_of_read (h : SeedGiven text words) {command : MixerCommand}
    (hread : MixerCommand.read words = .ok command) :
    ∃ asked, command = .generate asked ∧ asked.seed = some (Numeral.readNumber text) := by
  obtain ⟨arguments, title, heq⟩ := read_of_seedGiven h
  rw [heq] at hread
  split at hread
  · cases hread
  · obtain ⟨seed, hseed, rfl⟩ := map_eq_ok.1 hread
    obtain ⟨-, rfl⟩ := readSeed_eq_ok.1 hseed
    exact ⟨_, rfl, rfl⟩

theorem failure_of_read (h : SeedGiven text words) {failure : Failure}
    (hread : MixerCommand.read words = .error failure) :
    failure = if looksLikeFlag text then missingValue "--seed"
      else .configuration ("--seed expects an integer, got: " ++ text) := by
  obtain ⟨arguments, title, heq⟩ := read_of_seedGiven h
  rw [heq] at hread
  split at hread
  · rename_i hflag
    rw [if_pos hflag]
    exact (Except.error.inj hread).symm
  · rename_i hflag
    rw [if_neg hflag]
    unfold readSeed at hread
    dsimp only at hread
    split at hread
    · cases hread
    · exact (Except.error.inj hread).symm

/-! ## Which texts are taken -/

theorem isWhole_readNumber_iff : Numeral.isWhole (Numeral.readNumber text) = true ↔
    trim text.toList = [] ∨ ∃ r, NumeralFor (trim text.toList) r ∧ NearWhole r := by
  constructor
  · intro hwhole
    refine (Numeral.blank_or_numeralFor hwhole).imp_right fun ⟨r, hr⟩ => ⟨r, hr, ?_⟩
    exact ⟨_, Numeral.nearest_readNumber hr, Numeral.isWhole_iff.1 hwhole⟩
  · rintro (hblank | ⟨r, hr, x, hx, hfinite, n, hn⟩)
    · rw [Numeral.readNumber_of_blank hblank]
      exact Numeral.isWhole_zero
    · obtain ⟨hfinite', hvalue⟩ := hx.unique (Numeral.nearest_readNumber hr) hfinite
      exact Numeral.isWhole_iff.2 ⟨hfinite', n, hvalue.trans hn⟩

/-- Of the numerals for whole numbers those are taken that are in range. -/
theorem isWhole_readNumber_of_int {n : ℤ} (hn : NumeralFor (trim text.toList) n) :
    Numeral.isWhole (Numeral.readNumber text) = true ↔ |(n : ℚ)| < overflow := by
  have hnearest := Numeral.nearest_readNumber hn
  rw [Numeral.isWhole_iff, ← hnearest.isFinite_iff]
  exact and_iff_left_of_imp hnearest.exists_int

/-- A command with this text for its seed, the last that it gives, is read just when the text is blank or a
numeral for a number to which the nearest float is whole. The seed is that float then, and zero for a blank
text; otherwise the text is told. A numeral for a whole number is taken if that is in the range of floats, and
for itself up to 53 bits. -/
theorem seed_read (h : SeedGiven text words) :
    ((∃ command, MixerCommand.read words = .ok command) ↔
        trim text.toList = [] ∨ ∃ r, NumeralFor (trim text.toList) r ∧ NearWhole r)
      ∧ (∀ command, MixerCommand.read words = .ok command →
          ∃ asked x, command = .generate asked ∧ asked.seed = some x
            ∧ (trim text.toList = [] → x = 0)
            ∧ ∀ r, NumeralFor (trim text.toList) r → Nearest r (.ofFloat x))
      ∧ (∀ failure, MixerCommand.read words = .error failure →
          failure = if looksLikeFlag text then missingValue "--seed"
            else .configuration ("--seed expects an integer, got: " ++ text))
      ∧ ∀ n : ℤ, NumeralFor (trim text.toList) n →
          ((∃ command, MixerCommand.read words = .ok command) ↔ |(n : ℚ)| < overflow)
          ∧ (|n| ≤ 2 ^ 53 → ∃ asked x, MixerCommand.read words = .ok (.generate asked)
              ∧ asked.seed = some x ∧ x.isFinite = true ∧ value x = n) := by
  have haccepted := read_eq_ok_iff_isWhole h
  refine ⟨haccepted.trans isWhole_readNumber_iff, ?_, fun failure => failure_of_read h, ?_⟩
  · intro command hread
    obtain ⟨asked, hasked, hseed⟩ := seed_of_read h hread
    exact ⟨asked, _, hasked, hseed, Numeral.readNumber_of_blank, fun r => Numeral.nearest_readNumber⟩
  · intro n hn
    refine ⟨haccepted.trans (isWhole_readNumber_of_int hn), fun hsmall => ?_⟩
    have hnearest := Numeral.nearest_readNumber hn
    obtain ⟨hfinite, hvalue⟩ := hnearest.value_eq_int hsmall
    obtain ⟨command, hread⟩ := haccepted.2 (Numeral.isWhole_iff.2 ⟨hfinite, n, hvalue⟩)
    obtain ⟨asked, rfl, hseed⟩ := seed_of_read h hread
    exact ⟨asked, _, hread, hseed, hfinite, hvalue⟩

/-- A seed that is left empty is zero. -/
theorem seed_read_unfilled : ∃ asked,
    MixerCommand.read ["generate", "--title", "Night", "--seed", ""] = .ok (.generate asked)
      ∧ asked.seed = some 0 := by
  have hnames : Names "--title" [.option "--title" "Night"] := ⟨"Night", ⟨[], [], rfl, nofun⟩, by decide⟩
  have hgiven : SeedGiven "" ["generate", "--title", "Night", "--seed", ""] :=
    @SeedGiven.mk "" [.option "--title" "Night"] [] (by decide) nofun hnames nofun
  obtain ⟨haccepted, hseed, -, -⟩ := seed_read hgiven
  obtain ⟨command, hread⟩ := haccepted.2 (.inl rfl)
  obtain ⟨asked, x, rfl, hx, hzero, -⟩ := hseed command hread
  exact ⟨asked, hread, hzero rfl ▸ hx⟩

end StoryMix.GenerateCommand
