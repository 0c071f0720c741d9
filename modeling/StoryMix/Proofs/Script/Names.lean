import StoryMix.Proofs.Script.Prose

/-!
# What a line says that was put together

A text that is put into a line does not always come back out of it: a name can hold a colon, begin with
the sign of a comment, or be the word that opens a pause. `Names` are the names of which none of this is
true. In front of prose such a name is read back, and so is what is spoken, word for word; a value
behind a key is read back whatever it is. Blanks at the ends of a name or of a value are lost. The
length of a pause and the asset of a sound effect are read back if they are single words.
-/

namespace StoryMix.Script

open Numeral (Denotes)
open Text (Trims Unbroken Worded trim trimStart isBlank)

/-- A name that makes nothing else of the line that it leads. -/
structure Names (name : List Char) : Prop where
  line : Unbroken name
  colon : ':' ∉ name
  visible : trim name ≠ []
  comment : (trim name).head? ≠ some '#'
  directive : (trim name).head? ≠ some '@'
  pause : Text.upper (trim name) ≠ "PAUSE".toList
  effect : Text.upper (trim name) ≠ "SFX".toList

instance (name : List Char) : Decidable (Names name) :=
  decidable_of_iff (Unbroken name ∧ ':' ∉ name ∧ trim name ≠ [] ∧
      (trim name).head? ≠ some '#' ∧ (trim name).head? ≠ some '@' ∧
      Text.upper (trim name) ≠ "PAUSE".toList ∧ Text.upper (trim name) ≠ "SFX".toList)
    ⟨fun ⟨hline, hcolon, hvisible, hcomment, hdirective, hpause, heffect⟩ =>
        ⟨hline, hcolon, hvisible, hcomment, hdirective, hpause, heffect⟩,
      fun h => ⟨h.line, h.colon, h.visible, h.comment, h.directive, h.pause, h.effect⟩⟩

/-- A text that is one word. -/
def Word (cs : List Char) : Prop :=
  cs ≠ [] ∧ ∀ c ∈ cs, isBlank c = false

-- The characters of the text are gone through, and not all characters that there are.
instance (cs : List Char) : Decidable (Word cs) :=
  @instDecidableAnd _ _ _ (@List.decidableBAll _ (fun c => isBlank c = false) _ cs)

/-! ## Names -/

/-- A text without a colon opens in one way only: as the word itself. -/
theorem opens_colon_iff {capitals : String} {word : List Char}
    (hcapitals : capitals.toList = word ++ [':']) (hword : ':' ∉ word) {name : List Char}
    (hname : ':' ∉ name) : Opens capitals (name ++ [':']) ↔ Text.upper name = word := by
  have hcolon : Text.upper [':'] = [':'] := by decide
  have hupper := Text.colon_not_mem_upper hname
  rw [Opens, hcapitals, Text.upper_append, hcolon]
  constructor
  · rintro ⟨rest, hrest⟩
    have hboth : Parts (Text.upper name ++ [':']) word rest := ⟨hword, by rw [← hrest]; simp⟩
    have hself : Parts (Text.upper name ++ [':']) (Text.upper name) [] := ⟨hupper, rfl⟩
    exact (Prod.mk.inj (Option.some.inj (hself.splitFirst.symm.trans hboth.splitFirst))).1
  · rintro rfl
    exact List.prefix_rfl

/-- Blanks behind a name do not make a word of it. -/
theorem upper_trimStart_ne {word : List Char} (hword : Word word) {name : List Char}
    (h : Text.upper (trim name) ≠ word) : Text.upper (trimStart name) ≠ word := by
  rintro rfl
  obtain ⟨after, hstart, hafter⟩ := Text.exists_trimStart_eq name
  rw [hstart, Text.upper_append, Text.upper_of_blank hafter] at hword h
  cases after with
  | nil => exact h (List.append_nil _).symm
  | cons c after =>
      have hblank := hafter c List.mem_cons_self
      rw [hword.2 c (by simp)] at hblank
      cases hblank

theorem Names.head? {name : List Char} (h : Names name) :
    (trimStart name ++ [':']).head? = (trim name).head? := by
  obtain ⟨after, hstart, -⟩ := Text.exists_trimStart_eq name
  rw [hstart, List.append_assoc, List.head?_append_of_ne_nil _ h.visible]

theorem Names.colon_trimStart {name : List Char} (h : Names name) : ':' ∉ trimStart name :=
  fun hmem => h.colon ((List.dropWhile_sublist _).subset hmem)

theorem Names.plain {name : List Char} (h : Names name) : Plain (trimStart name ++ [':']) := by
  have hcolon := h.colon_trimStart
  have hpause := @opens_colon_iff "PAUSE:" "PAUSE".toList rfl (by decide) _ hcolon
  have heffect := @opens_colon_iff "SFX:" "SFX".toList rfl (by decide) _ hcolon
  exact ⟨h.head?.symm ▸ h.comment, h.head?.symm ▸ h.directive,
    mt hpause.1 (upper_trimStart_ne (by decide) h.pause),
    mt heffect.1 (upper_trimStart_ne (by decide) h.effect)⟩

/-- A name without blanks at its ends is one if the line that it leads is plain. -/
theorem Names.of_plain {name : List Char} (htrim : trim name = name)
    (hline : Unbroken name) (hcolon : ':' ∉ name) (hne : name ≠ [])
    (h : Plain (name ++ [':'])) : Names name := by
  have hpause := @opens_colon_iff "PAUSE:" "PAUSE".toList rfl (by decide) _ hcolon
  have heffect := @opens_colon_iff "SFX:" "SFX".toList rfl (by decide) _ hcolon
  have hhead : (name ++ [':']).head? = name.head? := List.head?_append_of_ne_nil name hne
  constructor
  case line => exact hline
  case colon => exact hcolon
  all_goals rw [htrim]
  case visible => exact hne
  case comment => exact hhead ▸ h.comment
  case directive => exact hhead ▸ h.directive
  case pause => exact mt hpause.2 h.pause
  case effect => exact mt heffect.2 h.effect

/-- The name and the prose behind it are read back. -/
theorem reads_speech {name spoken : List Char} (hname : Names name) (h : Prose spoken)
    (hhead : ∀ c ∈ spoken.head?, isBlank c = false) :
    Reads true (name ++ ':' :: ' ' :: spoken)
      (some (.utterance (String.ofList (trim name)) (String.ofList spoken))) :=
  ⟨_, trims_speech h name, .utterance (plain_append_colon.2 hname.plain)
    ⟨hname.colon_trimStart, rfl⟩ (Text.trims_trimStart name)
    (Text.trims_cons (by decide) hhead h.not_blank_last) hname.visible h.ne_nil⟩

/-! ## Values -/

/-- A key that comes out of a line as it was put in. -/
def Key (key : List Char) : Prop :=
  trim key = key ∧ ':' ∉ key ∧ Unbroken key

instance (key : List Char) : Decidable (Key key) :=
  inferInstanceAs (Decidable (_ ∧ _ ∧ _))

/-- A value is read back behind its key. -/
theorem reads_directive {key : List Char} (hkey : Key key) (value : List Char) :
    Reads true ('@' :: (key ++ ':' :: ' ' :: value))
      (some (.directive (String.ofList key) (String.ofList (trim value)))) := by
  obtain ⟨htrims, hcolon, -⟩ := hkey
  have hfront : ('@' :: (key ++ [':'])).getLast? = some ':' :=
    List.getLast?_concat (l := '@' :: key)
  have hhead : ∀ c ∈ ('@' :: (key ++ [':'])).head?, isBlank c = false := by
    rintro c ⟨⟩
    decide
  have hlast : ∀ c ∈ ('@' :: (key ++ [':'])).getLast?, isBlank c = false := by
    rw [hfront]
    rintro c ⟨⟩
    decide
  obtain ⟨kept, hline, hkept⟩ :=
    Text.exists_trims_append (List.cons_ne_nil _ _) hhead hlast (' ' :: value)
  rw [Text.trim_cons_blank (by decide)] at hkept
  have hparts : Parts (key ++ ':' :: kept) key kept := ⟨hcolon, rfl⟩
  refine ⟨'@' :: (key ++ ':' :: kept), ?_, .directive hparts (Text.trim_eq_iff.1 htrims) hkept⟩
  simpa using hline

/-! ## Pauses and sound effects -/

theorem Word.trims {word : List Char} (h : Word word) {cs : List Char}
    (hhead : ∀ c ∈ (cs ++ word).head?, isBlank c = false) : Trims (cs ++ word) (cs ++ word) := by
  refine ⟨[], [], by simp, nofun, nofun, hhead, fun c hc => ?_⟩
  rw [List.getLast?_append_of_ne_nil _ h.1] at hc
  exact h.2 c (List.mem_of_mem_getLast? hc)

theorem Word.trims_cons {word : List Char} (h : Word word) : Trims (' ' :: word) word :=
  Text.trims_cons (by decide) (fun c hc => h.2 c (List.mem_of_mem_head? hc))
    fun c hc => h.2 c (List.mem_of_mem_getLast? hc)

theorem opens_self {capitals : String} {word : List Char} (hcapitals : capitals.toList = word ++ [':'])
    (hword : ':' ∉ word) (hupper : Text.upper word = word) (rest : List Char) :
    Opens capitals (word ++ ':' :: rest) :=
  (opens_append_colon hcapitals hword word rest).2 ((opens_colon_iff hcapitals hword hword).2 hupper)

/-- The length of a pause is read back. -/
theorem reads_pause {seconds : List Char} (hword : Word seconds) {x : Float} (h : Denotes seconds x)
    (hnonneg : ¬ x < 0) :
    Reads true ("PAUSE".toList ++ ':' :: ' ' :: seconds) (some (.pause x)) := by
  have hopens := @opens_self "PAUSE:" "PAUSE".toList rfl (by decide) (by decide +kernel) (' ' :: seconds)
  have hparts : Parts ("PAUSE".toList ++ ':' :: ' ' :: seconds) "PAUSE".toList (' ' :: seconds) :=
    ⟨by decide, rfl⟩
  have htrims : Trims ("PAUSE: ".toList ++ seconds) ("PAUSE: ".toList ++ seconds) :=
    hword.trims (by rintro c ⟨⟩; decide)
  exact ⟨_, htrims, .pause hopens hparts ⟨seconds, hword.trims_cons, h⟩ hnonneg⟩

/-- The asset of a sound effect is read back, and so are its parameters. -/
theorem reads_effect {asset : List Char} (hword : Word asset) :
    Reads true ("SFX".toList ++ ':' :: ' ' :: (asset ++ " at=last_end offset=0.0".toList))
      (some (.cue (String.ofList asset) .lastEnd 0)) := by
  have hopens := @opens_self "SFX:" "SFX".toList rfl (by decide) (by decide +kernel)
    (' ' :: (asset ++ " at=last_end offset=0.0".toList))
  have hparts : Parts ("SFX".toList ++ ':' :: ' ' :: (asset ++ " at=last_end offset=0.0".toList))
      "SFX".toList (' ' :: (asset ++ " at=last_end offset=0.0".toList)) :=
    ⟨by decide, rfl⟩
  have hfirst : Word "at=last_end".toList := by decide
  have hlast : Word "offset=0.0".toList := by decide
  have htrims : Trims ("SFX: ".toList ++ asset ++ " at=last_end ".toList ++ "offset=0.0".toList)
      ("SFX: ".toList ++ asset ++ " at=last_end ".toList ++ "offset=0.0".toList) :=
    hlast.trims (by rintro c ⟨⟩; decide)
  have hwords : Worded (' ' :: (asset ++ " at=last_end offset=0.0".toList))
      [asset, "at=last_end".toList, "offset=0.0".toList] :=
    .blank (by decide) <| .word hword.1 hword.2 (by decide) <|
      @Worded.word "at=last_end".toList _ _ _ hfirst.1 hfirst.2 (by decide) <|
      .last hlast.1 hlast.2
  have hanchor : Sets true "at=last_end".toList (.anchor .lastEnd) :=
    @Sets.anchor true .lastEnd "last_end".toList (.inr (.inr rfl)) (by decide +kernel)
  have hzero : Denotes "0.0".toList 0 := Numeral.readDecimal_eq_some.1 (by decide +kernel)
  have hoffset : Sets true "offset=0.0".toList (.offset 0) :=
    @Sets.offset true "0.0".toList 0 ⟨_, Text.trims_trim _, hzero⟩
  refine ⟨_, ?_, .effect hopens hparts hwords (.cons hanchor (.cons hoffset .nil))⟩
  simpa using htrims

end StoryMix.Script
