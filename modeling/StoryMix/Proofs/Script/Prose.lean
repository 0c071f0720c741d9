import StoryMix.Proofs.Script.Grammar

/-!
# Lines that are put together

A program that writes a script puts texts of others into it: a value behind a key, a name in front of
what is spoken. Whether such a line is well-formed in strict reading depends on the text that was put
in. Behind a key any text will do. A name will do if the line does not turn into something else by it:
a pause with words for a number, an effect with words for parameters, or an utterance of nobody. What
is spoken does not count, as long as it is `Prose`.
-/

namespace StoryMix

/-- The signs of a numeral are its digits and five others. -/
theorem Numeral.glyph_of_denotes {cs : List Char} {x : Float} (h : Denotes cs x) :
    ∀ c ∈ cs, isDigit c = true ∨ c ∈ ['+', '-', '.', 'e', 'E'] := by
  have hsign {negative : Bool} {sign : List Char} (hs : Sign negative sign) :
      ∀ c ∈ sign, isDigit c = true ∨ c ∈ ['+', '-', '.', 'e', 'E'] := by
    cases hs with
    | none => exact nofun
    | plus => simp
    | minus => simp
  cases h with
  | mk hs hwhole hplaces _ hmantissa hexponent =>
      intro c hc
      rcases List.mem_append.1 hc with hc | hc
      · exact hsign hs c hc
      rcases List.mem_append.1 hc with hc | hc
      · cases hmantissa with
        | whole => exact .inl (hwhole c hc)
        | pointed =>
            rcases List.mem_append.1 hc with hc | hc
            · exact .inl (hwhole c hc)
            · rcases List.mem_cons.1 hc with rfl | hc
              · simp
              · exact .inl (hplaces c hc)
      · cases hexponent with
        | none => cases hc
        | some hletter hs' _ hdigits =>
            rcases List.mem_cons.1 hc with rfl | hc
            · rcases hletter with rfl | rfl <;> simp
            · rcases List.mem_append.1 hc with hc | hc
              · exact hsign hs' c hc
              · exact .inl (hdigits c hc)

namespace Script

open Text (Trims EndsLine trim trimStart isBlank)

/-- The line can stand in a script that is read strictly. -/
def WellFormed (raw : List Char) : Prop :=
  ∃ said, Reads true raw said

theorem exists_events_iff {script : String} :
    (∃ events, parse true script = .ok events) ↔
      ∀ raw ∈ Text.lines script.toList, WellFormed raw := by
  constructor
  · rintro ⟨events, h⟩ raw hraw
    obtain ⟨lines, said, hruled, hreads, -⟩ := parse_eq_ok_iff.1 h
    rw [Text.lines_of_ruled hruled] at hraw
    obtain ⟨s, -, hs⟩ := exists_of_forall₂ hreads raw hraw
    exact ⟨s, hs⟩
  · intro h
    rcases parse_cases true script with
      ⟨_, said, -, -, hok⟩ | ⟨before, raw, after, fault, hruled, -, hill, -⟩
    · exact ⟨_, hok⟩
    · obtain ⟨said, hreads⟩ := h raw (by rw [Text.lines_of_ruled hruled]; simp)
      have hboth := (readLine_of_reads hreads).symm.trans (readLine_of_illFormed hill)
      cases hboth

theorem wellFormed_iff_of_trims {raw line : List Char} (h : Trims raw line) :
    WellFormed raw ↔ ∃ said, Says true line said := by
  constructor
  · rintro ⟨said, core, hcore, hsaid⟩
    rw [← Text.trim_of_trims hcore, Text.trim_of_trims h] at hsaid
    exact ⟨said, hsaid⟩
  · rintro ⟨said, hsaid⟩
    exact ⟨said, line, h, hsaid⟩

theorem wellFormed_nil : WellFormed [] :=
  ⟨none, [], Text.trims_trim [], .blank⟩

theorem wellFormed_iff_readLine {raw : List Char} :
    WellFormed raw ↔ (readLine true raw).toOption.isSome = true := by
  constructor
  · rintro ⟨said, hreads⟩
    rw [readLine_of_reads hreads]
    rfl
  · intro h
    rcases @reads_or_illFormed true raw with hreads | ⟨fault, hill⟩
    · exact hreads
    · rw [readLine_of_illFormed hill] at h
      cases h

instance (raw : List Char) : Decidable (WellFormed raw) :=
  decidable_of_iff _ wellFormed_iff_readLine.symm

/-! ## Directives -/

/-- Behind a key and a colon stands what it may. -/
theorem wellFormed_directive (key value : List Char) : WellFormed ('@' :: (key ++ ':' :: value)) := by
  have htrims := Text.trims_trim ('@' :: (key ++ ':' :: value))
  obtain ⟨rest, hrest⟩ := Text.head_of_trims htrims (by decide)
  have hcolon : ':' ∈ trim ('@' :: (key ++ ':' :: value)) :=
    Text.mem_of_trims htrims (by decide) (by simp)
  rw [hrest] at htrims hcolon
  obtain ⟨left, right, hparts⟩ := exists_parts (List.mem_of_ne_of_mem (by decide) hcolon)
  exact (wellFormed_iff_of_trims htrims).2
    ⟨_, .directive hparts (Text.trims_trim left) (Text.trims_trim right)⟩

/-! ## What is spoken -/

/-- The text stays on its line and holds no parameter. -/
def Tame (cs : List Char) : Prop :=
  ∀ c ∈ cs, c ≠ '=' ∧ ¬ EndsLine c

/-- Words that can be taken for nothing else: neither for a numeral nor for an asset with parameters. -/
structure Prose (spoken : List Char) : Prop where
  tame : Tame spoken
  letter : ∃ c ∈ spoken, 'f' ≤ c ∧ c ≤ 'z'
  words : 2 ≤ (Text.words spoken).length
  last : spoken.getLast?.all (!isBlank ·)

-- The characters of the text are gone through, and not all characters that there are.
instance (cs : List Char) : Decidable (Tame cs) :=
  @List.decidableBAll _ (fun c => c ≠ '=' ∧ ¬ (c = '\r' ∨ c = '\n')) _ cs

instance (spoken : List Char) : Decidable (Prose spoken) :=
  decidable_of_iff (Tame spoken ∧ spoken.any (fun c => decide ('f' ≤ c ∧ c ≤ 'z')) = true ∧
      2 ≤ (Text.words spoken).length ∧ spoken.getLast?.all (!isBlank ·) = true)
    ⟨fun ⟨htame, hletter, hwords, hlast⟩ =>
        have ⟨c, hc, hbetween⟩ := List.any_eq_true.1 hletter
        ⟨htame, ⟨c, hc, of_decide_eq_true hbetween⟩, hwords, hlast⟩,
      fun h =>
        have ⟨c, hc, hbetween⟩ := h.letter
        ⟨h.tame, List.any_eq_true.2 ⟨c, hc, decide_eq_true hbetween⟩, h.words, h.last⟩⟩

theorem Prose.ne_nil {spoken : List Char} (h : Prose spoken) : spoken ≠ [] := by
  obtain ⟨c, hc, -⟩ := h.letter
  exact List.ne_nil_of_mem hc

theorem Prose.not_blank_last {spoken : List Char} (h : Prose spoken) :
    ∀ c ∈ spoken.getLast?, isBlank c = false := by
  intro c hc
  have hlast := h.last
  rw [Option.mem_def.1 hc, Option.all_some, Bool.not_eq_true'] at hlast
  exact hlast

theorem Tame.append {xs ys : List Char} (hxs : Tame xs) (hys : Tame ys) : Tame (xs ++ ys) :=
  List.forall_mem_append.2 ⟨hxs, hys⟩

/-- Prose may go on from any tame text. -/
theorem Prose.append_left {front spoken : List Char} (hfront : Tame front) (h : Prose spoken) :
    Prose (front ++ spoken) where
  tame := hfront.append h.tame
  letter := by
    obtain ⟨c, hc, hletter⟩ := h.letter
    exact ⟨c, List.mem_append_right front hc, hletter⟩
  words := by
    refine h.words.trans ?_
    induction front with
    | nil => exact le_rfl
    | cons c front ih =>
        refine (ih (List.forall_mem_cons.1 hfront).2).trans ?_
        exact Text.length_words_cons c _
  last := by
    rw [List.getLast?_append_of_ne_nil _ h.ne_nil]
    exact h.last

/-- With a colon behind it, the name can stand in front of any prose: the line is an utterance of
somebody then, or a comment or a directive. -/
def Introduces (name : List Char) : Prop :=
  let opening := trimStart name ++ [':']
  opening.head? = some '#' ∨ opening.head? = some '@' ∨ Plain opening ∧ opening.head? ≠ some ':'

theorem prefix_append_colon {word : List Char} (hword : ':' ∉ word) (xs ys : List Char) :
    word ++ [':'] <+: xs ++ ':' :: ys ↔ word ++ [':'] <+: xs ++ [':'] := by
  induction word generalizing xs with
  | nil =>
      cases xs with
      | nil => simp
      | cons x xs => simp
  | cons w word ih =>
      obtain ⟨hw, hword⟩ := not_or.1 (mt List.mem_cons.2 hword)
      cases xs with
      | nil => simp [Ne.symm hw]
      | cons x xs =>
          simp only [List.cons_append, List.cons_prefix_cons]
          exact and_congr_right fun _ => ih hword xs

/-- Capitals that end in a colon are found before the first colon of a line or nowhere. -/
theorem opens_append_colon {capitals : String} {word : List Char}
    (hcapitals : capitals.toList = word ++ [':']) (hword : ':' ∉ word) (line rest : List Char) :
    Opens capitals (line ++ ':' :: rest) ↔ Opens capitals (line ++ [':']) := by
  have hcolon : Text.upperChar ':' = [':'] := by decide
  have hupper (ys : List Char) :
      Text.upper (line ++ ':' :: ys) = Text.upper line ++ ':' :: Text.upper ys := by
    rw [Text.upper, List.flatMap_append, List.flatMap_cons, hcolon]
    rfl
  rw [Opens, Opens, hcapitals, hupper, hupper]
  exact prefix_append_colon hword _ _

theorem head?_append_colon (line rest : List Char) :
    (line ++ ':' :: rest).head? = (line ++ [':']).head? := by
  cases line with
  | nil => rfl
  | cons c line => rfl

instance (capitals : String) (line : List Char) : Decidable (Opens capitals line) :=
  inferInstanceAs (Decidable (_ <+: _))

instance (line : List Char) : Decidable (Plain line) :=
  decidable_of_iff (line.head? ≠ some '#' ∧ line.head? ≠ some '@' ∧ ¬ Opens "PAUSE:" line ∧
      ¬ Opens "SFX:" line)
    ⟨fun ⟨hcomment, hdirective, hpause, heffect⟩ => ⟨hcomment, hdirective, hpause, heffect⟩,
      fun h => ⟨h.comment, h.directive, h.pause, h.effect⟩⟩

instance (name : List Char) : Decidable (Introduces name) :=
  inferInstanceAs (Decidable (_ ∨ _ ∨ _ ∧ _))

theorem plain_append_colon {line rest : List Char} :
    Plain (line ++ ':' :: rest) ↔ Plain (line ++ [':']) := by
  have hpause := @opens_append_colon "PAUSE:" "PAUSE".toList rfl (by decide) line rest
  have heffect := @opens_append_colon "SFX:" "SFX".toList rfl (by decide) line rest
  have hhead := head?_append_colon line rest
  constructor
  · intro h
    exact ⟨hhead ▸ h.comment, hhead ▸ h.directive, mt hpause.2 h.pause, mt heffect.2 h.effect⟩
  · intro h
    exact ⟨hhead ▸ h.comment, hhead ▸ h.directive, mt hpause.1 h.pause, mt heffect.1 h.effect⟩

/-- What stands behind the first colon of a line goes on to the end of the line. -/
theorem Parts.exists_append {line rest left right : List Char}
    (h : Parts (line ++ ':' :: rest) left right) :
    ∃ between, Parts (line ++ [':']) left between ∧ right = between ++ rest := by
  by_cases hcolon : ':' ∈ line
  · obtain ⟨before, after, hbefore, rfl⟩ := exists_parts hcolon
    have hparts : Parts (before ++ ':' :: after ++ ':' :: rest) before (after ++ ':' :: rest) :=
      ⟨hbefore, by simp⟩
    obtain ⟨rfl, rfl⟩ := Prod.mk.inj (Option.some.inj (h.splitFirst.symm.trans hparts.splitFirst))
    exact ⟨after ++ [':'], ⟨hbefore, by simp⟩, by simp⟩
  · have hparts : Parts (line ++ ':' :: rest) line rest := ⟨hcolon, rfl⟩
    obtain ⟨rfl, rfl⟩ := Prod.mk.inj (Option.some.inj (h.splitFirst.symm.trans hparts.splitFirst))
    exact ⟨[], ⟨hcolon, rfl⟩, rfl⟩

/-! ## A name and what is spoken -/

variable {spoken : List Char}

/-- The small letters behind `e` are no blanks, and no numeral has one. -/
theorem not_blank_of_letter {c : Char} (h : 'f' ≤ c ∧ c ≤ 'z') : isBlank c = false := by
  have hfirst : 0x66 ≤ c.toNat := h.1
  have hlast : c.toNat ≤ 0x7A := h.2
  simp only [isBlank, Bool.or_eq_false_iff, Bool.and_eq_false_iff, decide_eq_false_iff_not,
    beq_eq_false_iff_ne, ne_eq]
  omega

theorem not_glyph_of_letter {c : Char} (h : 'f' ≤ c ∧ c ≤ 'z') :
    ¬ (Numeral.isDigit c = true ∨ c ∈ ['+', '-', '.', 'e', 'E']) := by
  rintro (hdigit | hsign)
  · simp only [Numeral.isDigit, Bool.and_eq_true, decide_eq_true_eq] at hdigit
    exact absurd (Char.le_trans h.1 hdigit.2) (by decide)
  · simp only [List.mem_cons, List.not_mem_nil, or_false] at hsign
    rcases hsign with rfl | rfl | rfl | rfl | rfl
    all_goals exact absurd h.1 (by decide)

theorem Prose.not_amount (h : Prose spoken) (between : List Char) (x : Float) :
    ¬ Amount (between ++ ' ' :: spoken) x := by
  rintro ⟨core, htrims, hdenotes⟩
  obtain ⟨c, hc, hletter⟩ := h.letter
  have hcore : c ∈ core := Text.mem_of_trims htrims (not_blank_of_letter hletter) (by simp [hc])
  exact not_glyph_of_letter hletter (Numeral.glyph_of_denotes hdenotes c hcore)

/-- A parameter that is taken has a sign of equality. -/
theorem mem_of_sets {token : List Char} {setting : Setting} (h : Sets true token setting) :
    '=' ∈ token := by
  cases h with
  | anchor _ _ => exact List.mem_append_left _ (by decide)
  | offset _ => exact List.mem_append_left _ (by decide)
  | nothing hstrict _ _ => cases hstrict

theorem Prose.not_settings (h : Prose spoken) {between asset : List Char}
    {tokens : List (List Char)} {settings : List Setting}
    (hwords : Text.Worded (between ++ ' ' :: spoken) (asset :: tokens)) :
    ¬ List.Forall₂ (Sets true) tokens settings := by
  intro hsets
  have hboth : Text.words between ++ Text.words spoken = asset :: tokens := by
    rw [← Text.words_append_blank (c := ' ') (by decide)]
    exact Text.words_of_worded hwords
  have htwo := h.words
  have hspoken : Text.words spoken ≠ [] := by
    intro hnone
    rw [hnone] at htwo
    cases htwo
  have htokens : tokens ≠ [] := by
    rintro rfl
    have hlength := congrArg List.length hboth
    rw [List.length_append, List.length_singleton] at hlength
    omega
  -- The first word may come before what is spoken, but the last one is spoken.
  have hlast : tokens.getLast htokens = (Text.words spoken).getLast hspoken := by
    have hends := congrArg List.getLast? hboth
    rw [List.getLast?_append_of_ne_nil _ hspoken, List.getLast?_cons,
      List.getLast?_eq_some_getLast hspoken, List.getLast?_eq_some_getLast htokens] at hends
    exact (Option.some.inj hends).symm
  obtain ⟨setting, -, hset⟩ := exists_of_forall₂ hsets _ (List.getLast_mem htokens)
  have hequal := mem_of_sets hset
  rw [hlast] at hequal
  exact (h.tame _ (Text.mem_of_worded (Text.words_eq_iff.1 rfl) _ (List.getLast_mem hspoken) _
    hequal)).1 rfl

theorem trims_speech (h : Prose spoken) (name : List Char) :
    Trims (name ++ ':' :: ' ' :: spoken) (trimStart name ++ ':' :: ' ' :: spoken) := by
  refine Text.trims_append (List.cons_ne_nil _ _) ?_ ?_
  · rintro c ⟨⟩
    decide
  · intro c hc
    rw [List.getLast?_cons_of_ne_nil (List.cons_ne_nil _ _), List.getLast?_cons_of_ne_nil h.ne_nil]
      at hc
    exact h.not_blank_last c hc

theorem Parts.left_eq_nil {line left right : List Char} (h : Parts line left right)
    (hhead : line.head? = some ':') : left = [] := by
  obtain ⟨hleft, rfl⟩ := h
  cases left with
  | nil => rfl
  | cons c left =>
      obtain rfl := Option.some.inj hhead
      exact absurd List.mem_cons_self hleft

/-- Words behind a name are spoken, unless the name makes something else of the line. -/
theorem reads_utterance (h : Prose spoken) {name : List Char}
    (hplain : Plain (trimStart name ++ [':'])) (hname : (trimStart name ++ [':']).head? ≠ some ':') :
    ∃ speaker text, Reads true (name ++ ':' :: ' ' :: spoken) (some (.utterance speaker text)) := by
  have htrims := trims_speech h name
  obtain ⟨left, right, hparts⟩ :
      ∃ left right, Parts (trimStart name ++ ':' :: ' ' :: spoken) left right :=
    exists_parts (by simp)
  obtain ⟨between, hopening, rfl⟩ := hparts.exists_append
  have hspeaker : trim left ≠ [] := by
    cases left with
    | nil =>
        rw [hopening.2] at hname
        exact absurd rfl hname
    | cons c left =>
        obtain ⟨-, -, -, -, -, hhead, -⟩ := htrims
        have hc : isBlank c = false := hhead c (by rw [hparts.2]; rfl)
        exact List.ne_nil_of_mem
          (Text.mem_of_trims (Text.trims_trim (c :: left)) hc List.mem_cons_self)
  have hspoken : trim (between ++ ' ' :: spoken) ≠ [] := by
    obtain ⟨c, hc, hletter⟩ := h.letter
    exact List.ne_nil_of_mem
      (Text.mem_of_trims (Text.trims_trim _) (not_blank_of_letter hletter) (by simp [hc]))
  exact ⟨_, _, _, htrims, .utterance (plain_append_colon.2 hplain) hparts (Text.trims_trim left)
    (Text.trims_trim _) hspeaker hspoken⟩

theorem introduces_of_says (h : Prose spoken) {name : List Char} {said : Option Event}
    (hsaid : Says true (trimStart name ++ ':' :: ' ' :: spoken) said) : Introduces name := by
  have hhead := head?_append_colon (trimStart name) (' ' :: spoken)
  generalize hline : trimStart name ++ ':' :: ' ' :: spoken = line at hsaid hhead
  cases hsaid with
  | blank => simp at hline
  | comment => exact .inl hhead.symm
  | directive => exact .inr (.inl hhead.symm)
  | pause _ hparts hamount =>
      subst hline
      obtain ⟨between, -, rfl⟩ := hparts.exists_append
      exact absurd hamount (h.not_amount between _)
  | effect _ hparts hwords hsets =>
      subst hline
      obtain ⟨between, -, rfl⟩ := hparts.exists_append
      exact absurd hsets (h.not_settings hwords)
  | utterance hplain hparts hspeaker _ hsome =>
      subst hline
      refine .inr (.inr ⟨plain_append_colon.1 hplain, fun hcolon => hsome ?_⟩)
      rw [hparts.left_eq_nil (hhead.trans hcolon)] at hspeaker
      exact (Text.trim_of_trims hspeaker).symm

/-- Whether a line with prose in it is well-formed is a matter of the name alone. -/
theorem wellFormed_speech_iff (h : Prose spoken) {name : List Char} :
    WellFormed (name ++ ':' :: ' ' :: spoken) ↔ Introduces name := by
  rw [wellFormed_iff_of_trims (trims_speech h name)]
  have hhead := head?_append_colon (trimStart name) (' ' :: spoken)
  constructor
  · rintro ⟨said, hsaid⟩
    exact introduces_of_says h hsaid
  · rintro (hcomment | hdirective | ⟨hplain, hname⟩)
    · obtain ⟨rest, hrest⟩ := List.head?_eq_some_iff.1 (hhead.trans hcomment)
      exact ⟨none, hrest ▸ .comment⟩
    · obtain ⟨rest, hrest⟩ := List.head?_eq_some_iff.1 (hhead.trans hdirective)
      have hcolon : ':' ∈ '@' :: rest := hrest ▸ (by simp)
      obtain ⟨left, right, hparts⟩ := exists_parts (List.mem_of_ne_of_mem (by decide) hcolon)
      rw [hrest]
      exact ⟨_, .directive hparts (Text.trims_trim left) (Text.trims_trim right)⟩
    · obtain ⟨speaker, text, line, htrims, hsaid⟩ := reads_utterance h hplain hname
      rw [← Text.trim_of_trims htrims, Text.trim_of_trims (trims_speech h name)] at hsaid
      exact ⟨_, hsaid⟩

end Script

end StoryMix
