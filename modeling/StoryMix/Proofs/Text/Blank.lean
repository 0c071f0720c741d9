import Mathlib.Data.List.DropRight
import StoryMix.Text.Blank

/-!
# Trimmed texts and words

What is left of a trimmed text and which words a text has, said without the functions that find them:
a text is blanks, its trimmed core, and blanks again, and the core has no blank at its ends; a word is a
run of characters other than blanks that has a blank, or an end of the text, on either side.
-/

namespace StoryMix.Text

/-! ## Trimming -/

/-- The core is the text without the blanks at its ends. -/
def Trims (cs core : List Char) : Prop :=
  ∃ before after, cs = before ++ core ++ after
    ∧ (∀ c ∈ before, isBlank c = true) ∧ (∀ c ∈ after, isBlank c = true)
    ∧ (∀ c ∈ core.head?, isBlank c = false) ∧ (∀ c ∈ core.getLast?, isBlank c = false)

theorem trimEnd_append {core after : List Char} (hafter : ∀ c ∈ after, isBlank c = true)
    (hlast : ∀ c ∈ core.getLast?, isBlank c = false) : trimEnd (core ++ after) = core := by
  have hall : ∀ c ∈ after.reverse, isBlank c = true :=
    fun c hc => hafter c (List.mem_reverse.1 hc)
  rw [trimEnd, List.reverse_append, List.dropWhile_append_of_pos hall]
  cases hcore : core.reverse with
  | nil => rw [List.reverse_eq_nil_iff.1 hcore]; rfl
  | cons c rest =>
      have hc : isBlank c = false := by
        refine hlast c ?_
        rw [List.getLast?_eq_head?_reverse, hcore]
        rfl
      rw [List.dropWhile_cons_of_neg (by simp [hc]), ← hcore, List.reverse_reverse]

theorem trims_trim (cs : List Char) : Trims cs (trim cs) := by
  refine ⟨cs.takeWhile isBlank, (trimStart cs).rtakeWhile isBlank, ?_, ?_, ?_, ?_, ?_⟩
  · rw [List.append_assoc]
    change cs = _ ++ ((trimStart cs).rdropWhile isBlank ++ (trimStart cs).rtakeWhile isBlank)
    rw [List.rdropWhile, List.rtakeWhile, ← List.reverse_append, List.takeWhile_append_dropWhile,
      List.reverse_reverse, trimStart, List.takeWhile_append_dropWhile]
  · exact fun c hc => List.mem_takeWhile_imp hc
  · exact fun c hc => List.mem_rtakeWhile_imp hc
  · intro c hc
    have hbegins : trim cs <+: trimStart cs := List.rdropWhile_prefix isBlank _
    obtain ⟨rest, hrest⟩ := hbegins
    have hhead : (cs.dropWhile isBlank).head? = some c := by
      change (trimStart cs).head? = some c
      rw [← hrest, List.head?_append, Option.mem_def.1 hc]
      rfl
    have hnot := List.head?_dropWhile_not isBlank cs
    rw [hhead] at hnot
    exact hnot
  · intro c hc
    have hne : trim cs ≠ [] := by
      rintro h
      rw [h] at hc
      cases hc
    have hlast := List.rdropWhile_last_not isBlank (trimStart cs) hne
    have hc' : (trim cs).getLast hne = c := by
      rw [List.getLast?_eq_some_getLast hne] at hc
      exact Option.some.inj hc
    rw [← hc']
    exact Bool.eq_false_iff.2 hlast

theorem trim_of_trims {cs core : List Char} (h : Trims cs core) : trim cs = core := by
  obtain ⟨before, after, rfl, hbefore, hafter, hhead, hlast⟩ := h
  rw [trim, trimStart, List.append_assoc, List.dropWhile_append_of_pos hbefore]
  cases core with
  | nil =>
      rw [List.nil_append, List.dropWhile_eq_nil_iff.2 hafter]
      rfl
  | cons c core =>
      have hc : isBlank c = false := hhead c rfl
      rw [List.cons_append, List.dropWhile_cons_of_neg (by simp [hc]), ← List.cons_append]
      exact trimEnd_append hafter hlast

theorem trim_eq_iff {cs core : List Char} : trim cs = core ↔ Trims cs core := by
  constructor
  · rintro rfl
    exact trims_trim cs
  · exact trim_of_trims

theorem head_of_trims {c : Char} {cs core : List Char} (h : Trims (c :: cs) core)
    (hc : isBlank c = false) : ∃ rest, core = c :: rest := by
  obtain ⟨before, after, hcs, hbefore, hafter, -, -⟩ := h
  cases before with
  | cons d before =>
      obtain rfl := (List.cons.inj hcs).1
      rw [hbefore c List.mem_cons_self] at hc
      cases hc
  | nil =>
      cases core with
      | nil =>
          rw [List.nil_append, List.nil_append] at hcs
          rw [hafter c (hcs ▸ List.mem_cons_self)] at hc
          cases hc
      | cons d core =>
          obtain rfl := (List.cons.inj hcs).1
          exact ⟨core, rfl⟩

theorem mem_of_trims {cs core : List Char} (h : Trims cs core) {c : Char} (hc : isBlank c = false)
    (hmem : c ∈ cs) : c ∈ core := by
  obtain ⟨before, after, rfl, hbefore, hafter, -, -⟩ := h
  rcases List.mem_append.1 hmem with hmem | hmem
  · rcases List.mem_append.1 hmem with hmem | hmem
    · rw [hbefore c hmem] at hc
      cases hc
    · exact hmem
  · rw [hafter c hmem] at hc
    cases hc

/-- A text that ends in a character other than a blank keeps all from its first such character. -/
theorem trims_append {cs ending : List Char} (hne : ending ≠ [])
    (hhead : ∀ c ∈ ending.head?, isBlank c = false)
    (hlast : ∀ c ∈ ending.getLast?, isBlank c = false) :
    Trims (cs ++ ending) (trimStart cs ++ ending) := by
  refine ⟨cs.takeWhile isBlank, [], ?_, fun c hc => List.mem_takeWhile_imp hc, nofun, ?_, ?_⟩
  · rw [List.append_nil, ← List.append_assoc, trimStart, List.takeWhile_append_dropWhile]
  · intro c hc
    cases hstart : trimStart cs with
    | nil =>
        rw [hstart, List.nil_append] at hc
        exact hhead c hc
    | cons d rest =>
        rw [hstart] at hc
        obtain rfl := Option.some.inj hc
        have hfirst : (cs.dropWhile isBlank).head? = some d := congrArg List.head? hstart
        have hnot := List.head?_dropWhile_not isBlank cs
        rw [hfirst] at hnot
        exact hnot
  · intro c hc
    rw [List.getLast?_append_of_ne_nil _ hne] at hc
    exact hlast c hc

/-- What is cut off the end of a text whose front has been cut. -/
theorem exists_trimStart_eq (cs : List Char) :
    ∃ after, trimStart cs = trim cs ++ after ∧ ∀ c ∈ after, isBlank c = true := by
  refine ⟨(trimStart cs).rtakeWhile isBlank, ?_, fun c hc => List.mem_rtakeWhile_imp hc⟩
  exact List.rdropWhile_append_rtakeWhile.symm

theorem trims_trimStart (cs : List Char) : Trims (trimStart cs) (trim cs) := by
  obtain ⟨after, hstart, hafter⟩ := exists_trimStart_eq cs
  obtain ⟨-, -, -, -, -, hhead, hlast⟩ := trims_trim cs
  exact ⟨[], after, hstart, nofun, hafter, hhead, hlast⟩

/-- Behind a front that neither begins nor ends with a blank, only the end of a text is cut. -/
theorem exists_trims_append {front : List Char} (hne : front ≠ [])
    (hhead : ∀ c ∈ front.head?, isBlank c = false) (hlast : ∀ c ∈ front.getLast?, isBlank c = false)
    (cs : List Char) : ∃ kept, Trims (front ++ cs) (front ++ kept) ∧ Trims kept (trim cs) := by
  obtain ⟨before, after, hcs, hbefore, hafter, hcorehead, hcorelast⟩ := trims_trim cs
  have hfirst (rest : List Char) : ∀ c ∈ (front ++ rest).head?, isBlank c = false := by
    intro c hc
    rw [List.head?_append_of_ne_nil _ hne] at hc
    exact hhead c hc
  by_cases hcore : trim cs = []
  · -- A text of blanks alone is cut off as a whole.
    refine ⟨[], ⟨[], cs, by simp, nofun, ?_, hfirst [], ?_⟩, ?_⟩
    · rw [hcs, hcore, List.append_nil]
      exact List.forall_mem_append.2 ⟨hbefore, hafter⟩
    · rwa [List.append_nil]
    · rw [hcore]
      exact trims_trim []
  · refine ⟨before ++ trim cs, ⟨[], after, ?_, nofun, hafter, hfirst _, ?_⟩,
      ⟨before, [], ?_, hbefore, nofun, hcorehead, hcorelast⟩⟩
    · rw [List.nil_append, List.append_assoc, ← hcs]
    · rw [← List.append_assoc]
      intro c hc
      rw [List.getLast?_append_of_ne_nil _ hcore] at hc
      exact hcorelast c hc
    · rw [List.append_nil]

theorem trims_cons {c : Char} (hc : isBlank c = true) {core : List Char}
    (hhead : ∀ d ∈ core.head?, isBlank d = false) (hlast : ∀ d ∈ core.getLast?, isBlank d = false) :
    Trims (c :: core) core :=
  ⟨[c], [], by simp, List.forall_mem_singleton.2 hc, nofun, hhead, hlast⟩

theorem trim_cons_blank {c : Char} (hc : isBlank c = true) (cs : List Char) :
    trim (c :: cs) = trim cs := by
  rw [trim, trim, trimStart, List.dropWhile_cons_of_pos hc]
  rfl

/-! ## Words -/

/-- The words of a text, each between blanks or ends of the text. -/
inductive Worded : List Char → List (List Char) → Prop
  | nil : Worded [] []
  | blank {c cs ws} : isBlank c = true → Worded cs ws → Worded (c :: cs) ws
  | last {word} : word ≠ [] → (∀ c ∈ word, isBlank c = false) → Worded word [word]
  | word {word c cs ws} : word ≠ [] → (∀ c ∈ word, isBlank c = false) → isBlank c = true →
      Worded cs ws → Worded (word ++ c :: cs) (word :: ws)

theorem cut_append_cons {p : Char → Bool} {piece : List Char} {c : Char} {cs : List Char}
    (hpiece : ∀ d ∈ piece, p d = false) (hc : p c = true) :
    cut p (piece ++ c :: cs) = piece :: cut p cs := by
  induction piece with
  | nil => rw [List.nil_append, cut, if_pos hc]
  | cons d piece ih =>
      obtain ⟨hd, hpiece⟩ := List.forall_mem_cons.1 hpiece
      rw [List.cons_append, cut, if_neg (by simp [hd]), ih hpiece]
      rfl

theorem cut_of_forall {p : Char → Bool} {piece : List Char} (hpiece : ∀ d ∈ piece, p d = false) :
    cut p piece = [piece] := by
  induction piece with
  | nil => rfl
  | cons d piece ih =>
      obtain ⟨hd, hpiece⟩ := List.forall_mem_cons.1 hpiece
      rw [cut, if_neg (by simp [hd]), ih hpiece]
      rfl

theorem words_append_cons {word : List Char} {c : Char} {cs : List Char}
    (hword : ∀ d ∈ word, isBlank d = false) (hc : isBlank c = true) :
    words (word ++ c :: cs) = if word = [] then words cs else word :: words cs := by
  rw [words, cut_append_cons hword hc]
  by_cases h : word = [] <;> simp [h, words]

theorem words_append_blank {c : Char} (hc : isBlank c = true) (xs ys : List Char) :
    words (xs ++ c :: ys) = words xs ++ words ys := by
  have hcut (xs : List Char) : cut isBlank (xs ++ c :: ys) = cut isBlank xs ++ cut isBlank ys := by
    induction xs with
    | nil => exact if_pos hc
    | cons d xs ih =>
        rw [List.cons_append, cut, cut, ih]
        split
        · rfl
        · cases h : cut isBlank xs with
          | nil => exact absurd h (cut_ne_nil isBlank xs)
          | cons piece pieces => rfl
  rw [words, hcut, List.filter_append]
  rfl

theorem words_of_forall {word : List Char} (hword : ∀ d ∈ word, isBlank d = false) :
    words word = if word = [] then [] else [word] := by
  rw [words, cut_of_forall hword]
  by_cases h : word = [] <;> simp [h]

theorem length_words_cons (c : Char) (cs : List Char) :
    (words cs).length ≤ (words (c :: cs)).length := by
  rw [words, words, cut]
  split
  · simp
  · obtain ⟨piece, pieces, hcut⟩ := List.exists_cons_of_ne_nil (cut_ne_nil isBlank cs)
    rw [hcut]
    by_cases hpiece : piece = [] <;> simp [onHead, hpiece]

theorem words_of_worded {cs : List Char} {ws : List (List Char)} (h : Worded cs ws) :
    words cs = ws := by
  induction h with
  | nil => rfl
  | blank hc _ ih => exact (@words_append_cons [] _ _ nofun hc).trans ih
  | last hne hword => rw [words_of_forall hword, if_neg hne]
  | word hne hword hc _ ih => rw [words_append_cons hword hc, if_neg hne, ih]

/-- The induction goes along the text; `word` is what has been read of a word so far. -/
theorem worded_words_append {word : List Char} (hword : ∀ d ∈ word, isBlank d = false)
    (cs : List Char) : Worded (word ++ cs) (words (word ++ cs)) := by
  induction cs generalizing word with
  | nil =>
      rw [List.append_nil, words_of_forall hword]
      split
      · rename_i h
        rw [h]
        exact .nil
      · exact .last ‹_› hword
  | cons c cs ih =>
      by_cases hc : isBlank c = true
      · have hrest : Worded cs (words cs) := @ih [] nofun
        rw [words_append_cons hword hc]
        split
        · rename_i h
          rw [h]
          exact .blank hc hrest
        · exact .word ‹_› hword hc hrest
      · have hlonger : ∀ d ∈ word ++ [c], isBlank d = false := by
          intro d hd
          rcases List.mem_append.1 hd with hd | hd
          · exact hword d hd
          · rw [List.mem_singleton.1 hd]
            exact Bool.eq_false_iff.2 hc
        simpa using ih hlonger

theorem mem_of_worded {cs : List Char} {ws : List (List Char)} (h : Worded cs ws) :
    ∀ word ∈ ws, ∀ c ∈ word, c ∈ cs := by
  induction h with
  | nil => exact nofun
  | blank _ _ ih => exact fun word hword c hc => List.mem_cons_of_mem _ (ih word hword c hc)
  | last _ _ =>
      intro word hword c hc
      rwa [List.mem_singleton.1 hword] at hc
  | word _ _ _ _ ih =>
      intro word hword c hc
      rcases List.mem_cons.1 hword with rfl | hword
      · exact List.mem_append_left _ hc
      · exact List.mem_append_right _ (List.mem_cons_of_mem _ (ih word hword c hc))

theorem words_eq_iff {cs : List Char} {ws : List (List Char)} : words cs = ws ↔ Worded cs ws := by
  constructor
  · rintro rfl
    exact @worded_words_append [] nofun cs
  · exact words_of_worded

end StoryMix.Text
