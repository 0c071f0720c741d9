/-!
# Cutting texts

Cutting a text at separators. A text is a list of characters here; `joined_cut` says that nothing
but the separators is lost, and `splitFirst_eq_some` that the cut is at the first one.
-/

namespace StoryMix.Text

variable {α : Type}

/-- Applies `f` to the first member of a list. -/
def onHead (f : α → α) : List α → List α
  | [] => []
  | x :: xs => f x :: xs

/-- Cuts a text at every character that `p` accepts. The separators are dropped, empty pieces are
kept, and there is always at least one piece. -/
def cut (p : Char → Bool) : List Char → List (List Char)
  | [] => [[]]
  | c :: cs => if p c then [] :: cut p cs else onHead (c :: ·) (cut p cs)

/-- The text before the first `sep` and the text after it. -/
def splitFirst (sep : Char) : List Char → Option (List Char × List Char)
  | [] => none
  | c :: cs =>
    if c = sep then some ([], cs)
    else (splitFirst sep cs).map fun (left, right) => (c :: left, right)

/-- The texts with a separator between neighbours. -/
def joined (sep : List Char) : List (List Char) → List Char
  | [] => []
  | [t] => t
  | t :: ts => t ++ sep ++ joined sep ts

theorem cut_ne_nil (p : Char → Bool) : ∀ cs, cut p cs ≠ []
  | [] => by simp [cut]
  | c :: cs => by
    unfold cut
    split
    · simp
    · cases h : cut p cs with
      | nil => exact absurd h (cut_ne_nil p cs)
      | cons => simp [onHead]

/-- No piece holds a separator. -/
theorem of_mem_cut {p : Char → Bool} :
    ∀ {cs piece : List Char}, piece ∈ cut p cs → ∀ c ∈ piece, p c = false
  | [], piece, hp, c, hc => by
    simp only [cut, List.mem_singleton] at hp
    simp [hp] at hc
  | d :: cs, piece, hp, c, hc => by
    unfold cut at hp
    split at hp
    · rcases List.mem_cons.1 hp with rfl | hp
      · simp at hc
      · exact of_mem_cut hp c hc
    · rename_i hd
      cases h : cut p cs with
      | nil => exact absurd h (cut_ne_nil p cs)
      | cons t ts =>
        rw [h, onHead] at hp
        rcases List.mem_cons.1 hp with rfl | hp
        · rcases List.mem_cons.1 hc with rfl | hc
          · simpa using hd
          · have ht : t ∈ cut p cs := by rw [h]; exact List.mem_cons_self
            exact of_mem_cut ht c hc
        · have hts : piece ∈ cut p cs := by rw [h]; exact List.mem_cons_of_mem t hp
          exact of_mem_cut hts c hc

/-- A text is its pieces with the separator between them. -/
theorem joined_cut (sep : Char) : ∀ cs, joined [sep] (cut (· == sep) cs) = cs
  | [] => rfl
  | c :: cs => by
    have ih := joined_cut sep cs
    unfold cut
    cases h : cut (· == sep) cs with
    | nil => exact absurd h (cut_ne_nil _ cs)
    | cons t ts =>
      rw [h] at ih
      split
      · rename_i hc
        simp only [joined, ih, List.nil_append, List.singleton_append]
        rw [eq_of_beq hc]
      · cases ts with
        | nil => rw [← ih]; rfl
        | cons u us => rw [← ih]; rfl

/-- The first piece holds no separator, and the two pieces with one between them are the text. -/
theorem splitFirst_eq_some {sep : Char} {left right : List Char} :
    ∀ {cs : List Char}, splitFirst sep cs = some (left, right) ↔
      sep ∉ left ∧ cs = left ++ sep :: right
  | [] => by simp [splitFirst]
  | c :: cs => by
    unfold splitFirst
    split
    · rename_i hc
      subst hc
      constructor
      · intro h
        simp only [Option.some.injEq, Prod.mk.injEq] at h
        obtain ⟨rfl, rfl⟩ := h
        simp
      · rintro ⟨hl, h⟩
        cases left with
        | nil => simpa using h
        | cons d ds => simp only [List.cons_append, List.cons.injEq] at h; simp [h.1] at hl
    · rename_i hc
      simp only [Option.map_eq_some_iff, Prod.exists, Prod.mk.injEq]
      constructor
      · rintro ⟨l, r, h, rfl, rfl⟩
        obtain ⟨hl, rfl⟩ := splitFirst_eq_some.1 h
        simp [hl, Ne.symm hc]
      · rintro ⟨hl, h⟩
        cases left with
        | nil => simp only [List.nil_append, List.cons.injEq] at h; exact absurd h.1 hc
        | cons d ds =>
          simp only [List.cons_append, List.cons.injEq] at h
          simp only [List.mem_cons, not_or] at hl
          exact ⟨ds, right, splitFirst_eq_some.2 ⟨hl.2, h.2⟩, by simp [h.1]⟩

theorem splitFirst_eq_none {sep : Char} : ∀ {cs : List Char}, splitFirst sep cs = none ↔ sep ∉ cs
  | [] => by simp [splitFirst]
  | c :: cs => by
    unfold splitFirst
    split
    · rename_i hc; simp [hc]
    · rename_i hc
      simp [Option.map_eq_none_iff, splitFirst_eq_none, Ne.symm hc]

end StoryMix.Text
