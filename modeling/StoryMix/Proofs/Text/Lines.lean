import StoryMix.Text.Lines

/-!
# What the lines of a text are

A text is its lines with a line end between neighbours. The ends can be of three kinds, and a carriage
return right before a line feed belongs to the same end as it. `lines_eq_iff` says that this fixes the
lines; so a text that is put together from lines has these lines again, whatever kind of end was used.
-/

namespace StoryMix.Text

/-- No line of a text holds such a character. -/
def EndsLine (c : Char) : Prop :=
  c = '\r' ∨ c = '\n'

/-- The text stays on its line. -/
def Unbroken (cs : List Char) : Prop :=
  ∀ c ∈ cs, ¬ EndsLine c

instance (c : Char) : Decidable (EndsLine c) :=
  inferInstanceAs (Decidable (c = '\r' ∨ c = '\n'))

instance (cs : List Char) : Decidable (Unbroken cs) :=
  @List.decidableBAll _ (fun c => ¬ EndsLine c) _ cs

theorem unbroken_append {xs ys : List Char} :
    Unbroken (xs ++ ys) ↔ Unbroken xs ∧ Unbroken ys :=
  List.forall_mem_append

theorem unbroken_cons {c : Char} {cs : List Char} :
    Unbroken (c :: cs) ↔ ¬ EndsLine c ∧ Unbroken cs :=
  List.forall_mem_cons

inductive LineEnd : List Char → Prop
  | both : LineEnd ['\r', '\n']
  | carriageReturn : LineEnd ['\r']
  | lineFeed : LineEnd ['\n']

/-- The text is these lines with a line end between neighbours. -/
inductive Ruled : List Char → List (List Char) → Prop
  | last {line} : (∀ c ∈ line, ¬ EndsLine c) → Ruled line [line]
  | more {line lineEnd rest ls} :
      (∀ c ∈ line, ¬ EndsLine c) → LineEnd lineEnd →
      (lineEnd = ['\r'] → rest.head? ≠ some '\n') → Ruled rest ls →
      Ruled (line ++ lineEnd ++ rest) (line :: ls)

/-! ## What the function does at each kind of character -/

theorem lines_cons {c : Char} (hc : ¬ EndsLine c) (cs : List Char) :
    lines (c :: cs) = onHead (c :: ·) (lines cs) := by
  have hreturn : c ≠ '\r' := fun h => hc (.inl h)
  rw [lines]
  · exact if_neg hc
  · exact fun _ h => absurd h hreturn

theorem lines_lineFeed (cs : List Char) : lines ('\n' :: cs) = [] :: lines cs := by
  rw [lines]
  · exact if_pos (.inr rfl)
  · exact nofun

theorem lines_carriageReturn {cs : List Char} (h : cs.head? ≠ some '\n') :
    lines ('\r' :: cs) = [] :: lines cs := by
  rw [lines]
  · exact if_pos (.inl rfl)
  · rintro _ - rfl
    exact h rfl

theorem lines_append {line : List Char} (hline : ∀ c ∈ line, ¬ EndsLine c) {cs first : List Char}
    {ls : List (List Char)} (h : lines cs = first :: ls) :
    lines (line ++ cs) = (line ++ first) :: ls := by
  induction line with
  | nil => exact h
  | cons c line ih =>
      obtain ⟨hc, hline⟩ := List.forall_mem_cons.1 hline
      rw [List.cons_append, lines_cons hc, ih hline]
      rfl

theorem lines_lineEnd {lineEnd rest : List Char} (he : LineEnd lineEnd)
    (hrest : lineEnd = ['\r'] → rest.head? ≠ some '\n') :
    lines (lineEnd ++ rest) = [] :: lines rest := by
  cases he with
  | both => rfl
  | carriageReturn => exact lines_carriageReturn (hrest rfl)
  | lineFeed => exact lines_lineFeed rest

/-! ## The lines are those of the ruling -/

theorem Ruled.cons {c : Char} {cs : List Char} {ls : List (List Char)} (hc : ¬ EndsLine c)
    (h : Ruled cs ls) : Ruled (c :: cs) (onHead (c :: ·) ls) := by
  cases h with
  | last hline => exact .last (List.forall_mem_cons.2 ⟨hc, hline⟩)
  | more hline he hrest h => exact .more (List.forall_mem_cons.2 ⟨hc, hline⟩) he hrest h

theorem ruled_lines (cs : List Char) : Ruled cs (lines cs) := by
  fun_induction lines cs with
  | case1 => exact .last nofun
  | case2 cs ih => exact @Ruled.more [] _ _ _ nofun .both nofun ih
  | case3 c cs hboth hc ih =>
      rcases hc with rfl | rfl
      · refine @Ruled.more [] _ _ _ nofun .carriageReturn (fun _ hhead => ?_) ih
        obtain ⟨rest, rfl⟩ := List.head?_eq_some_iff.1 hhead
        exact hboth rest rfl rfl
      · exact @Ruled.more [] _ _ _ nofun .lineFeed nofun ih
  | case4 c cs hboth hc ih => exact ih.cons hc

theorem lines_of_ruled {cs : List Char} {ls : List (List Char)} (h : Ruled cs ls) :
    lines cs = ls := by
  induction h with
  | last hline => simpa using @lines_append _ hline [] _ _ rfl
  | more hline he hrest _ ih =>
      rw [List.append_assoc, lines_append hline (lines_lineEnd he hrest), ih, List.append_nil]

theorem lines_eq_iff {cs : List Char} {ls : List (List Char)} : lines cs = ls ↔ Ruled cs ls := by
  constructor
  · rintro rfl
    exact ruled_lines cs
  · exact lines_of_ruled

/-! ## Texts one after the other -/

/-- The last line of the first text and the first line of the second become one, unless the two texts
share a line end. -/
theorem lines_append_of_ruled {xs ys : List Char} {ls : List (List Char)} (hxs : Ruled xs ls)
    (h : xs.getLast? = some '\r' → ys.head? ≠ some '\n') {before : List (List Char)}
    {last first : List Char} {after : List (List Char)} (hls : ls = before ++ [last])
    (hys : lines ys = first :: after) :
    lines (xs ++ ys) = before ++ (last ++ first) :: after := by
  induction hxs generalizing before with
  | last hline =>
      obtain ⟨rfl, rfl⟩ : before = [] ∧ _ = last := by
        simpa [eq_comm] using List.append_eq_singleton_iff.1 hls.symm
      exact lines_append hline hys
  | @more line lineEnd rest ls hline he hrest hruled ih =>
      have hne : ls ≠ [] := by
        rintro rfl
        cases hruled
      cases before with
      | nil => exact absurd (List.cons.inj hls).2 hne
      | cons line' before =>
          obtain ⟨rfl, htail⟩ := List.cons.inj hls
          have hrest' : lineEnd = ['\r'] → (rest ++ ys).head? ≠ some '\n' := by
            intro hreturn
            cases rest with
            | nil =>
                refine h ?_
                rw [List.append_nil, hreturn, List.getLast?_concat]
            | cons c rest => exact hrest hreturn
          have hlast : rest.getLast? = some '\r' → ys.head? ≠ some '\n' := by
            intro hreturn
            refine h ?_
            rw [List.getLast?_append, hreturn]
            rfl
          have hlines := lines_lineEnd he hrest'
          rw [ih hlast htail] at hlines
          rw [List.append_assoc, List.append_assoc, lines_append hline hlines, List.append_nil]
          rfl

theorem lines_ne_nil (cs : List Char) : lines cs ≠ [] := by
  intro h
  have hruled := ruled_lines cs
  rw [h] at hruled
  cases hruled

theorem exists_last_line (cs : List Char) : ∃ before last, lines cs = before ++ [last] :=
  ⟨_, _, (List.dropLast_concat_getLast (lines_ne_nil cs)).symm⟩

/-- What follows a text on its last line. -/
theorem lines_append_line {xs line : List Char} (hline : ∀ c ∈ line, ¬ EndsLine c)
    {before : List (List Char)} {last : List Char} (hxs : lines xs = before ++ [last]) :
    lines (xs ++ line) = before ++ [last ++ line] := by
  have hhead : line.head? ≠ some '\n' := fun h => hline '\n' (List.mem_of_head? h) (.inr rfl)
  exact lines_append_of_ruled (ruled_lines xs) (fun _ => hhead) hxs (lines_of_ruled (.last hline))

/-- A line feed between two texts is a line end of its own. -/
theorem lines_append_lineFeed {xs : List Char} (h : xs.getLast? ≠ some '\r') (ys : List Char) :
    lines (xs ++ '\n' :: ys) = lines xs ++ lines ys := by
  obtain ⟨before, last, hxs⟩ := exists_last_line xs
  rw [lines_append_of_ruled (ruled_lines xs) (absurd · h) hxs (lines_lineFeed ys), hxs,
    List.append_nil, List.append_cons]

/-- A line feed ends the last line of a text, or belongs to the line end that the text closes with. So
a property that an empty line has anyway is one of the lines on either side. -/
theorem forall_lines_append_lineFeed {p : List Char → Prop} (hempty : p []) (xs ys : List Char) :
    (∀ line ∈ lines (xs ++ '\n' :: ys), p line) ↔
      (∀ line ∈ lines xs, p line) ∧ ∀ line ∈ lines ys, p line := by
  by_cases hreturn : xs.getLast? = some '\r'
  · obtain ⟨front, rfl⟩ := List.getLast?_eq_some_iff.1 hreturn
    obtain ⟨before, last, hfront⟩ := exists_last_line front
    have happend {zs : List Char} {ls : List (List Char)} (hzs : lines ('\r' :: zs) = [] :: ls) :
        lines (front ++ '\r' :: zs) = before ++ last :: ls := by
      have hhead : ('\r' :: zs).head? ≠ some '\n' := by simp
      rw [lines_append_of_ruled (ruled_lines front) (fun _ => hhead) hfront hzs, List.append_nil]
    have hlines : lines (front ++ ['\r'] ++ '\n' :: ys) = before ++ last :: lines ys := by
      rw [List.append_assoc]
      exact happend rfl
    rw [hlines, @happend [] [[]] rfl]
    simp only [List.forall_mem_append, List.forall_mem_cons]
    constructor
    · rintro ⟨hbefore, hlast, hys⟩
      exact ⟨⟨hbefore, hlast, hempty, nofun⟩, hys⟩
    · rintro ⟨⟨hbefore, hlast, -⟩, hys⟩
      exact ⟨hbefore, hlast, hys⟩
  · rw [lines_append_lineFeed hreturn]
    exact List.forall_mem_append

/-! ## Texts put together from lines -/

theorem not_mem_joined {c : Char} {sep : List Char} {ls : List (List Char)} (hsep : c ∉ sep)
    (hls : ∀ line ∈ ls, c ∉ line) : c ∉ joined sep ls := by
  induction ls with
  | nil => exact List.not_mem_nil
  | cons line ls ih =>
      obtain ⟨hline, hls⟩ := List.forall_mem_cons.1 hls
      cases ls with
      | nil => exact hline
      | cons next ls =>
          simp only [joined, List.mem_append, not_or]
          exact ⟨⟨hline, hsep⟩, ih hls⟩

theorem ruled_joined {lineEnd : List Char} {ls : List (List Char)} (he : LineEnd lineEnd)
    (hls : ∀ line ∈ ls, ∀ c ∈ line, ¬ EndsLine c) (hne : ls ≠ []) :
    Ruled (joined lineEnd ls) ls := by
  induction ls with
  | nil => exact absurd rfl hne
  | cons line ls ih =>
      obtain ⟨hline, hls⟩ := List.forall_mem_cons.1 hls
      cases ls with
      | nil => exact .last hline
      | cons next ls =>
          refine .more hline he ?_ (ih hls (List.cons_ne_nil next ls))
          -- After a lone carriage return no line feed can come: it would stand in the next line.
          rintro rfl hhead
          have hfeed : '\n' ∈ joined ['\r'] (next :: ls) := List.mem_of_head? hhead
          exact not_mem_joined (by decide) (fun l hl hmem => hls l hl '\n' hmem (.inr rfl)) hfeed

/-- Put together with line ends of one kind, lines read back the same whichever kind it is. -/
theorem lines_joined {lineEnd : List Char} {ls : List (List Char)} (he : LineEnd lineEnd)
    (hls : ∀ line ∈ ls, ∀ c ∈ line, ¬ EndsLine c) (hne : ls ≠ []) :
    lines (joined lineEnd ls) = ls :=
  lines_of_ruled (ruled_joined he hls hne)

end StoryMix.Text
