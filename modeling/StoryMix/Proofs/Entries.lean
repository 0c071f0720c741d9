import Mathlib.Data.List.Nodup
import StoryMix.Entries
import StoryMix.Proofs.Numeral.Text

/-!
# Entries in order

The order in which entries are gone through does not depend on the order in which entries with the
names of places were set, only on the others. So a list that is gone through in order and set again,
entry by entry, comes to the same in the end (`inOrder_putAll_inOrder`). Lists of entries have each
name once here, and then an entry is in the list just when its name gives it (`mem_iff_lookup`).
-/

namespace StoryMix.Entries

variable {α : Type} {entries xs ys : List (String × α)}

/-- Each name stands in the list once. -/
def Distinct (entries : List (String × α)) : Prop :=
  (entries.map Prod.fst).Nodup

/-- Sets entries one after the other. -/
def putAll (entries xs : List (String × α)) : List (String × α) :=
  xs.foldl (fun entries e => put entries e.1 e.2) entries

/-! ## Lookups -/

theorem lookup_of_not_mem {name : String} (h : name ∉ entries.map Prod.fst) :
    entries.lookup name = none := by
  rw [← Option.not_isSome_iff_eq_none, isSome_lookup]
  intro hany
  obtain ⟨e, he, heq⟩ := List.any_eq_true.1 hany
  exact h (eq_of_beq heq ▸ List.mem_map_of_mem he)

theorem mem_iff_lookup (h : Distinct entries) {name : String} {v : α} :
    (name, v) ∈ entries ↔ entries.lookup name = some v := by
  constructor
  · intro hmem
    induction entries with
    | nil => cases hmem
    | cons e entries ih =>
        obtain ⟨hnot, hrest⟩ := List.nodup_cons.1 h
        rcases List.mem_cons.1 hmem with rfl | hmem
        · exact List.lookup_cons_self
        · have hne : name ≠ e.1 := by
            rintro rfl
            exact hnot (List.mem_map.2 ⟨_, hmem, rfl⟩)
          rw [List.lookup_cons, beq_eq_false_iff_ne.2 hne]
          exact ih hrest hmem
  · intro hlookup
    obtain ⟨before, after, rfl, -⟩ := List.lookup_eq_some_iff.1 hlookup
    simp

theorem perm_of_lookup (hxs : Distinct xs) (hys : Distinct ys)
    (h : ∀ name, xs.lookup name = ys.lookup name) : xs.Perm ys := by
  refine (List.perm_ext_iff_of_nodup (List.Nodup.of_map _ hxs) (List.Nodup.of_map _ hys)).2 ?_
  rintro ⟨name, v⟩
  rw [mem_iff_lookup hxs, mem_iff_lookup hys, h]

theorem lookup_eq_of_perm (hxs : Distinct xs) (h : xs.Perm ys) (name : String) :
    xs.lookup name = ys.lookup name := by
  have hys : Distinct ys := (h.map Prod.fst).nodup_iff.1 hxs
  refine Option.ext fun v => ?_
  rw [← mem_iff_lookup hxs, ← mem_iff_lookup hys, h.mem_iff]

theorem mem_put {name : String} {v : α} {e : String × α} (h : e ∈ put entries name v) :
    e ∈ entries ∨ e = (name, v) := by
  unfold put at h
  split at h
  · obtain ⟨old, hold, rfl⟩ := List.mem_map.1 h
    split
    · exact .inr rfl
    · exact .inl hold
  · rcases List.mem_append.1 h with h | h
    · exact .inl h
    · exact .inr (List.mem_singleton.1 h)

theorem names_replaced (entries : List (String × α)) (name : String) (v : α) :
    (entries.map fun e => if e.1 == name then (name, v) else e).map Prod.fst = entries.map Prod.fst := by
  rw [List.map_map]
  refine List.map_congr_left fun e _ => ?_
  by_cases he : e.1 = name <;> simp [he]

theorem distinct_put (h : Distinct entries) (name : String) (v : α) :
    Distinct (put entries name v) := by
  unfold put Distinct
  split
  · rw [names_replaced]
    exact h
  · rename_i hnew
    rw [List.map_append, List.map_singleton]
    refine List.nodup_append.2 ⟨h, List.nodup_singleton name, ?_⟩
    intro other hother _ hname
    obtain ⟨e, he, rfl⟩ := List.mem_map.1 hother
    rw [List.mem_singleton.1 hname]
    exact fun heq => hnew (List.any_eq_true.2 ⟨e, he, beq_iff_eq.2 heq⟩)

theorem distinct_putAll (h : Distinct entries) (xs : List (String × α)) :
    Distinct (putAll entries xs) := by
  induction xs generalizing entries with
  | nil => exact h
  | cons x xs ih => exact ih (distinct_put h x.1 x.2)

/-- Where each name is set once, the entries that are set come first in a lookup. -/
theorem lookup_putAll (hxs : Distinct xs) (name : String) :
    (putAll entries xs).lookup name = (xs.lookup name).or (entries.lookup name) := by
  induction xs generalizing entries with
  | nil => rfl
  | cons x xs ih =>
      obtain ⟨hnot, hrest⟩ := List.nodup_cons.1 hxs
      change (putAll (put entries x.1 x.2) xs).lookup name = _
      rw [ih hrest, lookup_put, List.lookup_cons]
      by_cases hname : name = x.1
      · rw [lookup_of_not_mem (hname ▸ hnot), if_pos hname, beq_iff_eq.2 hname]
        rfl
      · rw [if_neg hname, beq_eq_false_iff_ne.2 hname]

/-- What the entries hold does not count for where they are set. -/
theorem put_map {β : Type} (f : α → β) (entries : List (String × α)) (name : String) (v : α) :
    put (entries.map fun e => (e.1, f e.2)) name (f v) =
      (put entries name v).map fun e => (e.1, f e.2) := by
  have hany : (entries.map fun e => (e.1, f e.2)).any (·.1 == name) = entries.any (·.1 == name) :=
    List.any_map
  unfold put
  rw [hany]
  split
  · rw [List.map_map, List.map_map]
    refine List.map_congr_left fun e _ => ?_
    by_cases he : e.1 = name <;> simp [he]
  · rw [List.map_append]
    rfl

theorem putAll_map {β : Type} (f : α → β) (entries xs : List (String × α)) :
    putAll (entries.map fun e => (e.1, f e.2)) (xs.map fun e => (e.1, f e.2)) =
      (putAll entries xs).map fun e => (e.1, f e.2) := by
  induction xs generalizing entries with
  | nil => rfl
  | cons x xs ih =>
      change putAll (put (entries.map fun e => (e.1, f e.2)) x.1 (f x.2)) _ = _
      rw [put_map]
      exact ih _

theorem names_map {β : Type} (f : α → β) (entries : List (String × α)) :
    (entries.map fun e => (e.1, f e.2)).map Prod.fst = entries.map Prod.fst := by
  rw [List.map_map]
  rfl

theorem distinct_map {β : Type} (h : Distinct entries) (f : α → β) :
    Distinct (entries.map fun e => (e.1, f e.2)) := by
  rw [Distinct, names_map]
  exact h

/-! ## Setting entries again -/

theorem put_cons_of_ne {e : String × α} {name : String} (h : e.1 ≠ name) (entries : List (String × α))
    (v : α) : put (e :: entries) name v = e :: put entries name v := by
  unfold put
  rw [List.any_cons, beq_eq_false_iff_ne.2 h, Bool.false_or]
  split
  · rw [List.map_cons, beq_eq_false_iff_ne.2 h]
    rfl
  · rfl

theorem put_cons_self {name : String} (h : name ∉ entries.map Prod.fst) (v w : α) :
    put ((name, v) :: entries) name w = (name, w) :: entries := by
  have hothers : (entries.map fun e => if e.1 == name then (name, w) else e) = entries := by
    refine (List.map_congr_left fun e he => ?_).trans (List.map_id _)
    have hne : e.1 ≠ name := fun heq => h (heq ▸ List.mem_map_of_mem he)
    rw [beq_eq_false_iff_ne.2 hne]
    rfl
  unfold put
  rw [List.any_cons, beq_self_eq_true, Bool.true_or, if_pos rfl, List.map_cons, hothers,
    beq_self_eq_true, if_pos rfl]

theorem putAll_cons_of_not_mem {e : String × α} (h : e.1 ∉ xs.map Prod.fst)
    (entries : List (String × α)) : putAll (e :: entries) xs = e :: putAll entries xs := by
  induction xs generalizing entries with
  | nil => rfl
  | cons x xs ih =>
      obtain ⟨hx, hxs⟩ := not_or.1 (fun hmem => h (List.mem_cons.2 hmem))
      change putAll (put (e :: entries) x.1 x.2) xs = _
      rw [put_cons_of_ne hx, ih hxs]
      rfl

/-- Entries whose names begin with those that are there take their places, one by one. -/
theorem putAll_of_prefix (hxs : Distinct xs) (h : entries.map Prod.fst <+: xs.map Prod.fst) :
    putAll entries xs = xs := by
  induction xs generalizing entries with
  | nil =>
      rw [List.map_nil, List.prefix_nil, List.map_eq_nil_iff] at h
      rw [h]
      rfl
  | cons x xs ih =>
      obtain ⟨hnot, hrest⟩ := List.nodup_cons.1 hxs
      have hput : ∃ others, put entries x.1 x.2 = x :: others ∧
          others.map Prod.fst <+: xs.map Prod.fst := by
        cases entries with
        | nil => exact ⟨[], rfl, List.nil_prefix⟩
        | cons e entries =>
            obtain ⟨name, v⟩ := e
            obtain ⟨rfl, hothers⟩ := List.cons_prefix_cons.1 h
            refine ⟨entries, put_cons_self (fun hmem => hnot (hothers.subset hmem)) _ _, hothers⟩
      obtain ⟨others, hput, hothers⟩ := hput
      change putAll (put entries x.1 x.2) xs = _
      rw [hput, putAll_cons_of_not_mem hnot, ih hrest hothers]

theorem prefix_names_put (entries : List (String × α)) (name : String) (v : α) :
    entries.map Prod.fst <+: (put entries name v).map Prod.fst := by
  unfold put
  split
  · exact ⟨[], (List.append_nil _).trans (names_replaced entries name v).symm⟩
  · rw [List.map_append]
    exact List.prefix_append _ _

theorem prefix_names_putAll (entries xs : List (String × α)) :
    entries.map Prod.fst <+: (putAll entries xs).map Prod.fst := by
  induction xs generalizing entries with
  | nil => exact List.prefix_refl _
  | cons x xs ih => exact (prefix_names_put entries x.1 x.2).trans (ih _)

/-! ## Entries of one kind -/

/-- Setting an entry leaves those of other kinds where they are. -/
theorem filter_put (p : String → Bool) (entries : List (String × α)) (name : String) (v : α) :
    (put entries name v).filter (fun e => p e.1) =
      if p name then put (entries.filter fun e => p e.1) name v
      else entries.filter fun e => p e.1 := by
  have hkept : ((fun e : String × α => p e.1) ∘ fun e => if e.1 == name then (name, v) else e) =
      fun e => p e.1 := by
    funext e
    by_cases he : e.1 = name <;> simp [he]
  have hany : (entries.filter fun e => p e.1).any (·.1 == name) =
      (p name && entries.any (·.1 == name)) := by
    rw [List.any_filter]
    cases hp : p name with
    | true =>
        refine congrArg _ (funext fun e => ?_)
        by_cases he : e.1 = name <;> simp [he, hp]
    | false =>
        refine List.any_eq_false.2 fun e _ => ?_
        by_cases he : e.1 = name <;> simp [he, hp]
  unfold put
  rw [hany]
  cases hp : p name with
  | true =>
      rw [if_pos rfl, Bool.true_and]
      split
      · rw [List.filter_map, hkept]
      · rw [List.filter_append, List.filter_singleton, hp]
        rfl
  | false =>
      rw [if_neg Bool.false_ne_true]
      split
      · rw [List.filter_map, hkept]
        -- None of the entries that are left has the name.
        refine (List.map_congr_left fun e he => ?_).trans (List.map_id _)
        have hname : e.1 ≠ name := by
          rintro rfl
          exact Bool.false_ne_true (hp.symm.trans (List.mem_filter.1 he).2)
        rw [if_neg (by simpa using hname)]
        rfl
      · rw [List.filter_append, List.filter_singleton, hp]
        exact List.append_nil _

theorem filter_putAll (p : String → Bool) (entries xs : List (String × α)) :
    (putAll entries xs).filter (fun e => p e.1) =
      putAll (entries.filter fun e => p e.1) (xs.filter fun e => p e.1) := by
  induction xs generalizing entries with
  | nil => rfl
  | cons x xs ih =>
      change (putAll (put entries x.1 x.2) xs).filter _ = _
      rw [ih, filter_put, List.filter_cons]
      by_cases hx : p x.1 = true
      · rw [if_pos hx, if_pos hx]
        rfl
      · rw [if_neg hx, if_neg hx]

/-! ## The order -/

/-- The name is not the decimal text of a place. -/
def placeless (name : String) : Bool :=
  (placeNumber? name).isNone

theorem natText_of_placeNumber? {name : String} {n : Nat} (h : placeNumber? name = some n) :
    Numeral.natText n = name := by
  unfold placeNumber? at h
  split at h
  · split at h
    · rename_i hplace
      obtain rfl := Option.some.inj h
      exact eq_of_beq (Bool.and_eq_true_iff.1 hplace).2
    · cases h
  · cases h

theorem eq_of_placeNumber? {a b : String} {n : Nat} (ha : placeNumber? a = some n)
    (hb : placeNumber? b = some n) : a = b :=
  (natText_of_placeNumber? ha).symm.trans (natText_of_placeNumber? hb)

/-- A name with a character that no number's text has is not the name of a place. -/
theorem placeless_of_not_numeric {name : String} (h : ¬ Numeral.Numeric name.toList) :
    placeless name = true := by
  unfold placeless
  cases hnumber : placeNumber? name with
  | none => rfl
  | some n => exact absurd (natText_of_placeNumber? hnumber ▸ Numeral.numeric_natText n) h

/-- The entries with the name of a place, each with the number of the place. -/
def places (entries : List (String × α)) : List (Nat × String × α) :=
  entries.filterMap fun e => (placeNumber? e.1).map fun n => (n, e)

theorem mem_places {e : Nat × String × α} :
    e ∈ places entries ↔ e.2 ∈ entries ∧ placeNumber? e.2.1 = some e.1 := by
  obtain ⟨n, e⟩ := e
  simp only [places, List.mem_filterMap, Option.map_eq_some_iff, Prod.mk.injEq]
  constructor
  · rintro ⟨e', he', n', hn', rfl, rfl⟩
    exact ⟨he', hn'⟩
  · rintro ⟨he, hn⟩
    exact ⟨e, he, n, hn, rfl, rfl⟩

theorem map_places (entries : List (String × α)) :
    (places entries).map Prod.snd = entries.filter fun e => !placeless e.1 := by
  induction entries with
  | nil => rfl
  | cons e entries ih =>
      rw [places, List.filterMap_cons, List.filter_cons, placeless]
      cases h : placeNumber? e.1 with
      | none => exact ih
      | some n => exact congrArg (e :: ·) ih

theorem inOrder_eq (entries : List (String × α)) :
    inOrder entries = ((places entries).mergeSort fun a b => a.1 ≤ b.1).map Prod.snd ++
      entries.filter fun e => placeless e.1 :=
  rfl

theorem inOrder_perm (entries : List (String × α)) : (inOrder entries).Perm entries := by
  rw [inOrder_eq]
  have hsorted := (List.mergeSort_perm (places entries) fun a b => a.1 ≤ b.1).map Prod.snd
  rw [map_places] at hsorted
  refine (hsorted.append_right _).trans (List.perm_append_comm.trans ?_)
  exact List.filter_append_perm _ entries

theorem filter_inOrder (entries : List (String × α)) :
    (inOrder entries).filter (fun e => placeless e.1) = entries.filter fun e => placeless e.1 := by
  have hnone : (((places entries).mergeSort fun a b => a.1 ≤ b.1).map Prod.snd).filter
      (fun e => placeless e.1) = [] := by
    refine List.filter_eq_nil_iff.2 fun e he => ?_
    have hmem := ((List.mergeSort_perm (places entries) fun a b => a.1 ≤ b.1).map Prod.snd).mem_iff.1 he
    rw [map_places, List.mem_filter] at hmem
    simpa using hmem.2
  rw [inOrder_eq, List.filter_append, hnone, List.nil_append, List.filter_filter]
  simp

theorem inOrder_of_placeless (h : ∀ e ∈ entries, placeless e.1 = true) : inOrder entries = entries := by
  have hplaces : places entries = [] := by
    refine List.eq_nil_iff_forall_not_mem.2 fun e he => ?_
    obtain ⟨hmem, hplace⟩ := mem_places.1 he
    have hnot := h _ hmem
    rw [placeless, hplace] at hnot
    cases hnot
  rw [inOrder_eq, hplaces, List.filter_eq_self.2 h, List.mergeSort_nil]
  rfl

theorem sorted_places (entries : List (String × α)) :
    ((places entries).mergeSort fun a b => a.1 ≤ b.1).Pairwise fun a b => a.1 ≤ b.1 := by
  refine (List.pairwise_mergeSort ?_ ?_ (places entries)).imp fun h => of_decide_eq_true h
  · intro a b c hab hbc
    exact decide_eq_true (Nat.le_trans (of_decide_eq_true hab) (of_decide_eq_true hbc))
  · intro a b
    simpa using Nat.le_total a.1 b.1

/-- Two entries at the same place have the same name, so they are one entry. -/
theorem place_inj (h : Distinct entries) {a b : Nat × String × α} (ha : a ∈ places entries)
    (hb : b ∈ places entries) (hnumber : a.1 = b.1) : a = b := by
  obtain ⟨ha, hna⟩ := mem_places.1 ha
  obtain ⟨hb, hnb⟩ := mem_places.1 hb
  have hname : a.2.1 = b.2.1 := eq_of_placeNumber? hna (hnumber ▸ hnb)
  have hentry := (mem_iff_lookup h).1 hb
  rw [← hname, (mem_iff_lookup h).1 ha] at hentry
  exact Prod.ext hnumber (Prod.ext hname (Option.some.inj hentry))

/-- Lists with the same entries are gone through the same way if the entries that are no places stand
in the same order. -/
theorem inOrder_congr (hxs : Distinct xs) (hperm : xs.Perm ys)
    (hrest : (xs.filter fun e => placeless e.1) = ys.filter fun e => placeless e.1) :
    inOrder xs = inOrder ys := by
  have hplaces : (places xs).mergeSort (fun a b => a.1 ≤ b.1) =
      (places ys).mergeSort fun a b => a.1 ≤ b.1 := by
    have hsame : ((places xs).mergeSort fun a b => a.1 ≤ b.1).Perm
        ((places ys).mergeSort fun a b => a.1 ≤ b.1) :=
      (List.mergeSort_perm _ _).trans ((hperm.filterMap _).trans (List.mergeSort_perm _ _).symm)
    refine hsame.eq_of_pairwise (fun a b ha hb hab hba => ?_) (sorted_places xs) (sorted_places ys)
    have hb := (hperm.symm.filterMap _).mem_iff.1 ((List.mergeSort_perm _ _).mem_iff.1 hb)
    exact place_inj hxs ((List.mergeSort_perm _ _).mem_iff.1 ha) hb (Nat.le_antisymm hab hba)
  rw [inOrder_eq, inOrder_eq, hplaces, hrest]

theorem distinct_inOrder (h : Distinct entries) : Distinct (inOrder entries) :=
  ((inOrder_perm entries).map Prod.fst).nodup_iff.2 h

/-- What the entries hold does not count. -/
theorem inOrder_map {β : Type} (f : α → β) (entries : List (String × α)) :
    inOrder (entries.map fun e => (e.1, f e.2)) = (inOrder entries).map fun e => (e.1, f e.2) := by
  have hplaces : places (entries.map fun e => (e.1, f e.2)) =
      (places entries).map fun e => (e.1, e.2.1, f e.2.2) := by
    rw [places, places, List.filterMap_map, List.map_filterMap]
    refine List.filterMap_congr fun e _ => ?_
    rw [Function.comp_apply, Option.map_map]
    rfl
  rw [inOrder_eq, inOrder_eq, hplaces, List.map_append, List.map_map, List.filter_map]
  refine congrArg₂ (· ++ ·) ?_ rfl
  have hsorted : ((places entries).map fun e => (e.1, e.2.1, f e.2.2)).mergeSort
      (fun a b => a.1 ≤ b.1) = ((places entries).mergeSort fun a b => a.1 ≤ b.1).map
        fun e => (e.1, e.2.1, f e.2.2) :=
    (@List.map_mergeSort _ _ (fun a b => a.1 ≤ b.1) (fun a b => a.1 ≤ b.1)
      (fun e => (e.1, e.2.1, f e.2.2)) (places entries) fun _ _ _ _ => rfl).symm
  rw [hsorted, List.map_map]
  rfl

theorem inOrder_inOrder (h : Distinct entries) : inOrder (inOrder entries) = inOrder entries :=
  inOrder_congr (distinct_inOrder h) (inOrder_perm entries) (filter_inOrder entries)

theorem distinct_filter (h : Distinct entries) (p : String → Bool) :
    Distinct (entries.filter fun e => p e.1) :=
  h.sublist ((List.filter_sublist).map Prod.fst)

/-- Some of the entries are gone through in the order that they have among all. -/
theorem inOrder_filter (h : Distinct entries) (p : String → Bool) :
    inOrder (entries.filter fun e => p e.1) = (inOrder entries).filter fun e => p e.1 := by
  have hplaces : places (entries.filter fun e => p e.1) = (places entries).filter fun e => p e.2.1 := by
    rw [places, places, List.filterMap_filter, List.filter_filterMap]
    refine List.filterMap_congr fun e _ => ?_
    cases placeNumber? e.1 with
    | none => simp
    | some n => by_cases hp : p e.1 = true <;> simp [Option.filter, hp]
  have hsorted : (places (entries.filter fun e => p e.1)).mergeSort (fun a b => a.1 ≤ b.1) =
      ((places entries).mergeSort fun a b => a.1 ≤ b.1).filter fun e => p e.2.1 := by
    have hsame := (List.mergeSort_perm (places (entries.filter fun e => p e.1)) fun a b => a.1 ≤ b.1).trans
      (hplaces ▸ ((List.mergeSort_perm (places entries) fun a b => a.1 ≤ b.1).filter _).symm)
    refine hsame.eq_of_pairwise (fun a b ha hb hab hba => ?_) (sorted_places _)
      ((sorted_places entries).filter _)
    have ha := (List.mergeSort_perm _ _).mem_iff.1 ha
    rw [hplaces] at ha
    have hb := (List.mergeSort_perm _ _).mem_iff.1 (List.mem_filter.1 hb).1
    exact place_inj h (List.mem_filter.1 ha).1 hb (Nat.le_antisymm hab hba)
  rw [inOrder_eq, inOrder_eq, hsorted, List.filter_append, List.filter_map, List.filter_filter,
    List.filter_filter]
  refine congrArg₂ (· ++ ·) rfl (List.filter_congr fun e _ => ?_)
  exact Bool.and_comm _ _

theorem inOrder_putAll_inOrder (hentries : Distinct entries) (hxs : Distinct xs) :
    inOrder (putAll entries (inOrder xs)) = inOrder (putAll entries xs) := by
  have hordered := distinct_inOrder hxs
  refine inOrder_congr (distinct_putAll hentries _) ?_ ?_
  · refine perm_of_lookup (distinct_putAll hentries _) (distinct_putAll hentries _) fun name => ?_
    rw [lookup_putAll hordered, lookup_putAll hxs, lookup_eq_of_perm hordered (inOrder_perm xs)]
  · rw [filter_putAll, filter_putAll, filter_inOrder]

/-- The names that are merged into others are all there when it is done again, in the places that they
have by then. -/
theorem names_prefix_merged (p : String → Bool) (hp : ∀ e ∈ entries, p e.1 = true) (f : α → α)
    (xs : List (String × α)) :
    (entries.filter fun e => placeless e.1).map Prod.fst <+:
      ((((inOrder (putAll entries xs)).filter fun e => p e.1).map fun e => (e.1, f e.2)).filter
        fun e => placeless e.1).map Prod.fst := by
  have hmerged : (((inOrder (putAll entries xs)).filter fun e => p e.1).filter fun e => placeless e.1) =
      putAll (entries.filter fun e => placeless e.1)
        ((xs.filter fun e => placeless e.1).filter fun e => p e.1) := by
    rw [List.filter_filter, List.filter_congr fun e _ => Bool.and_comm _ _, ← List.filter_filter,
      filter_inOrder, filter_putAll, filter_putAll]
    congr 1
    exact List.filter_eq_self.2 fun e he => hp e (List.mem_filter.1 he).1
  rw [List.filter_map]
  change _ <+: ((((inOrder (putAll entries xs)).filter fun e => p e.1).filter
    fun e => placeless e.1).map fun e => (e.1, f e.2)).map Prod.fst
  rw [names_map, hmerged]
  exact prefix_names_putAll _ _

/-- Entries that were merged into others and then gone through in order stay as they are when that is done
again, whatever has become of what they hold. -/
theorem inOrder_putAll_merged (p : String → Bool) (hentries : Distinct entries)
    (hp : ∀ e ∈ entries, p e.1 = true) (f : α → α) (xs : List (String × α)) :
    inOrder (putAll entries
        (((inOrder (putAll entries xs)).filter fun e => p e.1).map fun e => (e.1, f e.2))) =
      ((inOrder (putAll entries xs)).filter fun e => p e.1).map fun e => (e.1, f e.2) := by
  have hall := distinct_putAll hentries xs
  have hmerged := distinct_map (distinct_filter (distinct_inOrder hall) p) f
  have hordered :
      inOrder (((inOrder (putAll entries xs)).filter fun e => p e.1).map fun e => (e.1, f e.2)) =
        ((inOrder (putAll entries xs)).filter fun e => p e.1).map fun e => (e.1, f e.2) := by
    rw [inOrder_map, inOrder_filter (distinct_inOrder hall), inOrder_inOrder hall]
  refine (inOrder_congr (distinct_putAll hentries _) ?_ ?_).trans hordered
  · refine perm_of_lookup (distinct_putAll hentries _) hmerged fun name => ?_
    rw [lookup_putAll hmerged]
    cases hlookup : List.lookup name (((inOrder (putAll entries xs)).filter fun e => p e.1).map
      fun e => (e.1, f e.2)) with
    | some v => rfl
    | none =>
        cases hentry : entries.lookup name with
        | none => rfl
        | some v =>
            -- The name was there when the others were merged in, so it is among them.
            have hmem := (mem_iff_lookup hentries).2 hentry
            obtain ⟨⟨other, w⟩, hw, hname⟩ := List.mem_map.1
              ((prefix_names_putAll entries xs).subset (List.mem_map_of_mem hmem))
            obtain rfl : other = name := hname
            have hkept : (other, w) ∈ (inOrder (putAll entries xs)).filter fun e => p e.1 :=
              List.mem_filter.2 ⟨(inOrder_perm _).mem_iff.2 hw, hp (other, v) hmem⟩
            have hagain := (mem_iff_lookup hmerged).1 (List.mem_map.2 ⟨_, hkept, rfl⟩)
            cases hlookup.symm.trans hagain
  · rw [filter_putAll]
    exact putAll_of_prefix (distinct_filter hmerged placeless) (names_prefix_merged p hp f xs)

end StoryMix.Entries
