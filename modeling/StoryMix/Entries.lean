import StoryMix.Numeral.Text

/-!
# Entries

Lists of named entries, seen through `List.lookup`. An entry is written in one of two ways: `put`
keeps the place of an earlier entry with the name, `replace` does not. Either way the name then gives
the new entry and every other name gives what it gave before (`lookup_put`, `lookup_replace`).
-/

namespace StoryMix.Entries

variable {α : Type}

/-- The entries without those of a name. -/
def erase (entries : List (String × α)) (name : String) : List (String × α) :=
  entries.filter (·.1 != name)

/-- The entries with this one in front, in place of those of its name. -/
def replace (entries : List (String × α)) (name : String) (v : α) : List (String × α) :=
  (name, v) :: erase entries name

/-- Sets an entry, at its old place if it has one and else at the end. -/
def put (entries : List (String × α)) (name : String) (v : α) : List (String × α) :=
  if entries.any (·.1 == name) then
    entries.map fun e => if e.1 == name then (name, v) else e
  else entries ++ [(name, v)]

/-! ## The order of places -/

/-- A name that is the decimal text of a number below `2 ^ 32 - 1`. -/
def placeNumber? (name : String) : Option Nat :=
  match name.toNat? with
  | some n => if n < 0xFFFFFFFF && Numeral.natText n == name then some n else none
  | none => none

/-- The entries in the order in which they are gone through: first the names that look like places
in a list, by their numbers, then all others as they stand. -/
def inOrder (entries : List (String × α)) : List (String × α) :=
  let places := entries.filterMap fun e => (placeNumber? e.1).map fun n => (n, e)
  (places.mergeSort fun a b => a.1 ≤ b.1).map (·.2) ++
    entries.filter fun e => (placeNumber? e.1).isNone

/-! ## What each change does to a lookup -/

theorem lookup_erase (entries : List (String × α)) (name other : String) :
    (erase entries name).lookup other = if other = name then none else entries.lookup other := by
  unfold erase
  induction entries with
  | nil => simp
  | cons e es ih =>
    obtain ⟨n, v⟩ := e
    by_cases hn : n = name
    · subst hn
      rw [List.filter_cons_of_neg (by simp), ih, List.lookup_cons]
      by_cases h : other = n
      · simp [h]
      · simp [h, beq_eq_false_iff_ne.2 h]
    · rw [List.filter_cons_of_pos (by simp [hn]), List.lookup_cons, List.lookup_cons, ih]
      by_cases h : other = n
      · subst h; simp [hn]
      · simp [beq_eq_false_iff_ne.2 h]

theorem lookup_replace (entries : List (String × α)) (name : String) (v : α) (other : String) :
    (replace entries name v).lookup other =
      if other = name then some v else entries.lookup other := by
  unfold replace
  rw [List.lookup_cons, lookup_erase]
  by_cases h : other = name
  · simp [h]
  · simp [h, beq_eq_false_iff_ne.2 h]

/-- A name stands in a list just when looking it up gives something. -/
theorem isSome_lookup (entries : List (String × α)) (name : String) :
    (entries.lookup name).isSome = entries.any (·.1 == name) := by
  induction entries with
  | nil => rfl
  | cons e es ih =>
    obtain ⟨n, v⟩ := e
    rw [List.lookup_cons, List.any_cons]
    by_cases h : name = n
    · simp [h]
    · simp [beq_eq_false_iff_ne.2 h, beq_eq_false_iff_ne.2 (Ne.symm h), ih]

/-- Putting in a new value for a name leaves the other names alone. -/
theorem lookup_map_put (entries : List (String × α)) (name : String) (v : α) (other : String) :
    (entries.map fun e => if e.1 == name then (name, v) else e).lookup other =
      if other = name then (entries.lookup name).map fun _ => v else entries.lookup other := by
  simp only [beq_iff_eq]
  induction entries with
  | nil => simp
  | cons e es ih =>
    obtain ⟨n, w⟩ := e
    rw [List.map_cons]
    by_cases hn : n = name
    · subst hn
      by_cases h : other = n
      · simp [h]
      · simp [List.lookup_cons, beq_eq_false_iff_ne.2 h, ih, h]
    · by_cases h : other = name
      · subst h
        simp [hn, List.lookup_cons, beq_eq_false_iff_ne.2 (Ne.symm hn), ih]
      · simp [hn, List.lookup_cons, ih, h]

theorem lookup_put (entries : List (String × α)) (name : String) (v : α) (other : String) :
    (put entries name v).lookup other =
      if other = name then some v else entries.lookup other := by
  unfold put
  split
  · next h =>
    rw [lookup_map_put]
    obtain ⟨w, hw⟩ := Option.isSome_iff_exists.1 ((isSome_lookup entries name).trans h)
    rw [hw]
    rfl
  · next h =>
    have hn : entries.lookup name = none := by
      rw [← Option.not_isSome_iff_eq_none, isSome_lookup]
      exact h
    rw [List.lookup_append, List.lookup_cons]
    by_cases ho : other = name
    · simp [ho, hn]
    · simp [ho, beq_eq_false_iff_ne.2 ho]

end StoryMix.Entries
