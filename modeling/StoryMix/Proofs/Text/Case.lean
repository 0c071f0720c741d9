import StoryMix.Text.Blank
import StoryMix.Text.Case

/-!
# What upper case leaves alone

A character that is no image of another one under the case mapping stands in the upper case of a text
only where it stands in the text itself. The colon is such a character. A blank is its own upper case.
-/

namespace StoryMix.Text

/-- No run of simple mappings reaches the code point. -/
def avoidsRuns (runs : List CaseRun) (d : Char) : Bool :=
  runs.all fun r => (r.last : Int) + r.offset < d.toNat || (d.toNat : Int) < r.first + r.offset

/-- The character is part of no image of several characters. -/
def avoidsExpansions (expansions : List (Nat × List Nat)) (d : Char) : Bool :=
  expansions.all fun e => !(e.2.map Char.ofNat).contains d

theorem exists_mem_of_lookup {α : Type} {entries : List (Nat × α)} {n : Nat} {v : α}
    (h : entries.lookup n = some v) : (n, v) ∈ entries := by
  induction entries with
  | nil => cases h
  | cons e entries ih =>
      obtain ⟨m, w⟩ := e
      rw [List.lookup_cons] at h
      by_cases hm : n = m
      · subst hm
        rw [beq_self_eq_true] at h
        cases h
        exact List.mem_cons_self
      · rw [beq_eq_false_iff_ne.2 hm] at h
        exact List.mem_cons_of_mem _ (ih h)

theorem ofNat_ne {n : Nat} {d : Char} (hn : n ≠ d.toNat) (hd : d.toNat ≠ 0) : Char.ofNat n ≠ d := by
  rintro rfl
  by_cases hvalid : n.isValidChar
  · have hsame : Char.ofNat n = Char.ofNatAux n hvalid := dif_pos hvalid
    rw [hsame] at hn
    exact hn rfl
  · have hnull : Char.ofNat n = '\x00' := dif_neg hvalid
    rw [hnull] at hd
    exact hd rfl

theorem caseImage_ne {runs : List CaseRun} {d : Char} (hruns : avoidsRuns runs d = true)
    (hd : d.toNat ≠ 0) {n m : Nat} (h : caseImage runs n = some m) : m ≠ d.toNat := by
  obtain ⟨r, hfind, rfl⟩ := Option.map_eq_some_iff.1 h
  have hr := List.all_eq_true.1 hruns r (List.mem_of_find?_eq_some hfind)
  have hrange := List.find?_some hfind
  simp only [Bool.or_eq_true, decide_eq_true_eq, Bool.and_eq_true] at hr hrange
  obtain ⟨⟨hfirst, hlast⟩, -⟩ := hrange
  simp only [Int.ofNat_eq_natCast]
  omega

theorem eq_of_mem_caseMap {runs : List CaseRun} {expansions : List (Nat × List Nat)} {c d : Char}
    (hruns : avoidsRuns runs d = true) (hexpansions : avoidsExpansions expansions d = true)
    (hd : d.toNat ≠ 0) (h : d ∈ caseMap runs expansions c) : c = d := by
  unfold caseMap at h
  split at h
  · rename_i image himage
    have hnot := List.all_eq_true.1 hexpansions _ (exists_mem_of_lookup himage)
    simp only [Bool.not_eq_true', List.contains_eq_mem, decide_eq_false_iff_not] at hnot
    exact absurd h hnot
  · split at h
    · rename_i n himage
      have hn : n ≠ d.toNat := caseImage_ne hruns hd himage
      exact absurd (List.mem_singleton.1 h).symm (ofNat_ne hn hd)
    · exact (List.mem_singleton.1 h).symm

theorem eq_colon_of_mem_upperChar {c : Char} (h : ':' ∈ upperChar c) : c = ':' :=
  eq_of_mem_caseMap (by decide +kernel) (by decide +kernel) (by decide) h

/-- The code points of the blanks. -/
def blankPoints : List Nat :=
  List.range' 0x9 5 ++ [0x20, 0xA0, 0x1680] ++ List.range' 0x2000 11 ++
    [0x2028, 0x2029, 0x202F, 0x205F, 0x3000, 0xFEFF]

theorem mem_blankPoints {c : Char} (h : isBlank c = true) : c.toNat ∈ blankPoints := by
  simp only [isBlank, Bool.or_eq_true, Bool.and_eq_true, decide_eq_true_eq, beq_iff_eq] at h
  simp only [blankPoints, List.mem_append, List.mem_range'_1, List.mem_cons, List.not_mem_nil]
  omega

theorem upperChar_of_isBlank {c : Char} (h : isBlank c = true) : upperChar c = [c] := by
  have hall : ∀ n ∈ blankPoints, upperChar (Char.ofNat n) = [Char.ofNat n] := by decide +kernel
  have hc := hall c.toNat (mem_blankPoints h)
  rwa [Char.ofNat_toNat] at hc

theorem upper_append (xs ys : List Char) : upper (xs ++ ys) = upper xs ++ upper ys :=
  List.flatMap_append

theorem upper_of_blank {cs : List Char} (h : ∀ c ∈ cs, isBlank c = true) : upper cs = cs := by
  induction cs with
  | nil => rfl
  | cons c cs ih =>
      obtain ⟨hc, hcs⟩ := List.forall_mem_cons.1 h
      rw [upper, List.flatMap_cons, upperChar_of_isBlank hc]
      exact congrArg (c :: ·) (ih hcs)

theorem colon_not_mem_upper {cs : List Char} (h : ':' ∉ cs) : ':' ∉ upper cs := by
  intro hmem
  obtain ⟨c, hc, hcolon⟩ := List.mem_flatMap.1 hmem
  exact h (eq_colon_of_mem_upperChar hcolon ▸ hc)

end StoryMix.Text
