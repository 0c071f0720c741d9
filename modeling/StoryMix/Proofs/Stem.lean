import Mathlib.Data.List.Forall2
import StoryMix.Proofs.FileName

/-!
# Which texts have one stem

A stem keeps letters, numbers and hyphens, and has an underscore for any other character. An underscore is
such a one itself: it stays, but no longer tells that it was there. So two texts have one stem just when they
are as long as each other and differ only where neither has a character that is kept (`fileStem_eq_iff`), and
these are the titles of which the mixes have one name, and in one directory one place (`fileStem_laws`).
-/

namespace StoryMix

/-- A letter, a number or a hyphen: it stands in a stem for itself, and nothing else does. -/
def Kept (c : Char) : Prop :=
  Text.isLetter c = true ∨ Text.isNumber c = true ∨ c = '-'

instance : DecidablePred Kept :=
  fun c => inferInstanceAs (Decidable (Text.isLetter c = true ∨ Text.isNumber c = true ∨ c = '-'))

/-- The texts have as many characters, and any two in one place are equal or both not kept. -/
def Interchangeable (s t : String) : Prop :=
  s.length = t.length ∧ ∀ i (hs : i < s.toList.length) (ht : i < t.toList.length),
    s.toList[i] = t.toList[i] ∨ ¬ Kept s.toList[i] ∧ ¬ Kept t.toList[i]

/-! ## One character -/

theorem not_kept_underscore : ¬ Kept '_' := by
  unfold Kept
  decide +kernel

theorem isStemChar_iff {c : Char} : isStemChar c = true ↔ Kept c ∨ c = '_' := by
  unfold isStemChar Kept
  simp only [Bool.or_eq_true, beq_iff_eq]
  tauto

theorem stemChar_eq (c : Char) : stemChar c = if Kept c then c else '_' := by
  unfold stemChar
  by_cases hkept : Kept c
  · rw [if_pos (isStemChar_iff.2 (.inl hkept)), if_pos hkept]
  · rw [if_neg hkept]
    split
    · rename_i hstem
      exact (isStemChar_iff.1 hstem).resolve_left hkept
    · rfl

theorem stemChar_eq_iff {c d : Char} : stemChar c = stemChar d ↔ c = d ∨ ¬ Kept c ∧ ¬ Kept d := by
  rw [stemChar_eq, stemChar_eq]
  constructor
  · intro h
    by_cases hc : Kept c
    · rw [if_pos hc] at h
      by_cases hd : Kept d
      · rw [if_pos hd] at h
        exact .inl h
      · rw [if_neg hd] at h
        exact absurd (h ▸ hc) not_kept_underscore
    · rw [if_neg hc] at h
      by_cases hd : Kept d
      · rw [if_pos hd] at h
        exact absurd (h ▸ hd) not_kept_underscore
      · exact .inr ⟨hc, hd⟩
  · rintro (rfl | ⟨hc, hd⟩)
    · rfl
    · rw [if_neg hc, if_neg hd]

theorem stemChar_stemChar (c : Char) : stemChar (stemChar c) = stemChar c := by
  rw [stemChar_eq_iff, stemChar_eq]
  split
  · exact .inl rfl
  · rename_i hc
    exact .inr ⟨not_kept_underscore, hc⟩

theorem stemChar_eq_self_iff {c : Char} : stemChar c = c ↔ Kept c ∨ c = '_' := by
  rw [stemChar_eq]
  split
  · rename_i hc
    exact iff_of_true rfl (.inl hc)
  · rename_i hc
    rw [or_iff_right hc, eq_comm]

/-! ## Whole texts -/

theorem toList_fileStem (s : String) : (fileStem s).toList = s.toList.map stemChar :=
  String.toList_ofList

theorem fileStem_eq_iff {s t : String} : fileStem s = fileStem t ↔ Interchangeable s t := by
  have hplaces : s.toList.map stemChar = t.toList.map stemChar ↔
      List.Forall₂ (fun c d => stemChar c = stemChar d) s.toList t.toList := by
    rw [← List.forall₂_eq_eq_eq, List.forall₂_map_left_iff, List.forall₂_map_right_iff]
  unfold Interchangeable
  rw [← String.toList_inj, toList_fileStem, toList_fileStem, hplaces, List.forall₂_iff_get,
    ← String.length_toList, ← String.length_toList]
  simp only [stemChar_eq_iff, List.get_eq_getElem]

theorem fileStem_append (s t : String) : fileStem (s ++ t) = fileStem s ++ fileStem t := by
  rw [← String.toList_inj, toList_fileStem, String.toList_append, String.toList_append, toList_fileStem,
    toList_fileStem, List.map_append]

theorem fileStem_fileStem (s : String) : fileStem (fileStem s) = fileStem s := by
  rw [← String.toList_inj, toList_fileStem, toList_fileStem, List.map_map]
  exact List.map_congr_left fun c _ => stemChar_stemChar c

theorem length_fileStem (s : String) : (fileStem s).length = s.length := by
  rw [← String.length_toList, toList_fileStem, List.length_map, String.length_toList]

theorem fileStem_eq_self_iff {s : String} : fileStem s = s ↔ ∀ c ∈ s.toList, Kept c ∨ c = '_' := by
  have hmap : s.toList.map stemChar = s.toList.map id ↔ ∀ c ∈ s.toList, stemChar c = id c :=
    List.map_inj_left
  rw [← String.toList_inj, toList_fileStem]
  rw [List.map_id] at hmap
  exact hmap.trans (forall₂_congr fun c _ => stemChar_eq_self_iff)

/-! ## Titles -/

theorem outputFileName_eq_iff {s t : String} :
    Mix.outputFileName s = Mix.outputFileName t ↔ Interchangeable s t := by
  rw [← fileStem_eq_iff, Mix.outputFileName, Mix.outputFileName]
  exact String.append_left_inj _

/-- In a directory the mixes of two titles have one place just when they have one name. -/
theorem resolve_output_eq_iff (cwd outDir : String) {s t : String} :
    Path.resolve cwd (Path.join [outDir, Mix.outputFileName s])
        = Path.resolve cwd (Path.join [outDir, Mix.outputFileName t]) ↔ Interchangeable s t := by
  rw [← outputFileName_eq_iff]
  constructor
  · intro h
    by_contra hne
    exact Path.apart_join outDir (Mix.plain_outputFileName s) (Mix.plain_outputFileName t)
      (fun heq => hne (String.toList_inj.1 heq)) cwd h
  · intro h
    rw [h]

/-- The laws of stems: which texts have the same one, what it does to texts put together and to itself, and
which texts it leaves alone. So of two titles the mixes have one name, and in any one directory one place, just
when they are interchangeable. -/
theorem fileStem_laws :
    (∀ s t, fileStem s = fileStem t ↔ Interchangeable s t)
      ∧ (∀ s t, fileStem (s ++ t) = fileStem s ++ fileStem t)
      ∧ (∀ s, fileStem (fileStem s) = fileStem s)
      ∧ (∀ s, (fileStem s).length = s.length)
      ∧ (∀ s, fileStem s = s ↔ ∀ c ∈ s.toList, Kept c ∨ c = '_')
      ∧ (∀ s t, Mix.outputFileName s = Mix.outputFileName t ↔ Interchangeable s t)
      ∧ ∀ cwd outDir s t, Path.resolve cwd (Path.join [outDir, Mix.outputFileName s])
          = Path.resolve cwd (Path.join [outDir, Mix.outputFileName t]) ↔ Interchangeable s t :=
  ⟨fun _ _ => fileStem_eq_iff, fileStem_append, fileStem_fileStem, length_fileStem, fun _ => fileStem_eq_self_iff,
    fun _ _ => outputFileName_eq_iff, fun cwd outDir _ _ => resolve_output_eq_iff cwd outDir⟩

end StoryMix
