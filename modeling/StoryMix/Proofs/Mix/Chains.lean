import Mathlib.Data.List.Nodup
import StoryMix.Mix.Compile

/-!
# The chains of a timeline

Which chain stands where in the list of chains, what it makes and what it reads. `Stands` has one case
for each kind of chain and is the list seen from a place in it (`stands_iff`); the rest goes case by
case. An input is read at one place (`Stands.input_mem_reads_iff`), and so is what a chain makes
(`Stands.label_mem_reads_iff`), which no other chain makes (`Stands.eq_of_makes`).
-/

namespace StoryMix.Mix

/-- The file of a bed, if there is one. -/
def present (file : Option String) : List String :=
  (file.filter (· ≠ "")).toList

/-! ## Which chain stands where -/

/-- The place of the chain that adds everything up. -/
def lastPlace (t : Timeline) (config : ProducerConfig) : Nat :=
  t.segments.length + 1 + (bedsOf t.beds config).length + t.effects.length

/-- The chain at a place of the list of chains, one case for each kind. -/
inductive Stands (t : Timeline) (config : ProducerConfig) : Nat → Chain → Prop
  | segment {i} : i < t.segments.length → Stands t config i (segmentChain i)
  | narration : Stands t config t.segments.length
      (narrationChain t.segments.length config.narrationGainDb)
  | bed {i bed} : (bedsOf t.beds config)[i]? = some bed →
      Stands t config (t.segments.length + 1 + i)
        (bedChain t.duration (t.segments.length + i) bed)
  | effect {i e} : t.effects[i]? = some e →
      Stands t config (t.segments.length + 1 + (bedsOf t.beds config).length + i)
        (effectChain (t.segments.length + (bedsOf t.beds config).length + i) i e.startTime)
  | total : Stands t config (lastPlace t config)
      (totalChain (summands (bedsOf t.beds config) t.effects.length))

variable {t : Timeline} {config : ProducerConfig}

theorem length_chainsOf :
    (chainsOf t config).length = lastPlace t config + 1 := by
  simp only [chainsOf, lastPlace, List.length_append, List.length_map, List.length_range, List.length_mapIdx,
    List.length_singleton]

/-- The list taken apart at its five parts. -/
theorem getElem?_chainsOf (j : Nat) :
    (chainsOf t config)[j]? =
      if j < t.segments.length then some (segmentChain j)
      else if j = t.segments.length then
        some (narrationChain t.segments.length config.narrationGainDb)
      else if j < t.segments.length + 1 + (bedsOf t.beds config).length then
        (bedsOf t.beds config)[j - (t.segments.length + 1)]?.map fun bed =>
          bedChain t.duration (t.segments.length + (j - (t.segments.length + 1))) bed
      else if j < lastPlace t config then
        t.effects[j - (t.segments.length + 1 + (bedsOf t.beds config).length)]?.map fun e =>
          effectChain
            (t.segments.length + (bedsOf t.beds config).length +
              (j - (t.segments.length + 1 + (bedsOf t.beds config).length)))
            (j - (t.segments.length + 1 + (bedsOf t.beds config).length)) e.startTime
      else [totalChain (summands (bedsOf t.beds config) t.effects.length)][
        j - lastPlace t config]? := by
  simp only [chainsOf, lastPlace, List.getElem?_append, List.length_append, List.length_map,
    List.length_range, List.length_mapIdx, List.length_singleton, List.getElem?_mapIdx]
  by_cases hsegment : j < t.segments.length
  · rw [if_pos (by omega), if_pos (by omega), if_pos (by omega), if_pos hsegment, if_pos hsegment,
      List.getElem?_map, List.getElem?_range hsegment, Option.map_some]
  rw [if_neg hsegment, if_neg hsegment]
  by_cases hnarration : j = t.segments.length
  · rw [if_pos (by omega), if_pos (by omega), if_pos (by omega), if_pos hnarration, hnarration,
      Nat.sub_self]
    rfl
  rw [if_neg (by omega : ¬ j < t.segments.length + 1), if_neg hnarration]
  by_cases hbed : j < t.segments.length + 1 + (bedsOf t.beds config).length
  · rw [if_pos (by omega), if_pos hbed, if_pos hbed]
  · rw [if_neg hbed, if_neg hbed]
    rfl

theorem stands_iff {j : Nat} {c : Chain} :
    (chainsOf t config)[j]? = some c ↔ Stands t config j c := by
  rw [getElem?_chainsOf]
  constructor
  · intro h
    split at h
    · rename_i hj
      cases h
      exact .segment hj
    split at h
    · rename_i hj
      cases h
      subst hj
      exact .narration
    split at h
    · rename_i hj hj' hj''
      obtain ⟨bed, hbed, rfl⟩ := Option.map_eq_some_iff.mp h
      have hplace := Stands.bed hbed
      rwa [show t.segments.length + 1 + (j - (t.segments.length + 1)) = j by omega] at hplace
    split at h
    · rename_i hj hj'
      obtain ⟨e, he, rfl⟩ := Option.map_eq_some_iff.mp h
      have hplace := @Stands.effect t config _ _ he
      rwa [Nat.add_sub_cancel' (Nat.le_of_not_lt hj)] at hplace
    · rename_i hj
      have hlast := (List.getElem?_eq_some_iff.mp h).1
      rw [List.length_singleton] at hlast
      obtain rfl : j = lastPlace t config := by omega
      rw [Nat.sub_self] at h
      cases h
      exact .total
  · intro h
    cases h with
    | segment hi => rw [if_pos hi]
    | narration => rw [if_neg (Nat.lt_irrefl _), if_pos rfl]
    | @bed i bed hbed =>
        have hi := (List.getElem?_eq_some_iff.mp hbed).1
        rw [if_neg (by omega), if_neg (by omega), if_pos (by omega), Nat.add_sub_cancel_left, hbed,
          Option.map_some]
    | @effect i e he =>
        have hi := (List.getElem?_eq_some_iff.mp he).1
        have hlast : t.segments.length + 1 + (bedsOf t.beds config).length + i <
            lastPlace t config := by
          unfold lastPlace
          omega
        rw [if_neg (by omega), if_neg (by omega), if_neg (by omega), if_pos hlast,
          Nat.add_sub_cancel_left, he, Option.map_some]
    | total =>
        have hlast : t.segments.length + 1 + (bedsOf t.beds config).length ≤ lastPlace t config :=
          Nat.le_add_right _ _
        rw [if_neg (by omega), if_neg (by omega), if_neg (by omega), if_neg (Nat.lt_irrefl _),
          Nat.sub_self]
        rfl

theorem Stands.unique {j : Nat} {c d : Chain} (hc : Stands t config j c)
    (hd : Stands t config j d) : c = d :=
  Option.some.inj ((stands_iff.mpr hc).symm.trans (stands_iff.mpr hd))

theorem exists_stands {j : Nat} (h : j ≤ lastPlace t config) : ∃ c, Stands t config j c := by
  have hj : j < (chainsOf t config).length := by
    rw [length_chainsOf]
    exact Nat.lt_succ_of_le h
  exact ⟨_, stands_iff.mp (List.getElem?_eq_getElem hj)⟩

/-! ## What the chains make -/

/-- Where the chain of a label stands, if there is one. -/
def Label.place (t : Timeline) (config : ProducerConfig) : Label → Nat
  | segment i => i
  | narration => t.segments.length
  | music => t.segments.length + 1
  | ambience => t.segments.length + (bedsOf t.beds config).length
  | effect i => t.segments.length + 1 + (bedsOf t.beds config).length + i
  | total => lastPlace t config

theorem bedsOf_eq (beds : Beds) (config : ProducerConfig) :
    bedsOf beds config =
      (present beds.music).map (⟨.music, ·, config.musicGainDb⟩) ++
        (present beds.ambience).map (⟨.ambience, ·, config.ambienceGainDb⟩) := by
  unfold bedsOf present
  simp only [Option.toList_map]

theorem present_cases (file : Option String) : present file = [] ∨ ∃ f, present file = [f] := by
  unfold present
  cases file.filter (· ≠ "") with
  | none => exact .inl rfl
  | some f => exact .inr ⟨f, rfl⟩

/-- Music is the first bed and ambience the last one, also if it is the only one. -/
theorem label_bedsOf {beds : Beds} {i : Nat} {bed : Bed}
    (h : (bedsOf beds config)[i]? = some bed) :
    (bed.label = .music ∧ i = 0) ∨
      (bed.label = .ambience ∧ i + 1 = (bedsOf beds config).length) := by
  rw [bedsOf_eq] at h ⊢
  have hi := (List.getElem?_eq_some_iff.mp h).1
  rw [List.length_append, List.length_map, List.length_map] at hi ⊢
  rw [List.getElem?_append] at h
  split at h
  · rename_i hmusic
    obtain ⟨f, -, rfl⟩ := List.mem_map.mp (List.mem_of_getElem? h)
    rcases present_cases beds.music with hnone | ⟨f, hone⟩
    · rw [hnone] at hmusic
      exact absurd hmusic (Nat.not_lt_zero _)
    · rw [hone] at hmusic
      exact .inl ⟨rfl, Nat.lt_one_iff.mp hmusic⟩
  · rename_i hmusic
    obtain ⟨f, -, rfl⟩ := List.mem_map.mp (List.mem_of_getElem? h)
    rcases present_cases beds.ambience with hnone | ⟨f, hone⟩
    · rw [hnone, List.length_nil] at hi
      exact absurd hi (by simpa using hmusic)
    · rw [hone, List.length_singleton] at hi ⊢
      rw [List.length_map] at hmusic
      exact .inr ⟨rfl, by omega⟩

theorem Stands.place_makes {j : Nat} {c : Chain} (h : Stands t config j c) :
    c.makes.place t config = j := by
  cases h with
  | segment hi => rfl
  | narration => rfl
  | bed hbed =>
      rcases label_bedsOf hbed with ⟨hlabel, hi⟩ | ⟨hlabel, hi⟩
      · rw [bedChain, hlabel, hi]
        rfl
      · rw [bedChain, hlabel, Label.place, ← hi]
        omega
  | effect he => rfl
  | total => rfl

theorem Stands.eq_of_makes {i j : Nat} {c d : Chain} (hc : Stands t config i c)
    (hd : Stands t config j d) (h : c.makes = d.makes) : i = j := by
  rw [← hc.place_makes, ← hd.place_makes, h]

/-- The labels in the order of their chains. -/
theorem makes_chainsOf :
    (chainsOf t config).map Chain.makes =
      (List.range t.segments.length).map .segment ++
        (summands (bedsOf t.beds config) t.effects.length ++ [.total]) := by
  have heffects : (t.effects.mapIdx fun i e =>
      effectChain (t.segments.length + (bedsOf t.beds config).length + i) i e.startTime).map
        Chain.makes = (List.range t.effects.length).map .effect := by
    apply List.ext_getElem <;> simp [effectChain]
  have hbeds : ((bedsOf t.beds config).mapIdx fun i bed =>
      bedChain t.duration (t.segments.length + i) bed).map Chain.makes =
        (bedsOf t.beds config).map Bed.label := by
    apply List.ext_getElem <;> simp [bedChain]
  have hsegments : ((List.range t.segments.length).map segmentChain).map Chain.makes =
      (List.range t.segments.length).map .segment := by
    rw [List.map_map]
    rfl
  simp only [chainsOf, List.map_append, heffects, hbeds, hsegments, summands, List.append_assoc]
  rfl

theorem makes_chainsOf_nodup : ((chainsOf t config).map Chain.makes).Nodup := by
  refine List.nodup_iff_getElem?_ne_getElem?.mpr fun i j hij hj heq => ?_
  rw [List.length_map] at hj
  have hi' := Nat.lt_trans hij hj
  rw [List.getElem?_map, List.getElem?_map, List.getElem?_eq_getElem hj,
    List.getElem?_eq_getElem hi'] at heq
  have hi := stands_iff.mp (List.getElem?_eq_getElem hi')
  exact absurd (hi.eq_of_makes (stands_iff.mp (List.getElem?_eq_getElem hj)) (Option.some.inj heq))
    (Nat.ne_of_lt hij)

/-! ## What the chains read -/

/-- An input is read where the chain of its item stands. -/
theorem Stands.input_mem_reads_iff {j : Nat} {c : Chain} (h : Stands t config j c) (i : Nat) :
    .input i ∈ c.reads ↔
      i < t.segments.length + (bedsOf t.beds config).length + t.effects.length ∧
        j = if i < t.segments.length then i else i + 1 := by
  cases h with
  | @segment j hj =>
      rw [segmentChain, List.mem_singleton, Source.input.injEq]
      split <;> omega
  | narration =>
      simp only [narrationChain, List.mem_map, reduceCtorEq, and_false, exists_false, false_iff]
      split <;> omega
  | @bed j bed hbed =>
      have hj := (List.getElem?_eq_some_iff.mp hbed).1
      rw [bedChain, List.mem_singleton, Source.input.injEq]
      split <;> omega
  | @effect j e he =>
      have hj := (List.getElem?_eq_some_iff.mp he).1
      rw [effectChain, List.mem_singleton, Source.input.injEq]
      split <;> omega
  | total =>
      simp only [totalChain, List.mem_map, reduceCtorEq, and_false, exists_false, false_iff,
        lastPlace]
      split <;> omega

theorem Source.label_injective : Function.Injective Source.label :=
  fun _ _ => Source.label.inj

theorem narrationChain_reads (count : Nat) (gain : Float) :
    (narrationChain count gain).reads =
      ((List.range count).map Label.segment).map .label := by
  rw [List.map_map]
  rfl

/-- What is strung together is what the chains before make. -/
theorem mem_strung_iff {l : Label} :
    l ∈ (List.range t.segments.length).map Label.segment ↔
      ∃ i c, Stands t config i c ∧ c.makes = l ∧ i < t.segments.length := by
  constructor
  · intro h
    obtain ⟨i, hi, rfl⟩ := List.mem_map.mp h
    exact ⟨i, _, .segment (List.mem_range.mp hi), rfl, List.mem_range.mp hi⟩
  · rintro ⟨i, c, hc, rfl, hi⟩
    cases hc with
    | segment => exact List.mem_map.mpr ⟨i, List.mem_range.mpr hi, rfl⟩
    | narration => exact absurd hi (Nat.lt_irrefl _)
    | bed => omega
    | effect => omega
    | total => exact absurd hi (by unfold lastPlace; omega)

/-- What is added up is what the chains between there and the last make. -/
theorem mem_summands_iff {l : Label} :
    l ∈ summands (bedsOf t.beds config) t.effects.length ↔
      ∃ i c, Stands t config i c ∧ c.makes = l ∧ t.segments.length ≤ i ∧
        i < lastPlace t config := by
  simp only [summands, List.mem_append, List.mem_cons, List.mem_map, List.mem_range]
  constructor
  · rintro ((rfl | ⟨bed, hbed, rfl⟩) | ⟨i, hi, rfl⟩)
    · exact ⟨_, _, .narration, rfl, Nat.le_refl _, by unfold lastPlace; omega⟩
    · obtain ⟨i, hi⟩ := List.getElem?_of_mem hbed
      have hlt := (List.getElem?_eq_some_iff.mp hi).1
      exact ⟨_, _, .bed hi, rfl, by omega, by unfold lastPlace; omega⟩
    · exact ⟨_, _, .effect (List.getElem?_eq_getElem hi), rfl, by omega, by unfold lastPlace; omega⟩
  · rintro ⟨i, c, hc, rfl, hi, hlast⟩
    cases hc with
    | segment h => omega
    | narration => exact .inl (.inl rfl)
    | bed h => exact .inl (.inr ⟨_, List.mem_of_getElem? h, rfl⟩)
    | effect h => exact .inr ⟨_, (List.getElem?_eq_some_iff.mp h).1, rfl⟩
    | total => exact absurd hlast (Nat.lt_irrefl _)

/-- A label is read once, where the segments are strung together or in the last chain, and only if
an earlier chain makes it. -/
theorem Stands.label_mem_reads_iff {j : Nat} {c : Chain} (h : Stands t config j c) (l : Label) :
    .label l ∈ c.reads ↔
      ∃ i d, Stands t config i d ∧ d.makes = l ∧ i < lastPlace t config ∧
        j = if i < t.segments.length then t.segments.length else lastPlace t config := by
  have hnarration : t.segments.length < lastPlace t config := by
    unfold lastPlace
    omega
  have hneither : ∀ {j}, j ≠ t.segments.length → j ≠ lastPlace t config →
      ¬ ∃ i d, Stands t config i d ∧ d.makes = l ∧ i < lastPlace t config ∧
        j = if i < t.segments.length then t.segments.length else lastPlace t config := by
    rintro j hk hlast ⟨i, d, -, -, -, hj⟩
    split at hj
    · exact hk hj
    · exact hlast hj
  cases h with
  | segment hj =>
      simp only [segmentChain, List.mem_singleton, reduceCtorEq, false_iff]
      exact hneither (by omega) (by omega)
  | @bed i bed hbed =>
      have hi := (List.getElem?_eq_some_iff.mp hbed).1
      simp only [bedChain, List.mem_singleton, reduceCtorEq, false_iff]
      exact hneither (by omega) (by unfold lastPlace; omega)
  | @effect i e he =>
      have hi := (List.getElem?_eq_some_iff.mp he).1
      simp only [effectChain, List.mem_singleton, reduceCtorEq, false_iff]
      exact hneither (by omega) (by unfold lastPlace; omega)
  | narration =>
      rw [narrationChain_reads, List.mem_map_of_injective Source.label_injective,
        @mem_strung_iff t config]
      constructor
      · rintro ⟨i, d, hd, hmakes, hi⟩
        exact ⟨i, d, hd, hmakes, Nat.lt_trans hi hnarration, (if_pos hi).symm⟩
      · rintro ⟨i, d, hd, hmakes, -, hplace⟩
        split at hplace
        · exact ⟨i, d, hd, hmakes, ‹_›⟩
        · exact absurd hplace (Nat.ne_of_lt hnarration)
  | total =>
      rw [totalChain, List.mem_map_of_injective Source.label_injective, mem_summands_iff]
      constructor
      · rintro ⟨i, d, hd, hmakes, hi, hlast⟩
        exact ⟨i, d, hd, hmakes, hlast, (if_neg (Nat.not_lt.mpr hi)).symm⟩
      · rintro ⟨i, d, hd, hmakes, hlast, hplace⟩
        split at hplace
        · exact absurd hplace.symm (Nat.ne_of_lt hnarration)
        · exact ⟨i, d, hd, hmakes, Nat.not_lt.mp ‹_›, hlast⟩

theorem Stands.reads_nodup {j : Nat} {c : Chain} (h : Stands t config j c) : c.reads.Nodup := by
  have hlabels := @makes_chainsOf_nodup t config
  rw [makes_chainsOf, List.nodup_append] at hlabels
  cases h with
  | segment hi => exact List.nodup_singleton _
  | narration =>
      rw [narrationChain_reads]
      exact hlabels.1.map Source.label_injective
  | bed hbed => exact List.nodup_singleton _
  | effect he => exact List.nodup_singleton _
  | total => exact (List.nodup_append.mp hlabels.2.1).1.map Source.label_injective

end StoryMix.Mix
