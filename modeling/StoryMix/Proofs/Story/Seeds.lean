import Mathlib.Data.Fintype.EquivFin
import Mathlib.Data.Int.ModEq
import Mathlib.Dynamics.PeriodicPts.Lemmas
import Mathlib.Tactic.NormNum.GCD
import StoryMix.Proofs.Numeral.Signed
import StoryMix.Story.Generate

/-!
# The states that a seed leads through

A seed counts by its whole part modulo `2 ^ 32` (`toNat_state_ofSeed`), and each word moves the state on by the
same odd number (`toNat_state_iterate`). An odd number can be cancelled modulo a power of two, so no seed leads
into a cycle shorter than `2 ^ 32` (`minimalPeriod_step`), and of as many states in a row each word is one, and
just once (`existsUnique_state`). Words and lengths of lists are small enough for floats, so the share of a
list that is gone along is exact (`share_spec`), and so is where it ends (`pick?_spec`).
-/

namespace StoryMix.Story.Random

open Numeral (value binary Holds wholePart)

/-! ## States -/

theorem toNat_step (r : Random) : r.step.state.toNat = (r.state.toNat + 0x6D2B79F5) % 2 ^ 32 :=
  UInt32.toNat_add r.state increment

/-- Every word moves the state on by the same number. -/
theorem toNat_state_iterate (r : Random) (n : ℕ) :
    (step^[n] r).state.toNat = (r.state.toNat + n * 0x6D2B79F5) % 2 ^ 32 := by
  induction n with
  | zero =>
      rw [Nat.zero_mul, Nat.add_zero]
      exact (Nat.mod_eq_of_lt r.state.toNat_lt).symm
  | succ n ih =>
      rw [Function.iterate_succ_apply', toNat_step, ih, Nat.mod_add_mod]
      congr 1
      ring

/-- The state is all there is, and it is below `2 ^ 32`. -/
theorem eq_iff_toNat {r r' : Random} : r = r' ↔ r.state.toNat = r'.state.toNat := by
  rw [UInt32.toNat_inj]
  constructor
  · rintro rfl
    rfl
  · intro h
    obtain ⟨state⟩ := r
    obtain ⟨state'⟩ := r'
    exact congrArg Random.mk h

/-- Two states are the same just when the words between them are a multiple of `2 ^ 32`, since each moves the
state on by an odd number. -/
theorem iterate_eq_iff (r : Random) (i j : ℕ) : step^[i] r = step^[j] r ↔ i ≡ j [MOD 2 ^ 32] := by
  rw [eq_iff_toNat, toNat_state_iterate, toNat_state_iterate]
  constructor
  · intro h
    have hmultiple : i * 0x6D2B79F5 ≡ j * 0x6D2B79F5 [MOD 2 ^ 32] := Nat.ModEq.add_left_cancel' _ h
    exact Nat.ModEq.cancel_right_of_coprime (by norm_num) hmultiple
  · intro h
    exact Nat.ModEq.add_left _ (h.mul_right _)

theorem iterate_add_wordCount (r : Random) (n : ℕ) : step^[n + 2 ^ 32] r = step^[n] r :=
  (iterate_eq_iff r _ _).2 (Nat.add_mod_right n _)

/-- Every state comes back after `2 ^ 32` words, and not before. -/
theorem minimalPeriod_step (r : Random) : Function.minimalPeriod step r = 2 ^ 32 := by
  refine Nat.dvd_antisymm ?_ ?_
  · exact Function.IsPeriodicPt.minimalPeriod_dvd (iterate_add_wordCount r 0)
  · have hreturn : step^[Function.minimalPeriod step r] r = step^[0] r :=
      Function.isPeriodicPt_minimalPeriod step r
    exact (Nat.modEq_zero_iff_dvd).1 ((iterate_eq_iff r _ 0).1 hreturn)

/-- The states from the one after `k` words on, as numbers below `2 ^ 32`. -/
def stateFrom (r : Random) (k : ℕ) (i : Fin (2 ^ 32)) : Fin (2 ^ 32) :=
  ⟨(step^[k + i] r).state.toNat, (step^[k + i] r).state.toNat_lt⟩

theorem eq_of_modEq {k i j : ℕ} (h : k + i ≡ k + j [MOD 2 ^ 32]) (hi : i < 2 ^ 32) (hj : j < 2 ^ 32) : i = j :=
  (Nat.ModEq.add_left_cancel' k h).eq_of_lt_of_lt hi hj

theorem stateFrom_injective (r : Random) (k : ℕ) : Function.Injective (stateFrom r k) := by
  intro i j h
  have hstate : step^[k + i] r = step^[k + j] r := eq_iff_toNat.2 (congrArg Fin.val h)
  exact Fin.ext (eq_of_modEq ((iterate_eq_iff r _ _).1 hstate) i.isLt j.isLt)

/-- Of any `2 ^ 32` states in a row each word is one, and only once. -/
theorem existsUnique_state (r : Random) (k : ℕ) (word : UInt32) :
    ∃! n, k ≤ n ∧ n < k + 2 ^ 32 ∧ (step^[n] r).state = word := by
  -- There are as many states as words, and no two of them are the same.
  obtain ⟨i, hi⟩ := Finite.injective_iff_surjective.1 (stateFrom_injective r k) ⟨word.toNat, word.toNat_lt⟩
  have hword : (step^[k + i] r).state = word := UInt32.toNat_inj.1 (congrArg Fin.val hi)
  refine ⟨k + i, ⟨Nat.le_add_right _ _, Nat.add_lt_add_left i.isLt k, hword⟩, ?_⟩
  rintro n ⟨hlow, hhigh, hn⟩
  obtain ⟨j, rfl⟩ := Nat.exists_eq_add_of_le hlow
  have hstate : step^[k + j] r = step^[k + i] r :=
    eq_iff_toNat.2 (congrArg UInt32.toNat (hn.trans hword.symm))
  rw [eq_of_modEq ((iterate_eq_iff r _ _).1 hstate) (by omega) i.isLt]

/-! ## Seeds -/

/-- The state after some words, by the whole part of the seed. -/
theorem toNat_state_ofSeed (seed : Float) (n : ℕ) :
    ((step^[n] (ofSeed seed)).state.toNat : ℤ) = (wholePart seed + n * 0x6D2B79F5) % 2 ^ 32 := by
  have hseed : ((ofSeed seed).state.toNat : ℤ) = wholePart seed % 2 ^ 32 :=
    Numeral.toNat_wrapped seed
  rw [toNat_state_iterate]
  push_cast
  rw [hseed]
  exact Int.emod_add_emod _ (2 ^ 32) _

theorem ofSeed_eq_iff {seed seed' : Float} :
    ofSeed seed = ofSeed seed' ↔ wholePart seed ≡ wholePart seed' [ZMOD 2 ^ 32] := by
  rw [eq_iff_toNat, ← Int.natCast_inj]
  exact Iff.of_eq (congrArg₂ (· = ·) (Numeral.toNat_wrapped seed) (Numeral.toNat_wrapped seed'))

/-- The seed is asked for nothing but the generator that it makes. -/
theorem generate_congr {seed seed' : Float} (h : ofSeed seed = ofSeed seed') (o : Options) :
    generate { o with seed := some seed } = generate { o with seed := some seed' } := by
  have hcast : Options.cast { o with seed := some seed } = Options.cast { o with seed := some seed' } := by
    unfold Options.cast
    rw [Option.getD_some, Option.getD_some, h]
  unfold generate Options.lines
  rw [hcast]
  rfl

/-! ## Fractions and choices -/

theorem holds_wordCount : Holds wordCount.toFloat (2 ^ 52) (-20) := by
  have hparts : Numeral.parts wordCount.toFloat = .finite .positive (2 ^ 52) (-20) (by norm_num) := rfl
  exact .finite hparts

theorem binary_wordCount (n : ℕ) : (n / 2 ^ 32 : ℚ) = binary n (-32) := by
  rw [binary, div_eq_mul_inv, zpow_neg]
  norm_cast

/-- A fraction is the word divided by the number of words, and that exactly. -/
theorem fraction_spec (r : Random) :
    r.fraction.isFinite = true ∧ value r.fraction = r.word.toNat / 2 ^ 32 := by
  have hword : r.word.toNat < 2 ^ 32 := r.word.toNat_lt
  obtain ⟨m, q, hx, hvalue⟩ := Numeral.holds_ofNat (hword.trans (by norm_num))
  have hcount : binary (2 ^ 52) (-20) = 2 ^ 32 := by norm_num [binary]
  have hnearest := hx.nearest_div holds_wordCount (by norm_num)
  rw [hvalue, hcount] at hnearest
  refine hnearest.value_eq_of_le (n := r.word.toNat) (e := -32) (hword.le.trans (by norm_num)) (by norm_num)
    (by norm_num) ?_
  rw [binary_wordCount, abs_of_nonneg (Numeral.binary_nonneg _ _)]

/-- So is the share of a list that is gone along, as long as the list is short enough. -/
theorem share_spec (r : Random) {length : ℕ} (hlength : length < 2 ^ 21) :
    (r.fraction * length.toFloat).isFinite = true
      ∧ value (r.fraction * length.toFloat) = (r.word.toNat * length : ℕ) / 2 ^ 32 := by
  have hword : r.word.toNat < 2 ^ 32 := r.word.toNat_lt
  obtain ⟨hfinite, hfraction⟩ := r.fraction_spec
  obtain ⟨m, q, hx⟩ := Numeral.holds_of_value hfinite (by rw [hfraction]; positivity)
  obtain ⟨m', q', hy, hvalue'⟩ := Numeral.holds_ofNat (hlength.trans (by norm_num))
  have hnearest := hx.nearest_mul hy
  have hproduct : binary m q * binary m' q' = (r.word.toNat * length : ℕ) / 2 ^ 32 := by
    rw [← hx.value_eq, hfraction, hvalue']
    push_cast
    ring
  rw [hproduct] at hnearest
  have hsmall : r.word.toNat * length ≤ 2 ^ 53 :=
    (Nat.mul_le_mul hword.le hlength.le).trans (by norm_num)
  refine hnearest.value_eq_of_le (e := -32) hsmall (by norm_num) (by norm_num) ?_
  rw [binary_wordCount, abs_of_nonneg (Numeral.binary_nonneg _ _)]

/-- What is picked stands where the share of the list ends, its fraction left aside. -/
theorem pick?_spec {α : Type} (r : Random) {items : List α} (hpos : 0 < items.length)
    (hlength : items.length < 2 ^ 21) :
    ⌊value (r.fraction * items.length.toFloat)⌋ = (r.word.toNat * items.length / 2 ^ 32 : ℕ)
      ∧ ∃ h : r.word.toNat * items.length / 2 ^ 32 < items.length,
          r.pick? items = .ok (items[r.word.toNat * items.length / 2 ^ 32], r.step) := by
  refine ⟨?_, r.index_lt hpos, ?_⟩
  · rw [(r.share_spec hlength).2, ← Nat.floor_div_eq_div (K := ℚ)]
    push_cast
    exact (Int.natCast_floor_eq_floor (by positivity)).symm
  · unfold pick?
    rw [dif_pos hpos]
    rfl

/-- The sequence that a seed leads through, what can be seen of it, and what is picked by it. -/
theorem seeded_sequence :
    (∀ (seed : Float) (n : ℕ), ((step^[n] (ofSeed seed)).state.toNat : ℤ)
        = (wholePart seed + n * 0x6D2B79F5) % 2 ^ 32)
      ∧ (∀ seed seed', wholePart seed ≡ wholePart seed' [ZMOD 2 ^ 32] →
          (∀ n, step^[n] (ofSeed seed) = step^[n] (ofSeed seed'))
            ∧ ∀ o : Options, generate { o with seed := some seed } = generate { o with seed := some seed' })
      ∧ (∀ (r : Random) (k : ℕ) (word : UInt32), ∃! n, k ≤ n ∧ n < k + 2 ^ 32 ∧ (step^[n] r).state = word)
      ∧ (∀ r : Random, Function.minimalPeriod step r = 2 ^ 32
          ∧ ∀ n, (step^[n + 2 ^ 32] r).fraction = (step^[n] r).fraction)
      ∧ ∀ r : Random, ∃ k < 2 ^ 32, r.fraction.isFinite = true ∧ value r.fraction = (k : ℕ) / 2 ^ 32
          ∧ ∀ {α : Type} (items : List α), 0 < items.length → items.length < 2 ^ 21 →
            ⌊value (r.fraction * items.length.toFloat)⌋ = (k * items.length / 2 ^ 32 : ℕ)
              ∧ ∃ h : k * items.length / 2 ^ 32 < items.length,
                  r.pick? items = .ok (items[k * items.length / 2 ^ 32], r.step) := by
  refine ⟨toNat_state_ofSeed, ?_, existsUnique_state, ?_, ?_⟩
  · intro seed seed' h
    have hsame := ofSeed_eq_iff.2 h
    exact ⟨fun n => congrArg step^[n] hsame, generate_congr hsame⟩
  · intro r
    exact ⟨minimalPeriod_step r, fun n => congrArg fraction (iterate_add_wordCount r n)⟩
  · intro r
    obtain ⟨hfinite, hvalue⟩ := r.fraction_spec
    exact ⟨r.word.toNat, r.word.toNat_lt, hfinite, hvalue, fun items => r.pick?_spec⟩

/-- A seed below zero tells the story of one just short of `2 ^ 32`, and finds a place for it. -/
theorem seeded_sequence_before_midnight :
    wholePart (-1.5) = -1 ∧ wholePart 4294967295 = 4294967295
      ∧ (∀ o : Options,
          generate { o with seed := some (-1.5) } = generate { o with seed := some 4294967295 })
      ∧ 0 < places.length ∧ places.length < 2 ^ 21
      ∧ ∃ k < 2 ^ 32, value (ofSeed (-1.5)).fraction = (k : ℕ) / 2 ^ 32
          ∧ ∃ h : k * places.length / 2 ^ 32 < places.length,
              (ofSeed (-1.5)).pick? places = .ok (places[k * places.length / 2 ^ 32], (ofSeed (-1.5)).step) := by
  obtain ⟨-, hsame, -, -, hwords⟩ := seeded_sequence
  obtain ⟨k, hk, -, hvalue, hpick⟩ := hwords (ofSeed (-1.5))
  have hpos : 0 < places.length := by decide
  have hshort : places.length < 2 ^ 21 := by decide
  exact ⟨by decide +kernel, by decide +kernel, (hsame (-1.5) 4294967295 (by decide +kernel)).2, hpos, hshort, k, hk,
    hvalue, (hpick places hpos hshort).2⟩

end StoryMix.Story.Random
