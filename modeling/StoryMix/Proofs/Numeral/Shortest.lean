import Mathlib.Algebra.Order.Floor.Semifield
import Mathlib.Data.Rat.Floor
import StoryMix.Numeral.Shortest
import StoryMix.Proofs.Numeral.Value

/-!
# Shortest decimals read back

The search for the shortest decimal compares whole numbers only; what is compared are the ends of an
interval around the value and points of a decimal grid (`readsBack_iff`). If a grid has a point in the
interval, the search finds one there (`onGrid_isSome`), and the grid of seventeen digits always has one,
since its step is less than the interval (`seventeen_digits`). So the search ends with a decimal that
reads back (`shortest_rounds`).
-/

namespace StoryMix.Numeral

/-! ## Powers as quotients of whole numbers -/

theorem cast_numerator (m : ℕ) (q : ℤ) : (numerator m q : ℚ) = binary m q * denominator q := by
  rw [numerator, denominator, Nat.cast_mul, cast_twoTo, cast_twoTo, binary, mul_assoc,
    ← zpow_natCast, ← zpow_natCast, ← zpow_add₀ two_ne_zero]
  congr 2
  omega

theorem cast_tenTo_toNat (t : ℤ) : (tenTo t.toNat : ℚ) = 10 ^ t * tenTo (-t).toNat := by
  rw [cast_tenTo, cast_tenTo, ← zpow_natCast, ← zpow_natCast, ← zpow_add₀ (by norm_num)]
  congr 1
  omega

theorem denominator_pos (q : ℤ) : (0 : ℚ) < denominator q := by
  rw [denominator, cast_twoTo]
  positivity

theorem tenTo_pos (n : ℕ) : (0 : ℚ) < tenTo n := by
  rw [cast_tenTo]
  positivity

/-! ## The interval that reads back -/

/-- The lower end of the interval of numbers that round to `m * 2 ^ q`. -/
def lower (m : ℕ) (q : ℤ) : ℚ :=
  binary (lowerEnd m q) (q - 2)

/-- The upper end of that interval. -/
def upper (m : ℕ) (q : ℤ) : ℚ :=
  binary (upperEnd m) (q - 2)

/-- A number that rounds to `m * 2 ^ q`. The ends of the interval do so if the mantissa is even. -/
def RoundsTo (m : ℕ) (q : ℤ) (y : ℚ) : Prop :=
  if m % 2 = 0 then lower m q ≤ y ∧ y ≤ upper m q else lower m q < y ∧ y < upper m q

variable {m d : ℕ} {q t : ℤ} {y z : ℚ}

theorem RoundsTo.le (h : RoundsTo m q y) : lower m q ≤ y ∧ y ≤ upper m q := by
  unfold RoundsTo at h
  split at h
  · exact h
  · exact ⟨h.1.le, h.2.le⟩

theorem roundsTo_of_lt (hl : lower m q < y) (hu : y < upper m q) : RoundsTo m q y := by
  unfold RoundsTo
  split
  · exact ⟨hl.le, hu.le⟩
  · exact ⟨hl, hu⟩

theorem RoundsTo.between {w : ℚ} (hy : RoundsTo m q y) (hz : RoundsTo m q z) (hyw : y ≤ w) (hwz : w ≤ z) :
    RoundsTo m q w := by
  unfold RoundsTo at *
  split_ifs at *
  · exact ⟨hy.1.trans hyw, hwz.trans hz.2⟩
  · exact ⟨hy.1.trans_le hyw, hwz.trans_lt hz.2⟩

theorem upper_eq (m : ℕ) (q : ℤ) : upper m q = (m + 1 / 2) * 2 ^ q := by
  rw [upper, binary, upperEnd, zpow_sub₀ two_ne_zero]
  push_cast
  ring

theorem lower_eq_of_ne (hm : 0 < m) (h : ¬ (m = hiddenBit ∧ -1074 < q)) :
    lower m q = (m - 1 / 2) * 2 ^ q := by
  rw [lower, binary, lowerEnd, if_neg h, zpow_sub₀ two_ne_zero, Nat.cast_sub (by omega)]
  push_cast
  ring

theorem lower_eq_of_eq (hm : 0 < m) (h : m = hiddenBit ∧ -1074 < q) :
    lower m q = (m - 1 / 4) * 2 ^ q := by
  rw [lower, binary, lowerEnd, if_pos h, zpow_sub₀ two_ne_zero, Nat.cast_sub (by omega)]
  push_cast
  ring

theorem lower_lt (hm : 0 < m) : lower m q < binary m q := by
  have hpow : (0 : ℚ) < 2 ^ q := by positivity
  unfold binary
  by_cases h : m = hiddenBit ∧ -1074 < q
  · rw [lower_eq_of_eq hm h]
    linarith
  · rw [lower_eq_of_ne hm h]
    linarith

theorem lt_upper (m : ℕ) (q : ℤ) : binary m q < upper m q := by
  have hpow : (0 : ℚ) < 2 ^ q := by positivity
  rw [upper_eq, binary]
  linarith

/-- A number rounds to itself. -/
theorem roundsTo_self (hm : 0 < m) : RoundsTo m q (binary m q) :=
  roundsTo_of_lt (lower_lt hm) (lt_upper m q)

theorem lower_pos (hm : 0 < m) : 0 < lower m q := by
  refine binary_pos ?_ _
  unfold lowerEnd
  split <;> omega

theorem half_le_lower (hm : 0 < m) : (m - 1 / 2 : ℚ) * 2 ^ q ≤ lower m q := by
  have hpow : (0 : ℚ) < 2 ^ q := by positivity
  by_cases h : m = hiddenBit ∧ -1074 < q
  · rw [lower_eq_of_eq hm h]
    linarith
  · rw [lower_eq_of_ne hm h]

/-- The interval of a number ends before that of a greater one begins. -/
theorem Canonical.upper_le_lower {m' : ℕ} {q' : ℤ} (h : Canonical m q) (h' : Canonical m' q')
    (hm' : 0 < m') (hlt : binary m q < binary m' q') : upper m q ≤ lower m' q' := by
  have hpow : (0 : ℚ) < 2 ^ q := by positivity
  have hm : (m : ℚ) + 1 ≤ 2 ^ 53 := mod_cast h.lt
  have hnot : ¬ (q' < q ∨ q' = q ∧ m' ≤ m) := fun hle => hlt.not_ge ((h'.le_iff h).1 hle)
  rw [upper_eq]
  rcases lt_or_ge q q' with hq | hq
  · -- Only a mantissa of the least 53 bits has a shorter interval below it.
    have hge := h.ge
    have hfull : hiddenBit ≤ m' := h'.full.resolve_right (by omega)
    have hdouble : (2 : ℚ) ^ q * 2 ≤ 2 ^ q' := by
      rw [← zpow_add_one₀ two_ne_zero]
      exact zpow_le_zpow_right₀ one_le_two (by omega)
    have hbelow : (m + 1 / 2 : ℚ) * 2 ^ q ≤ (2 ^ 53 - 1 / 2) * 2 ^ q := by
      gcongr
      linarith
    refine hbelow.trans ?_
    rcases hfull.eq_or_lt with heq | hmore
    · rw [lower_eq_of_eq hm' ⟨heq.symm, by omega⟩, ← heq, hiddenBit]
      push_cast
      linarith
    · have hmore' : (2 ^ 52 : ℚ) + 1 ≤ m' := mod_cast hmore
      refine LE.le.trans ?_ (half_le_lower hm')
      nlinarith
  · obtain rfl : q' = q := by omega
    have hnext : (m : ℚ) + 1 ≤ m' := mod_cast (by omega : m + 1 ≤ m')
    refine LE.le.trans ?_ (half_le_lower hm')
    gcongr
    linarith

/-! ## The grid -/

/-- What both sides of the comparisons of `readsBack` and `onGrid` are multiplied by. -/
def scale (q t : ℤ) : ℚ :=
  denominator q * tenTo (-t).toNat

theorem scale_pos (q t : ℤ) : 0 < scale q t :=
  mul_pos (denominator_pos q) (tenTo_pos _)

theorem cast_value_side (m : ℕ) (q t : ℤ) :
    ((numerator m q * tenTo (-t).toNat : ℕ) : ℚ) = binary m q * scale q t := by
  rw [Nat.cast_mul, cast_numerator, scale, mul_assoc]

theorem cast_step_side (q t : ℤ) :
    ((tenTo t.toNat * denominator q : ℕ) : ℚ) = 10 ^ t * scale q t := by
  rw [Nat.cast_mul, cast_tenTo_toNat, scale]
  ring

theorem le_iff_of_scaled {a b : ℕ} {u v c : ℚ} (hc : 0 < c) (ha : (a : ℚ) = u * c) (hb : (b : ℚ) = v * c) :
    a ≤ b ↔ u ≤ v := by
  rw [← mul_le_mul_iff_left₀ hc, ← ha, ← hb, Nat.cast_le]

theorem lt_iff_of_scaled {a b : ℕ} {u v c : ℚ} (hc : 0 < c) (ha : (a : ℚ) = u * c) (hb : (b : ℚ) = v * c) :
    a < b ↔ u < v := by
  rw [← mul_lt_mul_iff_left₀ hc, ← ha, ← hb, Nat.cast_lt]

/-- Reading back is lying in the interval. -/
theorem readsBack_iff : readsBack m q d t = true ↔ RoundsTo m q (d * 10 ^ t) := by
  have hscale := scale_pos (q - 2) t
  have hend : ∀ n : ℕ, ((n * (numerator 1 (q - 2) * tenTo (-t).toNat) : ℕ) : ℚ)
      = binary n (q - 2) * scale (q - 2) t := by
    intro n
    rw [Nat.cast_mul, cast_value_side, binary, binary, Nat.cast_one, one_mul, mul_assoc]
  have hpoint : ((d * tenTo t.toNat * denominator (q - 2) : ℕ) : ℚ) = d * 10 ^ t * scale (q - 2) t := by
    rw [mul_assoc, Nat.cast_mul, cast_step_side, mul_assoc]
  unfold readsBack RoundsTo
  dsimp only
  split <;> rw [Bool.and_eq_true, decide_eq_true_iff, decide_eq_true_iff]
  · rw [le_iff_of_scaled hscale (hend _) hpoint, le_iff_of_scaled hscale hpoint (hend _)]
    rfl
  · rw [lt_iff_of_scaled hscale (hend _) hpoint, lt_iff_of_scaled hscale hpoint (hend _)]
    rfl

theorem gridFloor_eq : gridFloor m q t = ⌊binary m q / 10 ^ t⌋₊ := by
  rw [gridFloor, ← Nat.floor_div_eq_div (K := ℚ), cast_value_side, cast_step_side,
    mul_div_mul_right _ _ (scale_pos q t).ne']

/-- What reads back is not zero. -/
theorem pos_of_roundsTo (hm : 0 < m) (h : RoundsTo m q (d * 10 ^ t)) : 0 < d :=
  Nat.pos_of_ne_zero fun hzero => by
    have hlower := (lower_pos (q := q) hm).trans_le h.le.1
    rw [hzero, Nat.cast_zero, zero_mul] at hlower
    exact lt_irrefl 0 hlower

theorem onGrid_roundsTo (h : onGrid m q t = some d) : RoundsTo m q (d * 10 ^ t) := by
  rw [← readsBack_iff]
  unfold onGrid at h
  dsimp only at h
  split at h
  · cases h; assumption
  · cases h; assumption
  · cases h
  · split at h <;> cases h
    · assumption
    · assumption
    · split <;> assumption

/-- If the grid has a point in the interval, one of the two neighbours of the value is there. -/
theorem onGrid_isSome (hm : 0 < m) (h : RoundsTo m q (d * 10 ^ t)) : (onGrid m q t).isSome := by
  have hpow : (0 : ℚ) < 10 ^ t := by positivity
  have hself := roundsTo_self (q := q) hm
  have hbelow : (gridFloor m q t * 10 ^ t : ℚ) ≤ binary m q := by
    rw [← le_div_iff₀ hpow, gridFloor_eq]
    exact Nat.floor_le (by have := binary_pos hm q; positivity)
  have habove : binary m q ≤ (gridFloor m q t + 1 : ℕ) * 10 ^ t := by
    rw [← div_le_iff₀ hpow, gridFloor_eq]
    push_cast
    exact (Nat.lt_floor_add_one _).le
  have hhit : readsBack m q (gridFloor m q t) t = true ∨ readsBack m q (gridFloor m q t + 1) t = true := by
    rw [readsBack_iff, readsBack_iff]
    rcases le_or_gt (d * 10 ^ t : ℚ) (binary m q) with hd | hd
    · have hfloor : d ≤ gridFloor m q t := by
        rw [gridFloor_eq]
        exact Nat.le_floor ((le_div_iff₀ hpow).2 hd)
      exact .inl (h.between hself (by gcongr) hbelow)
    · have hfloor : gridFloor m q t + 1 ≤ d := by
        rw [gridFloor_eq]
        exact (Nat.floor_lt (by have := binary_pos hm q; positivity)).2 ((div_lt_iff₀ hpow).2 hd)
      exact .inr (hself.between h habove (by gcongr))
  unfold onGrid
  dsimp only
  split
  · rfl
  · rfl
  · rename_i hl hu
    rw [hl, hu] at hhit
    simp at hhit
  · split <;> rfl

/-! ## The order of magnitude -/

theorem belowPower_iff {k : ℤ} : belowPower m q k = true ↔ binary m q < 10 ^ k := by
  rw [belowPower, decide_eq_true_iff]
  exact lt_iff_of_scaled (scale_pos q k) (cast_value_side m q k) (cast_step_side q k)

theorem magnitudeFrom_spec {fuel : ℕ} {k : ℤ} (hl : 10 ^ (k - 1) ≤ binary m q)
    (hu : binary m q < 10 ^ (k + fuel)) :
    10 ^ (magnitudeFrom m q fuel k - 1) ≤ binary m q ∧ binary m q < 10 ^ magnitudeFrom m q fuel k := by
  induction fuel generalizing k with
  | zero => exact ⟨hl, by rwa [Nat.cast_zero, add_zero] at hu⟩
  | succ fuel ih =>
      unfold magnitudeFrom
      by_cases hbelow : belowPower m q k = true
      · rw [if_pos hbelow]
        exact ⟨hl, belowPower_iff.1 hbelow⟩
      · rw [if_neg hbelow]
        rw [belowPower_iff, not_lt] at hbelow
        refine ih ?_ ?_
        · rwa [add_sub_cancel_right]
        · rwa [add_assoc, add_comm 1, ← Nat.cast_succ]

/-- `30103 / 100000` is near enough to the logarithm of two for all exponents of floats. -/
theorem estimate_of_nat : ∀ n < 1024, 10 ^ (n * 30103 / 100000) ≤ 10 * 2 ^ n
    ∧ 2 * 2 ^ n ≤ 10 ^ (n * 30103 / 100000 + 4) := by
  decide +kernel

theorem estimate_of_neg : ∀ n < 1075, 2 ^ n ≤ 10 ^ ((n * 30103 + 99999) / 100000 + 1)
    ∧ 2 * 10 ^ ((n * 30103 + 99999) / 100000) ≤ 10 ^ 4 * 2 ^ n := by
  decide +kernel

theorem estimate {l : ℤ} (hge : -1074 ≤ l) (hlt : l < 1024) :
    (10 : ℚ) ^ (l * 30103 / 100000 - 1) ≤ 2 ^ l ∧ (2 : ℚ) ^ (l + 1) ≤ 10 ^ (l * 30103 / 100000 + 4) := by
  rcases le_or_gt 0 l with hl | hl
  · obtain ⟨n, rfl⟩ := Int.eq_ofNat_of_zero_le hl
    obtain ⟨hlow, hhigh⟩ := estimate_of_nat n (by omega)
    have hk : (n * 30103 / 100000 : ℤ) = (n * 30103 / 100000 : ℕ) := by omega
    rw [hk]
    generalize n * 30103 / 100000 = k at hlow hhigh
    constructor
    · rw [zpow_sub₀ (by norm_num), zpow_one, div_le_iff₀ (by norm_num), mul_comm]
      exact_mod_cast hlow
    · rw [zpow_add₀ two_ne_zero, zpow_one, mul_comm]
      exact_mod_cast hhigh
  · obtain ⟨n, hn⟩ := Int.eq_ofNat_of_zero_le (neg_nonneg.2 hl.le)
    obtain rfl : l = -n := by omega
    obtain ⟨hlow, hhigh⟩ := estimate_of_neg n (by omega)
    have hk : (-n * 30103 / 100000 : ℤ) = -((n * 30103 + 99999) / 100000 : ℕ) := by omega
    rw [hk]
    generalize (n * 30103 + 99999) / 100000 = k at hlow hhigh
    constructor
    · rw [show (-k - 1 : ℤ) = -(k + 1 : ℕ) by omega, zpow_neg, zpow_neg, zpow_natCast, zpow_natCast]
      exact inv_anti₀ (by positivity) (mod_cast hlow)
    · rw [zpow_add₀ two_ne_zero, zpow_add₀ (by norm_num), zpow_neg, zpow_neg, zpow_natCast,
        zpow_natCast, zpow_one, inv_mul_le_iff₀ (by positivity), mul_comm _ ((10 : ℚ) ^ (4 : ℤ)),
        ← mul_assoc, ← div_eq_mul_inv, le_div_iff₀ (by positivity), mul_comm ((2 : ℚ) ^ n)]
      exact_mod_cast hhigh

theorem binary_log_bounds (hm : 0 < m) (q : ℤ) :
    (2 : ℚ) ^ (m.log2 + q) ≤ binary m q ∧ binary m q < 2 ^ (m.log2 + q + 1) := by
  have hlow : (2 ^ m.log2 : ℚ) ≤ m := mod_cast Nat.log2_self_le hm.ne'
  have hhigh : (m : ℚ) < 2 ^ (m.log2 + 1) := mod_cast Nat.lt_log2_self
  have hpow : (0 : ℚ) < 2 ^ q := by positivity
  unfold binary
  rw [add_right_comm, zpow_add₀ two_ne_zero, zpow_add₀ two_ne_zero, ← Nat.cast_succ, zpow_natCast,
    zpow_natCast]
  constructor <;> gcongr

/-- The magnitude is the least power of ten above the value. -/
theorem magnitude_spec (hm : 0 < m) (hc : Canonical m q) (hq : q ≤ 971) :
    10 ^ (magnitude m q - 1) ≤ binary m q ∧ binary m q < 10 ^ magnitude m q := by
  have hlog := (Nat.log2_lt hm.ne').2 hc.lt
  have hge := hc.ge
  obtain ⟨hlow, hhigh⟩ := estimate (l := m.log2 + q) (by omega) (by omega)
  obtain ⟨hl, hu⟩ := binary_log_bounds hm q
  exact magnitudeFrom_spec (hlow.trans hl) (hu.trans_le hhigh)

/-! ## The search -/

/-- The interval is not shorter than three quarters of a unit of the mantissa, and that is more than
the step of seventeen digits. -/
theorem step_lt_width (hm : 0 < m) (hc : Canonical m q) (hq : q ≤ 971) :
    (10 : ℚ) ^ (magnitude m q - 17) < upper m q - lower m q := by
  have hpow : (0 : ℚ) < 2 ^ q := by positivity
  have hstep : (10 : ℚ) ^ (magnitude m q - 17) * 10 ^ 16 ≤ m * 2 ^ q := by
    refine le_of_eq_of_le ?_ (magnitude_spec hm hc hq).1
    rw [← zpow_natCast, ← zpow_add₀ (by norm_num)]
    congr 1
    omega
  generalize (10 : ℚ) ^ (magnitude m q - 17) = step at hstep
  rw [upper_eq]
  by_cases h : m = hiddenBit ∧ -1074 < q
  · rw [lower_eq_of_eq hm h]
    rw [h.1, hiddenBit] at hstep
    push_cast at hstep
    linarith
  · rw [lower_eq_of_ne hm h]
    have hlt : (m : ℚ) < 2 ^ 53 := mod_cast hc.lt
    have hbelow := mul_lt_mul_of_pos_right hlt hpow
    linarith

/-- Seventeen digits are enough: their grid has a point in the interval. -/
theorem seventeen_digits (hm : 0 < m) (hc : Canonical m q) (hq : q ≤ 971) :
    ∃ d : ℕ, RoundsTo m q (d * 10 ^ (magnitude m q - 17)) := by
  have hwidth := step_lt_width hm hc hq
  have hstep : (0 : ℚ) < 10 ^ (magnitude m q - 17) := by positivity
  generalize (10 : ℚ) ^ (magnitude m q - 17) = step at hwidth hstep
  have hpos : 0 < upper m q / step := div_pos ((binary_pos hm q).trans (lt_upper m q)) hstep
  -- The last point of the grid below the upper end.
  obtain ⟨d, hd⟩ : ∃ d, ⌈upper m q / step⌉₊ = d + 1 :=
    Nat.exists_eq_succ_of_ne_zero (Nat.ceil_pos.2 hpos).ne'
  have hlast := Nat.ceil_lt_add_one hpos.le
  have hnext := Nat.le_ceil (upper m q / step)
  rw [hd] at hlast hnext
  push_cast at hlast hnext
  rw [add_lt_add_iff_right, lt_div_iff₀ hstep] at hlast
  rw [div_le_iff₀ hstep, add_mul, one_mul] at hnext
  exact ⟨d, roundsTo_of_lt (by linarith) hlast⟩

/-- If one of the grids that are tried has a point in the interval, the search ends at it or before. -/
theorem shortestFrom_spec {fuel j : ℕ} (hj : j < fuel) (h : (onGrid m q (t - j)).isSome) :
    ∃ d t', shortestFrom m q fuel t = ⟨d, t'⟩ ∧ onGrid m q t' = some d ∧ t - j ≤ t' ∧ t' ≤ t := by
  induction fuel generalizing t j with
  | zero => exact absurd hj (Nat.not_lt_zero j)
  | succ fuel ih =>
      unfold shortestFrom
      cases hgrid : onGrid m q t with
      | some d => exact ⟨d, t, rfl, hgrid, by omega, le_rfl⟩
      | none =>
          cases j with
          | zero => rw [Nat.cast_zero, sub_zero, hgrid] at h; cases h
          | succ j =>
              rw [Nat.cast_succ, show t - (j + 1) = t - 1 - j by omega] at h
              obtain ⟨d, t', hd, hsome, hge, hle⟩ := ih (Nat.lt_of_succ_lt_succ hj) h
              exact ⟨d, t', hd, hsome, by omega, by omega⟩

/-- The shortest decimal reads back. -/
theorem shortest_roundsTo (hm : 0 < m) (hc : Canonical m q) (hq : q ≤ 971) :
    RoundsTo m q ((shortest m q).digits * 10 ^ (shortest m q).exponent) := by
  obtain ⟨d, hd⟩ := seventeen_digits hm hc hq
  have hsome := onGrid_isSome hm hd
  rw [show magnitude m q - 17 = magnitude m q - 1 - (16 : ℕ) by omega] at hsome
  obtain ⟨d', t', heq, hgrid, -, -⟩ := shortestFrom_spec (by decide : 16 < 17) hsome
  rw [shortest, heq]
  exact onGrid_roundsTo hgrid

end StoryMix.Numeral
