import StoryMix.Proofs.Numeral.Shortest
import StoryMix.Proofs.Numeral.Whole

/-!
# Rounding to the nearest float

The residual bits of a mantissa say where the number lies that it was cut off from (`CutFrom`), and go on
saying so while it is shifted. So it is rounded to a whole number that is within a half, and nearer if it is
odd, and what rounding ends with is the float nearest to the number (`nearestTo_round`): a canonical number
in whose interval that lies, or infinity from `overflow` on. Products and quotients are rounded this way.
-/

namespace StoryMix.Numeral

open Float.Model Float.Model.UnpackedFloat

/-! ## What the residual bits keep -/

/-- A mantissa cut off from `z`. In quarters it is exact, unless its last bit says that it is between two. -/
def CutFrom (z : ℚ) (em : ExtendedMantissa) : Prop :=
  if code em % 2 = 0 then 4 * z = code em else code em - 1 < 4 * z ∧ 4 * z < code em + 1

/-- A whole number within a half of `z`, and nearer if it is odd. -/
def WithinHalf (n : ℕ) (z : ℚ) : Prop :=
  if n % 2 = 0 then n - 1 / 2 ≤ z ∧ z ≤ n + 1 / 2 else n - 1 / 2 < z ∧ z < n + 1 / 2

theorem withinHalf_of_lt {n : ℕ} {z : ℚ} (hl : n - 1 / 2 < z) (hu : z < n + 1 / 2) : WithinHalf n z := by
  unfold WithinHalf
  split
  · exact ⟨hl.le, hu.le⟩
  · exact ⟨hl, hu⟩

namespace CutFrom

variable {z : ℚ} {em : ExtendedMantissa}

theorem near (h : CutFrom z em) : code em - 1 < 4 * z ∧ 4 * z < code em + 1 := by
  unfold CutFrom at h
  split at h
  · constructor <;> linarith
  · exact h

theorem shiftRightOne (h : CutFrom z em) : CutFrom (z / 2) em.shiftRightOne := by
  have hnear := h.near
  unfold CutFrom at *
  rw [code_shiftRightOne]
  generalize code em = c at h hnear
  have hc : (c : ℚ) = 4 * (c / 4 : ℕ) + (c % 4 : ℕ) := by
    exact_mod_cast (Nat.div_add_mod c 4).symm
  rcases Nat.eq_zero_or_pos (c % 4) with hr | hr
  · rw [if_pos (by omega)] at h
    rw [if_pos (by omega), hr, Nat.min_zero, add_zero]
    rw [hr, Nat.cast_zero] at hc
    push_cast
    linarith
  · -- What was between two quarters, or on one, is now between two.
    have hlow : (1 : ℚ) ≤ (c % 4 : ℕ) := by exact_mod_cast hr
    have hhigh : ((c % 4 : ℕ) : ℚ) ≤ 3 := by exact_mod_cast (by omega : c % 4 ≤ 3)
    rw [Nat.min_eq_left hr, if_neg (by omega)]
    push_cast
    constructor <;> linarith

theorem shiftRight (h : CutFrom z em) (k : ℕ) : CutFrom (z / 2 ^ k) (em >>> k) := by
  induction k with
  | zero =>
      rw [pow_zero, div_one]
      exact h
  | succ k ih =>
      rw [pow_succ, ← div_div]
      exact ih.shiftRightOne

theorem bounds (h : CutFrom z em) : em.mantissa ≤ z ∧ z < em.mantissa + 1 := by
  have hnear := h.near
  unfold CutFrom at h
  obtain ⟨m, r, s⟩ := em
  have hhigh : ((code ⟨m, r, s⟩ : ℕ) : ℚ) ≤ 4 * m + 3 := by
    have hr := r.toNat_le
    have hs := s.toNat_le
    unfold code
    exact_mod_cast (by dsimp only; omega)
  refine ⟨?_, by dsimp only; linarith⟩
  rcases Nat.eq_zero_or_pos (2 * r.toNat + s.toNat) with hzero | hpos
  · have hcode : code ⟨m, r, s⟩ = 4 * m := by unfold code; dsimp only; omega
    rw [hcode, if_pos (by omega)] at h
    push_cast at h
    dsimp only
    linarith
  · have hlow : 4 * m + 1 ≤ ((code ⟨m, r, s⟩ : ℕ) : ℚ) := by
      unfold code
      exact_mod_cast (by dsimp only; omega)
    dsimp only
    linarith

theorem withinHalf (h : CutFrom z em) : WithinHalf em.roundedMantissa z := by
  obtain ⟨hlow, hhigh⟩ := h.bounds
  have hnear := h.near
  unfold CutFrom at h
  obtain ⟨m, r, s⟩ := em
  dsimp only at hlow hhigh
  cases r with
  | false =>
      have hcode : ((code ⟨m, false, s⟩ : ℕ) : ℚ) ≤ 4 * m + 1 := by
        have hs := s.toNat_le
        unfold code
        exact_mod_cast (by dsimp only [Bool.toNat_false]; omega)
      have hrounded : ExtendedMantissa.roundedMantissa ⟨m, false, s⟩ = m := by cases s <;> rfl
      rw [hrounded]
      exact withinHalf_of_lt (by linarith) (by linarith)
  | true =>
      cases s with
      | false =>
          -- Halfway, the even neighbour is taken.
          have hcode : code ⟨m, true, false⟩ = 4 * m + 2 := rfl
          have hrounded : ExtendedMantissa.roundedMantissa ⟨m, true, false⟩ = m + m % 2 := rfl
          rw [hcode, if_pos (by omega)] at h
          push_cast at h
          rw [hrounded, WithinHalf, if_pos (by omega)]
          rcases Nat.mod_two_eq_zero_or_one m with heven | hodd
          · rw [heven, add_zero]
            constructor <;> linarith
          · rw [hodd]
            push_cast
            constructor <;> linarith
      | true =>
          have hcode : code ⟨m, true, true⟩ = 4 * m + 3 := rfl
          have hrounded : ExtendedMantissa.roundedMantissa ⟨m, true, true⟩ = m + 1 := rfl
          rw [hcode] at hnear
          push_cast at hnear
          rw [hrounded]
          exact withinHalf_of_lt (by push_cast; linarith) (by push_cast; linarith)

end CutFrom

/-! ## The interval it lies in -/

theorem lower_zero (t : ℤ) : lower 0 t = 0 := by
  rw [lower, lowerEnd, if_neg (by simp [hiddenBit]), binary_zero]

/-- A whole number within a half, at the exponent of a float. The least mantissa of 53 bits has a shorter
interval below it, and is only reached from above. -/
theorem WithinHalf.roundsTo {n : ℕ} {t : ℤ} {z : ℚ} (h : WithinHalf n z) (hz : 0 ≤ z)
    (hleast : n = hiddenBit → -1074 < t → hiddenBit ≤ z) : RoundsTo n t (z * 2 ^ t) := by
  have hpow : (0 : ℚ) < 2 ^ t := by positivity
  have hupper : upper n t = (n + 1 / 2) * 2 ^ t := upper_eq n t
  rcases Nat.eq_zero_or_pos n with rfl | hn
  · unfold WithinHalf at h
    rw [if_pos rfl] at h
    rw [RoundsTo, if_pos rfl, hupper, lower_zero]
    exact ⟨by positivity, mul_le_mul_of_nonneg_right h.2 hpow.le⟩
  by_cases hcase : n = hiddenBit ∧ -1074 < t
  · have hbelow := hleast hcase.1 hcase.2
    rw [← hcase.1] at hbelow
    have heven : n % 2 = 0 := by rw [hcase.1]; rfl
    unfold WithinHalf at h
    rw [if_pos heven] at h
    rw [RoundsTo, if_pos heven, hupper, lower_eq_of_eq hn hcase]
    exact ⟨mul_le_mul_of_nonneg_right (by linarith) hpow.le, mul_le_mul_of_nonneg_right h.2 hpow.le⟩
  · unfold WithinHalf at h
    rw [RoundsTo, hupper, lower_eq_of_ne hn hcase]
    split at h
    · rw [if_pos ‹_›]
      exact ⟨mul_le_mul_of_nonneg_right h.1 hpow.le, mul_le_mul_of_nonneg_right h.2 hpow.le⟩
    · rw [if_neg ‹_›]
      exact ⟨mul_lt_mul_of_pos_right h.1 hpow, mul_lt_mul_of_pos_right h.2 hpow⟩

/-- A mantissa that was rounded up to 54 bits, with its last one taken off. -/
theorem WithinHalf.roundsTo_carried {t : ℤ} {z : ℚ} (h : WithinHalf (2 ^ 53) z) (ht : -1074 ≤ t) :
    RoundsTo (2 ^ 52) (t + 1) (z * 2 ^ t) := by
  have hpow : (0 : ℚ) < 2 ^ t := by positivity
  unfold WithinHalf at h
  rw [if_pos (by norm_num)] at h
  push_cast at h
  rw [RoundsTo, if_pos (by norm_num), upper_eq, lower_eq_of_eq (m := 2 ^ 52) (by norm_num) ⟨rfl, by omega⟩,
    zpow_add_one₀ two_ne_zero]
  push_cast
  constructor <;> nlinarith

/-! ## The nearest float -/

/-- Half a unit above the greatest finite float. What is not below is rounded to infinity. -/
def overflow : ℚ :=
  2 ^ 1024 - 2 ^ 970

theorem canonical_greatest : Canonical (2 ^ 53 - 1) 971 :=
  ⟨by norm_num, by norm_num, .inl (by norm_num)⟩

theorem canonical_zero : Canonical 0 (-1074) :=
  ⟨by norm_num, le_rfl, .inr rfl⟩

variable {m : ℕ} {q e : ℤ} {y : ℚ}

/-- A float lies in its own interval. -/
theorem Canonical.roundsTo_binary (h : Canonical m q) : RoundsTo m q (binary m q) := by
  rcases Nat.eq_zero_or_pos m with rfl | hm
  · rw [binary_zero, RoundsTo, if_pos rfl, upper_eq, lower_zero]
    exact ⟨le_rfl, by positivity⟩
  · exact roundsTo_self hm

theorem overflow_eq : overflow = upper (2 ^ 53 - 1) 971 := by
  have hlarge : (2 : ℚ) ^ 1024 = 2 ^ 54 * 2 ^ 970 := pow_add 2 54 970
  have hunit : (2 : ℚ) ^ (971 : ℤ) = 2 * 2 ^ 970 := by
    rw [show (971 : ℤ) = (970 + 1 : ℕ) from rfl, zpow_natCast, pow_succ']
  rw [overflow, upper_eq, hunit, hlarge]
  generalize (2 : ℚ) ^ 970 = u
  norm_num
  ring

theorem Canonical.overflow_le_lower (h : Canonical m q) (hq : 971 < q) : overflow ≤ lower m q := by
  have hm : 0 < m := (Nat.two_pow_pos 52).trans_le (h.full.resolve_right (by omega))
  rw [overflow_eq]
  exact canonical_greatest.upper_le_lower h hm (canonical_greatest.binary_lt h hq)

/-- The ends of an interval belong to it only if the mantissa is even. -/
theorem RoundsTo.strict (h : RoundsTo m q y) (hodd : m % 2 ≠ 0) : lower m q < y ∧ y < upper m q := by
  unfold RoundsTo at h
  rwa [if_neg hodd] at h

theorem RoundsTo.lt_overflow (h : RoundsTo m q y) (hc : Canonical m q) (hq : q ≤ 971) : y < overflow := by
  rw [overflow_eq]
  rcases lt_or_ge (binary m q) (binary (2 ^ 53 - 1) 971) with hlt | hge
  · exact h.le.2.trans_lt ((hc.upper_le_lower canonical_greatest (by norm_num) hlt).trans_lt
      ((lower_lt (by norm_num)).trans (lt_upper _ _)))
  · -- The greatest mantissa is odd.
    have hlt := hc.lt
    obtain ⟨rfl, rfl⟩ : m = 2 ^ 53 - 1 ∧ q = 971 := by
      have hle := (canonical_greatest.le_iff hc).2 hge
      omega
    exact (h.strict (by norm_num)).2

/-- The parts of the float nearest to `y`, which is not negative. -/
inductive NearestTo (y : ℚ) : UnpackedFloat → Prop
  | zero : RoundsTo 0 (-1074) y → NearestTo y (.zero .positive)
  | finite {m q h} : Canonical m q → q ≤ 971 → RoundsTo m q y → NearestTo y (.finite .positive m q h)
  | infinity : overflow ≤ y → NearestTo y (.infinity .positive)

/-- The parts that a result is stored as. -/
abbrev stored (u : UnpackedFloat) : UnpackedFloat :=
  UnpackedFloat.unpack Format.binary64 (UnpackedFloat.pack Format.binary64 u)

theorem nearestTo_stored (h : 0 < m) (hc : Canonical m q) (hy : RoundsTo m q y) :
    NearestTo y (stored (.finite .positive m q h)) := by
  unfold stored
  rcases le_or_gt q 971 with hq | hq
  · rw [unpack_pack_of_le h hc hq]
    exact .finite hc hq hy
  · rw [unpack_pack_of_lt h hq]
    exact .infinity ((hc.overflow_le_lower hq).trans hy.le.1)

/-- The mantissa that is rounded has at most 53 bits, and 53 above the least exponent. -/
theorem CutFrom.cut_bounds {accuracy : Accuracy} (hm : 0 < m ∨ e ≤ -1074) (he : e ≤ target m e) {em}
    (hem : ExtendedMantissa.ofMantissaAndAccuracy m accuracy >>> (target m e - e).toNat = em) :
    em.mantissa < 2 ^ 53 ∧ (2 ^ 52 ≤ em.mantissa ∨ target m e = -1074) := by
  have hmantissa : em.mantissa = m / 2 ^ (target m e - e).toNat := by
    have hkept : (ExtendedMantissa.ofMantissaAndAccuracy m accuracy).mantissa = m := by
      rcases accuracy with _ | (_ | _ | _) <;> rfl
    rw [← hem, mantissa_shiftRight, hkept]
  rw [hmantissa]
  rcases Nat.eq_zero_or_pos m with rfl | hpos
  · have hleast : e ≤ -1074 := hm.resolve_left (Nat.lt_irrefl 0)
    refine ⟨by rw [Nat.zero_div]; positivity, .inr ?_⟩
    rw [target_eq, Nat.log2_zero]
    omega
  · exact Numeral.cut_bounds hpos he

/-- A number that a mantissa was cut off from is rounded to the nearest float. -/
theorem nearestTo_round {accuracy : Accuracy} (hm : 0 < m ∨ e ≤ -1074) (he : e ≤ target m e)
    (hy : CutFrom (y / 2 ^ e) (ExtendedMantissa.ofMantissaAndAccuracy m accuracy)) :
    NearestTo y (stored (roundWithAccuracy Format.binary64 .positive m e accuracy)) := by
  have hge : -1074 ≤ target m e := by rw [target_eq]; omega
  obtain ⟨em, hem⟩ : ∃ em,
      ExtendedMantissa.ofMantissaAndAccuracy m accuracy >>> (target m e - e).toNat = em := ⟨_, rfl⟩
  obtain ⟨z, hz⟩ : ∃ z : ℚ, y / 2 ^ e / 2 ^ (target m e - e).toNat = z := ⟨_, rfl⟩
  have hscale : z * 2 ^ target m e = y := by
    have hsum : e + ((target m e - e).toNat : ℤ) = target m e := by omega
    rw [← hz, div_div, ← zpow_natCast, ← zpow_add₀ two_ne_zero, hsum]
    exact div_mul_cancel₀ y (by positivity)
  have hcut : CutFrom z em := hem ▸ hz ▸ hy.shiftRight (target m e - e).toNat
  obtain ⟨hlt, hfull⟩ := CutFrom.cut_bounds hm he hem
  obtain ⟨hlow, -⟩ := hcut.bounds
  have hhalf := hcut.withinHalf
  obtain ⟨hup, hdown⟩ := roundedMantissa_bounds em
  unfold roundWithAccuracy
  rw [shiftToTarget_eq he, hem]
  dsimp only
  rw [← hscale]
  generalize em.roundedMantissa = n at hhalf hup hdown
  generalize target m e = t at hge hfull
  rcases Nat.lt_or_ge n (2 ^ 53) with hsmall | hbig
  · have hrounds : RoundsTo n t (z * 2 ^ t) := by
      refine hhalf.roundsTo ((Nat.cast_nonneg _).trans hlow) fun _ ht => ?_
      have hmantissa : hiddenBit ≤ em.mantissa := hfull.resolve_right ht.ne'
      exact (Nat.cast_le.2 hmantissa).trans hlow
    rw [shiftToTarget_of_lt hsmall hge]
    rcases Nat.eq_zero_or_pos n with rfl | hn
    · obtain rfl : t = -1074 := by omega
      rw [dif_pos rfl]
      exact .zero hrounds
    · rw [dif_neg hn.ne']
      exact nearestTo_stored hn ⟨hsmall, hge, hfull.imp_left fun h => h.trans hup⟩ hrounds
  · obtain rfl : n = 2 ^ 53 := by omega
    rw [shiftToTarget_of_eq hge, dif_neg (by norm_num)]
    exact nearestTo_stored (by norm_num) ⟨by norm_num, by omega, .inl le_rfl⟩ (hhalf.roundsTo_carried hge)

/-- The zero is the nearest float to zero. -/
theorem nearestTo_zero : NearestTo 0 (.zero .positive) :=
  .zero (binary_zero (-1074) ▸ canonical_zero.roundsTo_binary)

theorem NearestTo.nonneg {u : UnpackedFloat} (h : NearestTo y u) : 0 ≤ y := by
  cases h with
  | zero h =>
      have hlower : 0 ≤ lower 0 (-1074) := binary_nonneg _ _
      exact hlower.trans h.le.1
  | @finite m q _ _ _ h =>
      have hlower : 0 ≤ lower m q := binary_nonneg _ _
      exact hlower.trans h.le.1
  | infinity h =>
      rw [overflow_eq] at h
      have hupper : 0 ≤ upper (2 ^ 53 - 1) 971 := binary_nonneg _ _
      exact hupper.trans h

/-! ## Products and quotients -/

theorem cutFrom_exact (m : ℕ) : CutFrom m (unshifted m) := by
  rw [CutFrom, show code (unshifted m) = 4 * m from rfl, if_pos (by omega)]
  push_cast
  rfl

/-- The product of two finite numbers, of which the mantissas are long enough together. -/
theorem nearestTo_mul {m' : ℕ} {q' : ℤ} {h h'} (hq : q + q' ≤ target (m * m') (q + q')) :
    NearestTo (binary m q * binary m' q')
      (stored (UnpackedFloat.mul Format.binary64 (.finite .positive m q h) (.finite .positive m' q' h'))) := by
  refine nearestTo_round (.inl (Nat.mul_pos h h')) hq ?_
  rw [← binary_mul_binary, binary, mul_div_cancel_right₀ _ (by positivity)]
  exact cutFrom_exact _

/-- The rest of a division says how far the quotient is from the exact one. -/
theorem cutFrom_div (a : ℕ) {b : ℕ} (hb : 0 < b) :
    CutFrom (a / b) (ExtendedMantissa.ofMantissaAndAccuracy (a / b) (accuracyOfFraction (a % b) b)) := by
  have hb' : (0 : ℚ) < b := by exact_mod_cast hb
  obtain ⟨z, hz⟩ : ∃ z : ℚ, (a / b : ℚ) = z := ⟨_, rfl⟩
  have hsplit : b * z = b * (a / b : ℕ) + (a % b : ℕ) := by
    rw [← hz, mul_div_cancel₀ _ hb'.ne']
    exact_mod_cast (Nat.div_add_mod a b).symm
  have hlt : ((a % b : ℕ) : ℚ) < b := by exact_mod_cast Nat.mod_lt a hb
  rw [hz]
  generalize a / b = n at hsplit
  generalize a % b = r at hsplit hlt
  unfold accuracyOfFraction
  rcases Nat.eq_zero_or_pos r with rfl | hr
  · rw [if_pos rfl, Nat.cast_zero, add_zero] at *
    rw [mul_left_cancel₀ hb'.ne' hsplit]
    exact cutFrom_exact n
  have hr' : (0 : ℚ) < r := by exact_mod_cast hr
  rw [if_neg hr.ne', CutFrom]
  rcases Nat.lt_trichotomy (2 * r) b with hless | heq | hmore
  · have hless' : (2 * r : ℚ) < b := by exact_mod_cast hless
    have hcode : code (ExtendedMantissa.ofMantissaAndAccuracy n (.inexact .lt)) = 4 * n + 1 := rfl
    rw [Nat.compare_eq_lt.2 hless, hcode, if_neg (by omega)]
    push_cast
    constructor <;> nlinarith
  · have heq' : (2 * r : ℚ) = b := by exact_mod_cast heq
    have hcode : code (ExtendedMantissa.ofMantissaAndAccuracy n (.inexact .eq)) = 4 * n + 2 := rfl
    rw [Nat.compare_eq_eq.2 heq, hcode, if_pos (by omega)]
    push_cast
    nlinarith
  · have hmore' : (b : ℚ) < 2 * r := by exact_mod_cast hmore
    have hcode : code (ExtendedMantissa.ofMantissaAndAccuracy n (.inexact .gt)) = 4 * n + 3 := rfl
    rw [Nat.compare_eq_gt.2 hmore, hcode, if_neg (by omega)]
    push_cast
    constructor <;> nlinarith

theorem two_pow_le_div {m' k : ℕ} (hm : 0 < m) (hm' : 0 < m') (hk : m'.log2 + 53 ≤ m.log2 + k) :
    2 ^ 52 ≤ m * 2 ^ k / m' := by
  rw [Nat.le_div_iff_mul_le hm']
  calc 2 ^ 52 * m'
      ≤ 2 ^ 52 * 2 ^ (m'.log2 + 1) := Nat.mul_le_mul_left _ Nat.lt_log2_self.le
    _ = 2 ^ (m'.log2 + 53) := by rw [← pow_add]; congr 1; omega
    _ ≤ 2 ^ (m.log2 + k) := Nat.pow_le_pow_right (by norm_num) hk
    _ = 2 ^ m.log2 * 2 ^ k := pow_add _ _ _
    _ ≤ m * 2 ^ k := Nat.mul_le_mul_right _ (Nat.log2_self_le hm.ne')

/-- The quotient of two finite numbers. Its mantissa is given 53 bits, or the least exponent. -/
theorem nearestTo_div {m' : ℕ} {q' : ℤ} {h : 0 < m} {h' : 0 < m'} :
    NearestTo (binary m q / binary m' q')
      (stored (UnpackedFloat.div Format.binary64 (.finite .positive m q h) (.finite .positive m' q' h'))) := by
  obtain ⟨t, ht⟩ : ∃ t, Format.binary64.targetExponent (totalExponent m q - totalExponent m' q') = t :=
    ⟨_, rfl⟩
  have hexponent : t = max ((m.log2 + q) - (m'.log2 + q') - 53 : ℤ) (-1074) := by
    have hleast : Format.binary64.minExponent = -1074 := rfl
    have hbits : (Format.binary64.mantissaBits : ℤ) = 53 := rfl
    rw [← ht, Format.targetExponent, hleast, hbits, totalExponent, totalExponent]
    omega
  obtain ⟨e, he⟩ : ∃ e, min (q - q') t = e := ⟨_, rfl⟩
  obtain ⟨k, hk⟩ : ∃ k, (q - q' - e).toNat = k := ⟨_, rfl⟩
  have hdiv : UnpackedFloat.div Format.binary64 (.finite .positive m q h) (.finite .positive m' q' h')
      = roundWithAccuracy Format.binary64 .positive (m * 2 ^ k / m') e
          (accuracyOfFraction (m * 2 ^ k % m') m') := by
    rw [← hk, ← he, ← ht, ← Nat.shiftLeft_eq]
    rfl
  have hlong : 2 ^ 52 ≤ m * 2 ^ k / m' ∨ e ≤ -1074 := by
    rcases le_or_gt e (-1074) with hsmall | hlarge
    · exact .inr hsmall
    · exact .inl (two_pow_le_div h h' (by omega))
  have htarget : e ≤ target (m * 2 ^ k / m') e := by
    rw [target_eq]
    rcases hlong with hfull | hleast
    · have hlog := (Nat.le_log2 ((Nat.two_pow_pos 52).trans_le hfull).ne').2 hfull
      omega
    · omega
  rw [hdiv]
  refine nearestTo_round (hlong.imp_left ((Nat.two_pow_pos 52).trans_le)) htarget ?_
  have hvalue : binary m q / binary m' q' / 2 ^ e = (m * 2 ^ k : ℕ) / m' := by
    have hpow : (2 : ℚ) ^ q = 2 ^ k * 2 ^ e * 2 ^ q' := by
      rw [← zpow_natCast, ← zpow_add₀ two_ne_zero, ← zpow_add₀ two_ne_zero]
      congr 1
      omega
    rw [binary, binary, hpow]
    push_cast
    field_simp
  rw [hvalue]
  exact cutFrom_div _ h'

theorem parts_div (x y : Float) :
    parts (x / y) = stored (UnpackedFloat.div Format.binary64 (parts x) (parts y)) := rfl

end StoryMix.Numeral
