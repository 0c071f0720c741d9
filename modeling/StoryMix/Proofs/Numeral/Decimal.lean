import StoryMix.Numeral.Reader
import StoryMix.Proofs.Numeral.Nearest

/-!
# Reading decimals

A decimal is read as the float nearest to it (`nearestTo_nearest`). With few digits and a small exponent it
is one product or one quotient of two floats that are exact, since the powers of ten up to there are floats
(`parts_powerOfTen`). In general the power of ten is a whole number that is multiplied or divided by
(`nearestTo_scaled`).
-/

namespace StoryMix.Numeral

open Float.Model Float.Model.UnpackedFloat

variable {m : ℕ} {q : ℤ}

/-! ## Powers of ten -/

/-- The parts stand for a power of ten. -/
def isPowerOfTen (n : ℕ) : UnpackedFloat → Bool
  | .finite .positive m q _ => numerator m q == tenTo n * denominator q
  | _ => false

theorem isPowerOfTen_powers : ∀ i : Fin Float.exactlyRepresentablePowersOfTen.size,
    isPowerOfTen i (parts Float.exactlyRepresentablePowersOfTen[i]) = true := by
  decide

theorem parts_powerOfTen {n : ℕ} (h : n < Float.exactlyRepresentablePowersOfTen.size) :
    ∃ m q hm, parts Float.exactlyRepresentablePowersOfTen[n] = .finite .positive m q hm
      ∧ binary m q = 10 ^ n := by
  have hpower := isPowerOfTen_powers ⟨n, h⟩
  change isPowerOfTen n (parts Float.exactlyRepresentablePowersOfTen[n]) = true at hpower
  generalize parts Float.exactlyRepresentablePowersOfTen[n] = u at hpower
  rcases u with _ | _ | _ | ⟨_ | _, m, q, hm⟩
  case finite.positive =>
    refine ⟨m, q, hm, rfl, mul_right_cancel₀ (denominator_pos q).ne' ?_⟩
    rw [← cast_numerator, eq_of_beq hpower, Nat.cast_mul, cast_tenTo]
  all_goals cases hpower

/-- A power of ten as a whole number. -/
theorem binary_tenTo (n : ℕ) : binary (10 ^ n) 0 = 10 ^ n := by
  rw [binary, zpow_zero, mul_one, Nat.cast_pow, Nat.cast_ofNat]

/-! ## Exponents out of range -/

/-- With so great an exponent any number is out of range. -/
theorem overflow_le_of_lt {digits : ℕ} {exponent : ℤ} (hpos : 0 < digits) (h : 2 ^ 11 < exponent) :
    overflow ≤ digits * 10 ^ exponent := by
  have hdigits : (1 : ℚ) ≤ digits := by exact_mod_cast hpos
  calc overflow
      ≤ (2 : ℚ) ^ (1024 : ℤ) := sub_le_self _ (by positivity)
    _ ≤ 2 ^ exponent := zpow_le_zpow_right₀ one_le_two (by omega)
    _ ≤ 10 ^ exponent := zpow_le_zpow_left₀ (by omega) (by norm_num) (by norm_num)
    _ ≤ digits * 10 ^ exponent := le_mul_of_one_le_left (by positivity) hdigits

/-- With so small an exponent any number is next to nothing. -/
theorem le_upper_of_lt {digits : ℕ} {exponent : ℤ} (h : exponent < -(2 ^ 11 + (digits.log2 : ℤ))) :
    digits * 10 ^ exponent ≤ upper 0 (-1074) := by
  obtain ⟨k, rfl⟩ : ∃ k : ℕ, exponent = -k := ⟨(-exponent).toNat, by omega⟩
  have hdigits : (digits : ℚ) ≤ 2 ^ (digits.log2 + 1) := by exact_mod_cast Nat.lt_log2_self.le
  have hpower : (10 : ℚ) ^ (-(k : ℤ)) ≤ 2 ^ (-(k : ℤ)) := by
    rw [zpow_neg, zpow_neg, zpow_natCast, zpow_natCast]
    exact inv_anti₀ (by positivity) (pow_le_pow_left₀ (by norm_num) (by norm_num) k)
  calc (digits * 10 ^ (-(k : ℤ)) : ℚ)
      ≤ 2 ^ (digits.log2 + 1) * 2 ^ (-(k : ℤ)) := mul_le_mul hdigits hpower (by positivity) (by positivity)
    _ = 2 ^ ((digits.log2 + 1 : ℕ) + -(k : ℤ)) := by rw [zpow_add₀ two_ne_zero, zpow_natCast]
    _ ≤ 2 ^ (-1 + -1074 : ℤ) := zpow_le_zpow_right₀ one_le_two (by omega)
    _ = upper 0 (-1074) := by rw [zpow_add₀ two_ne_zero, upper_eq]; norm_num

/-! ## Scaling by a power of ten -/

theorem stored_zero : stored (.zero .positive) = .zero .positive :=
  unpack_packedZero .positive

theorem nearestTo_mul_tenTo {digits : ℕ} (hpos : 0 < digits) (k : ℕ) {h h'} :
    NearestTo (digits * 10 ^ (k : ℤ)) (stored (UnpackedFloat.mul Format.binary64
      (.finite .positive (digits <<< 53) (-53) h) (.finite .positive (10 ^ k) 0 h'))) := by
  have hdigits : binary (digits <<< 53) (-53) = digits := by
    have hwrite := binary_mul_two_pow digits 0 53
    rw [binary, binary, zpow_zero, mul_one] at hwrite
    rw [Nat.shiftLeft_eq, binary]
    exact hwrite
  have hlog : 53 ≤ (digits <<< 53 * 10 ^ k).log2 := by
    have hlong : 2 ^ 53 ≤ digits <<< 53 * 10 ^ k := by
      rw [Nat.shiftLeft_eq]
      exact (Nat.le_mul_of_pos_left _ hpos).trans (Nat.le_mul_of_pos_right _ h')
    exact (Nat.le_log2 (Nat.mul_pos h h').ne').2 hlong
  have hnear := @nearestTo_mul _ (-53) _ 0 h h' (by rw [target_eq]; omega)
  rwa [hdigits, binary_tenTo, ← zpow_natCast] at hnear

theorem nearestTo_div_tenTo (digits : ℕ) {exponent : ℤ} (hneg : exponent ≤ 0) {h h'} :
    NearestTo (digits * 10 ^ exponent) (stored (UnpackedFloat.div Format.binary64
      (.finite .positive digits 0 h) (.finite .positive (10 ^ (-exponent).toNat) 0 h'))) := by
  have hsize : -((-exponent).toNat : ℤ) = exponent := by omega
  have hnear := @nearestTo_div _ 0 _ 0 h h'
  rwa [binary_tenTo, binary, zpow_zero, mul_one, div_eq_mul_inv, ← zpow_natCast, ← zpow_neg, hsize] at hnear

/-- The general way: the power of ten is a whole number that is multiplied or divided by. -/
theorem nearestTo_scaled (digits : ℕ) (exponent : ℤ) :
    NearestTo (digits * 10 ^ exponent)
      (stored (UnpackedFloat.ofScientific Format.binary64 digits exponent)) := by
  unfold UnpackedFloat.ofScientific
  rcases Nat.eq_zero_or_pos digits with rfl | hpos
  · rw [dif_pos rfl, Nat.cast_zero, zero_mul, stored_zero]
    exact nearestTo_zero
  rw [dif_neg hpos.ne']
  rcases lt_or_ge (2 ^ Format.binary64.exponentBits) exponent with hlarge | hlarge
  · rw [if_pos hlarge, show stored (.infinity .positive) = .infinity .positive from
      unpack_packedInfinity .positive]
    exact .infinity (overflow_le_of_lt hpos hlarge)
  rw [if_neg hlarge.not_gt]
  rcases lt_or_ge exponent (-(2 ^ Format.binary64.exponentBits + (digits.log2 : ℤ))) with hsmall | hsmall
  · rw [if_pos hsmall, stored_zero]
    refine .zero ?_
    rw [RoundsTo, if_pos rfl, lower_zero]
    exact ⟨by positivity, le_upper_of_lt hsmall⟩
  rw [if_neg hsmall.not_gt]
  rcases le_or_gt 0 exponent with hnonneg | hneg
  · obtain ⟨k, rfl⟩ := Int.eq_ofNat_of_zero_le hnonneg
    rw [if_pos hnonneg]
    exact nearestTo_mul_tenTo hpos k
  · rw [if_neg hneg.not_ge]
    exact nearestTo_div_tenTo digits hneg.le

/-! ## Short numerals -/

/-- The digits of a short numeral as a float. -/
theorem parts_toFloat {n : ℕ} (hn : 0 < n) (hlt : n < 2 ^ 53) :
    ∃ m q hm, parts n.toUInt64.toFloat = .finite .positive m q hm ∧ Canonical m q ∧ binary m q = n := by
  have hnat : n.toUInt64.toNat = n := UInt64.toNat_ofNat_of_lt' (hlt.trans (by norm_num))
  have hstored := stored_toFloat (n := n.toUInt64) (by omega) (by omega)
  rw [hnat] at hstored
  have hsmall : (n : ℚ) < 2 ^ 1024 := by
    have hn : (n : ℚ) < 2 ^ 53 := mod_cast hlt
    exact hn.trans (pow_lt_pow_right₀ one_lt_two (by norm_num))
  obtain ⟨m, q, hx, hvalue⟩ := hstored.holds hsmall
  have hc := hx.canonical
  cases hx with
  | zero =>
      rw [binary_zero] at hvalue
      exact absurd hvalue.symm (by exact_mod_cast hn.ne')
  | finite hx => exact ⟨m, q, _, hx, hc, hvalue⟩

section

variable {digits : ℕ} {p : Float} {h : 0 < m} (hdigits : digits < 2 ^ 53) (hp : parts p = .finite .positive m q h)

include hdigits hp

/-- A short numeral is one product of two floats that are exact, or one quotient. -/
theorem nearestTo_toFloat_mul : NearestTo (digits * binary m q) (parts (digits.toUInt64.toFloat * p)) := by
  rw [parts_mul, hp]
  rcases Nat.eq_zero_or_pos digits with rfl | hpos
  · rw [show parts (0 : ℕ).toUInt64.toFloat = .zero .positive from rfl, Nat.cast_zero, zero_mul]
    exact stored_zero.symm ▸ nearestTo_zero
  · obtain ⟨m', q', h', hparts, hc, hvalue⟩ := parts_toFloat hpos hdigits
    rw [hparts, ← hvalue]
    exact nearestTo_mul (hc.le_target_mul h' h (canonical_of_unpack hp))

theorem nearestTo_toFloat_div : NearestTo (digits / binary m q) (parts (digits.toUInt64.toFloat / p)) := by
  rw [parts_div, hp]
  rcases Nat.eq_zero_or_pos digits with rfl | hpos
  · rw [show parts (0 : ℕ).toUInt64.toFloat = .zero .positive from rfl, Nat.cast_zero, zero_div]
    exact stored_zero.symm ▸ nearestTo_zero
  · obtain ⟨m', q', h', hparts, -, hvalue⟩ := parts_toFloat hpos hdigits
    rw [hparts, ← hvalue]
    exact nearestTo_div

end

/-! ## Any decimal -/

/-- A decimal is read as the float nearest to it. -/
theorem nearestTo_nearest (digits : ℕ) (exponent : ℤ) :
    NearestTo (digits * 10 ^ exponent) (parts (nearest digits exponent)) := by
  have hsign : exponent = if exponent < 0 then -(exponent.natAbs : ℤ) else exponent.natAbs := by
    split <;> omega
  unfold nearest Float.ofScientific
  split
  · rename_i hshort
    obtain ⟨m, q, h, hpower, hvalue⟩ := parts_powerOfTen (n := exponent.natAbs)
      (Nat.lt_succ_of_le hshort.2)
    rcases lt_or_ge exponent 0 with hneg | hnonneg
    · have hscale : (digits * 10 ^ exponent : ℚ) = digits / binary m q := by
        rw [if_pos hneg] at hsign
        rw [hvalue, div_eq_mul_inv, ← zpow_natCast, ← zpow_neg, ← hsign]
      rw [hscale, if_pos (decide_eq_true hneg)]
      exact nearestTo_toFloat_div hshort.1 hpower
    · have hscale : (digits * 10 ^ exponent : ℚ) = digits * binary m q := by
        rw [if_neg hnonneg.not_gt] at hsign
        rw [hvalue, ← zpow_natCast, ← hsign]
      rw [hscale, if_neg (by simpa using hnonneg)]
      exact nearestTo_toFloat_mul hshort.1 hpower
  · have hexponent : (if decide (exponent < 0) = true then Int.negOfNat exponent.natAbs
        else Int.ofNat exponent.natAbs) = exponent := by
      simpa only [decide_eq_true_eq, Int.negOfNat_eq, Int.ofNat_eq_natCast] using hsign.symm
    dsimp only
    rw [hexponent]
    exact nearestTo_scaled digits exponent

end StoryMix.Numeral
