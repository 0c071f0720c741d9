import StoryMix.Proofs.Numeral.Value

/-!
# Products of floats

A product is the exact one, rounded. Of two exact numbers the greater is rounded to no less
(`rounded_mono`): on one grid since rounding keeps the order of what is shifted out (`code`), and on
two grids since the coarser one starts where the finer ends. A number that a float can hold is rounded
to itself (`rounded_of_canonical`). So multiplying by a positive number keeps the order
(`mul_le_mul_right`), also where the product underflows or overflows.
-/

namespace StoryMix.Numeral

open Float.Model Float.Model.UnpackedFloat

/-! ## What is shifted out -/

/-- A mantissa and what was shifted out of it, as one number. -/
def code (em : ExtendedMantissa) : ℕ :=
  4 * em.mantissa + 2 * em.roundBit.toNat + em.stickyBit.toNat

theorem code_shiftRightOne (em : ExtendedMantissa) :
    code em.shiftRightOne = 2 * (code em / 4) + min 1 (code em % 4) := by
  obtain ⟨m, r, s⟩ := em
  rcases Nat.mod_two_eq_zero_or_one m with hm | hm <;> cases r <;> cases s <;>
    simp [code, ExtendedMantissa.shiftRightOne, hm] <;> omega

theorem code_shiftRight_mono {em em' : ExtendedMantissa} (h : code em ≤ code em') (k : ℕ) :
    code (em >>> k) ≤ code (em' >>> k) := by
  induction k with
  | zero => exact h
  | succ k ih =>
      change code (em >>> k).shiftRightOne ≤ code (em' >>> k).shiftRightOne
      rw [code_shiftRightOne, code_shiftRightOne]
      omega

theorem roundedMantissa_mono {em em' : ExtendedMantissa} (h : code em ≤ code em') :
    em.roundedMantissa ≤ em'.roundedMantissa := by
  obtain ⟨m, r, s⟩ := em
  obtain ⟨m', r', s'⟩ := em'
  cases r <;> cases s <;> cases r' <;> cases s' <;>
    simp only [code, ExtendedMantissa.roundedMantissa, ExtendedMantissa.accuracy,
      Accuracy.roundToNearestEven, Bool.toNat_false, Bool.toNat_true] at h ⊢ <;> omega

theorem unshifted_shiftRight (m j : ℕ) : unshifted (m * 2 ^ j) >>> j = unshifted m := by
  induction j generalizing m with
  | zero => rw [pow_zero, mul_one]; rfl
  | succ j ih =>
      change (unshifted (m * 2 ^ (j + 1)) >>> j).shiftRightOne = _
      rw [pow_succ', ← mul_assoc, ih]
      simp [ExtendedMantissa.shiftRightOne]

theorem unshifted_shiftRight_add (m j k : ℕ) :
    unshifted (m * 2 ^ j) >>> (j + k) = unshifted m >>> k := by
  induction k with
  | zero => exact unshifted_shiftRight m j
  | succ k ih => exact congrArg ExtendedMantissa.shiftRightOne ih

/-! ## Rounding an exact number -/

/-- The mantissa of what `m * 2 ^ e` is rounded to, at the target exponent. -/
def roundedDigits (m : ℕ) (e : ℤ) : ℕ :=
  (unshifted m >>> (target m e - e).toNat).roundedMantissa

/-- What `m * 2 ^ e` is rounded to. -/
def rounded (m : ℕ) (e : ℤ) : ℚ :=
  binary (roundedDigits m e) (target m e)

theorem rounded_mul_two_pow {m : ℕ} {e : ℤ} (hm : 0 < m) (he : e ≤ target m e) (k : ℕ) :
    rounded (m * 2 ^ k) (e - k) = rounded m e := by
  have hshift : (target m e - (e - k)).toNat = k + (target m e - e).toNat := by omega
  simp only [rounded, roundedDigits, target_mul_two_pow hm, hshift, unshifted_shiftRight_add]

theorem roundedDigits_bounds (m : ℕ) (e : ℤ) :
    m / 2 ^ (target m e - e).toNat ≤ roundedDigits m e
      ∧ roundedDigits m e ≤ m / 2 ^ (target m e - e).toNat + 1 := by
  have h := roundedMantissa_bounds (unshifted m >>> (target m e - e).toNat)
  rwa [mantissa_shiftRight] at h

/-- Of two numbers with one exponent the greater is rounded to no less. -/
theorem rounded_mono_left {m m' : ℕ} {e : ℤ} (hm : 0 < m) (he : e ≤ target m e) (hle : m ≤ m') :
    rounded m e ≤ rounded m' e := by
  have htarget : target m e ≤ target m' e := by
    have hlog : m.log2 ≤ m'.log2 :=
      (Nat.le_log2 (hm.trans_le hle).ne').2 ((Nat.log2_self_le hm.ne').trans hle)
    rw [target_eq, target_eq]
    omega
  have hm' := hm.trans_le hle
  unfold rounded
  rcases htarget.eq_or_lt with heq | hlt
  · rw [roundedDigits, roundedDigits, ← heq, binary_le_binary]
    exact roundedMantissa_mono (code_shiftRight_mono (by simpa [code] using hle) _)
  · have hge : -1074 ≤ target m e := by rw [target_eq]; omega
    have hbelow : roundedDigits m e ≤ 2 ^ 53 :=
      (roundedDigits_bounds m e).2.trans (cut_bounds hm he).1
    have habove : 2 ^ 52 ≤ roundedDigits m' e := by
      rcases (cut_bounds hm' (he.trans htarget)).2 with hfull | hleast
      · exact hfull.trans (roundedDigits_bounds m' e).1
      · omega
    calc binary (roundedDigits m e) (target m e)
        ≤ binary (2 ^ 53) (target m e) := binary_le_binary.2 hbelow
      _ = 2 ^ 52 * 2 ^ (target m e + 1) := by
          rw [zpow_add₀ two_ne_zero, binary]
          push_cast
          ring
      _ ≤ 2 ^ 52 * 2 ^ target m' e := by
          have hpow : (2 : ℚ) ^ (target m e + 1) ≤ 2 ^ target m' e :=
            zpow_le_zpow_right₀ one_le_two (by omega)
          gcongr
      _ ≤ binary (roundedDigits m' e) (target m' e) := by
          have hdigits : (2 ^ 52 : ℚ) ≤ roundedDigits m' e := mod_cast habove
          unfold binary
          gcongr

theorem binary_mul_two_pow (m : ℕ) (e : ℤ) (k : ℕ) : binary (m * 2 ^ k) (e - k) = binary m e := by
  rw [binary, binary, zpow_sub₀ two_ne_zero, zpow_natCast]
  push_cast
  field_simp

/-- Of two numbers the greater is rounded to no less. -/
theorem rounded_mono {m m' : ℕ} {e e' : ℤ} (hm : 0 < m) (hm' : 0 < m') (he : e ≤ target m e)
    (he' : e' ≤ target m' e') (hle : binary m e ≤ binary m' e') : rounded m e ≤ rounded m' e' := by
  -- The one with the greater exponent is written with the other's.
  rcases le_total e e' with h | h
  · obtain ⟨k, rfl⟩ := Int.le.dest h
    have hwrite := binary_mul_two_pow m' (e + k) k
    have hrounded := rounded_mul_two_pow hm' he' k
    rw [add_sub_cancel_right] at hwrite hrounded
    rw [← hrounded]
    exact rounded_mono_left hm he (binary_le_binary.1 (hwrite ▸ hle))
  · obtain ⟨k, rfl⟩ := Int.le.dest h
    have hwrite := binary_mul_two_pow m (e' + k) k
    have hrounded := rounded_mul_two_pow hm he k
    have htarget := target_mul_two_pow hm (e' + k) k
    rw [add_sub_cancel_right] at hwrite hrounded htarget
    rw [← hrounded]
    exact rounded_mono_left (by positivity) (by omega) (binary_le_binary.1 (hwrite ▸ hle))

theorem target_of_canonical {m : ℕ} {e : ℤ} (hm : 0 < m) (h : Canonical m e) : target m e = e := by
  have hlog := (Nat.log2_lt hm.ne').2 h.lt
  have hge := h.ge
  rw [target_eq]
  rcases h.full with hfull | rfl
  · have hfull' := (Nat.le_log2 hm.ne').2 hfull
    omega
  · omega

/-- A number that a float can hold is rounded to itself. -/
theorem rounded_of_canonical {m : ℕ} {e : ℤ} (hm : 0 < m) (h : Canonical m e) :
    rounded m e = binary m e := by
  have hshift : (target m e - e).toNat = 0 := by
    rw [target_of_canonical hm h]
    omega
  rw [rounded, roundedDigits, hshift, target_of_canonical hm h]
  rfl

/-- So is a number that is written otherwise. -/
theorem rounded_of_eq {m m' : ℕ} {e e' : ℤ} (hm : 0 < m) (hm' : 0 < m') (h : Canonical m e)
    (he' : e' ≤ target m' e') (heq : binary m' e' = binary m e) : rounded m' e' = binary m e := by
  have he : e ≤ target m e := (target_of_canonical hm h).ge
  rw [← rounded_of_canonical hm h]
  exact le_antisymm (rounded_mono hm' hm he' he heq.le) (rounded_mono hm hm' he he' heq.ge)

/-! ## What is stored -/

/-- The parts of a float that holds a rounded number, which is infinite from `2 ^ 1024` on. -/
inductive Stored (v : ℚ) : UnpackedFloat → Prop
  | zero {s} : v = 0 → Stored v (.zero s)
  | finite {m e h} : Canonical m e → e ≤ 971 → v = binary m e → Stored v (.finite .positive m e h)
  | infinity : 2 ^ 1024 ≤ v → Stored v (.infinity .positive)

theorem Canonical.binary_lt_of_le {m : ℕ} {e : ℤ} (h : Canonical m e) (he : e ≤ 971) :
    binary m e < 2 ^ 1024 := by
  have hm : (m : ℚ) < 2 ^ 53 := mod_cast h.lt
  have hpow : (2 : ℚ) ^ e ≤ 2 ^ (971 : ℤ) := zpow_le_zpow_right₀ one_le_two he
  calc binary m e
      < 2 ^ 53 * 2 ^ e := by unfold binary; gcongr
    _ ≤ 2 ^ 53 * 2 ^ (971 : ℤ) := by gcongr
    _ = 2 ^ 1024 := by rw [← Nat.cast_ofNat (n := 971), zpow_natCast, ← pow_add]

theorem Canonical.le_binary_of_lt {m : ℕ} {e : ℤ} (h : Canonical m e) (he : 971 < e) :
    2 ^ 1024 ≤ binary m e := by
  have hfull : 2 ^ 52 ≤ m := by
    rcases h.full with hfull | heq
    · exact hfull
    · omega
  have hm : (2 ^ 52 : ℚ) ≤ m := mod_cast hfull
  have hpow : (2 : ℚ) ^ (972 : ℤ) ≤ 2 ^ e := zpow_le_zpow_right₀ one_le_two he
  calc (2 : ℚ) ^ 1024
      = 2 ^ 52 * 2 ^ (972 : ℤ) := by rw [← Nat.cast_ofNat (n := 972), zpow_natCast, ← pow_add]
    _ ≤ 2 ^ 52 * 2 ^ e := by gcongr
    _ ≤ binary m e := by unfold binary; gcongr

theorem stored_pack {m : ℕ} {e : ℤ} (h : 0 < m) (hc : Canonical m e) :
    Stored (binary m e) (UnpackedFloat.unpack Format.binary64
      (UnpackedFloat.pack Format.binary64 (.finite .positive m e h))) := by
  rcases le_or_gt e 971 with he | he
  · rw [unpack_pack_of_le h hc he]
    exact .finite hc he rfl
  · rw [unpack_pack_of_lt h he]
    exact .infinity (hc.le_binary_of_lt he)

/-- What a rounded number is stored as. -/
theorem stored_roundWithAccuracy {m : ℕ} {e : ℤ} (hm : 0 < m) (he : e ≤ target m e) :
    Stored (rounded m e) (UnpackedFloat.unpack Format.binary64 (UnpackedFloat.pack Format.binary64
      (roundWithAccuracy Format.binary64 .positive m e .exact))) := by
  have hge : -1074 ≤ target m e := by rw [target_eq]; omega
  obtain ⟨em, hem, hround⟩ :
      ∃ em, shiftToTargetExponent Format.binary64 m e .exact = (em, target m e)
        ∧ em.roundedMantissa = roundedDigits m e :=
    ⟨_, shiftToTarget_eq he, rfl⟩
  have hbounds := roundedDigits_bounds m e
  obtain ⟨hlt, hfull⟩ := cut_bounds hm he
  unfold rounded roundWithAccuracy
  rw [hem]
  dsimp only
  rw [hround]
  generalize roundedDigits m e = r at hbounds
  -- Rounding up can make the mantissa one bit too long, and the second shift takes it off again.
  rcases Nat.lt_or_ge r (2 ^ 53) with hsmall | hbig
  · rw [shiftToTarget_of_lt hsmall hge]
    rcases Nat.eq_zero_or_pos r with rfl | hr
    · rw [dif_pos rfl]
      exact .zero (binary_zero _)
    · rw [dif_neg hr.ne']
      exact stored_pack hr ⟨hsmall, hge, hfull.imp_left fun h => h.trans hbounds.1⟩
  · obtain rfl : r = 2 ^ 53 := by omega
    rw [shiftToTarget_of_eq hge, dif_neg (show 2 ^ 52 ≠ 0 by decide)]
    have hvalue := binary_mul_two_pow (2 ^ 52) (target m e + 1) 1
    rw [Nat.cast_one, add_sub_cancel_right] at hvalue
    rw [show 2 ^ 53 = 2 ^ 52 * 2 ^ 1 from rfl, hvalue]
    exact stored_pack (by decide) ⟨by decide, by omega, .inl le_rfl⟩

theorem Stored.nonneg {v : ℚ} {a : UnpackedFloat} (h : Stored v a) : 0 ≤ v := by
  cases h with
  | zero hv => exact hv.ge
  | finite _ _ hv => exact hv ▸ binary_nonneg _ _
  | infinity hv => exact (by positivity : (0 : ℚ) ≤ 2 ^ 1024).trans hv

/-- Of two rounded numbers the greater is stored as no less. -/
theorem Stored.le {v w : ℚ} {a b : UnpackedFloat} (ha : Stored v a) (hb : Stored w b) (hle : v ≤ w) :
    a.le b = true := by
  cases ha with
  | zero hv =>
      cases hb with
      | zero | finite | infinity => rfl
  | @finite m e h hc he hv =>
      subst hv
      have hpos := binary_pos h e
      cases hb with
      | zero hw => exact absurd hle (by rw [hw]; exact hpos.not_ge)
      | finite hc' he' hw =>
          subst hw
          exact (isLE_then_iff _ _ _ _).2 ((hc.le_iff hc').2 hle)
      | infinity => rfl
  | infinity hv =>
      have hbig := hv.trans hle
      cases hb with
      | zero hw => exact absurd hbig (by rw [hw]; norm_num)
      | finite hc he hw => exact absurd hbig (by rw [hw]; exact (hc.binary_lt_of_le he).not_ge)
      | infinity => rfl

theorem Stored.holds {v : ℚ} {x : Float} (h : Stored v (parts x)) (hv : v < 2 ^ 1024) :
    ∃ m q, Holds x m q ∧ binary m q = v := by
  generalize hu : parts x = u at h
  cases h with
  | zero hzero => exact ⟨_, _, .zero hu, by rw [binary_zero, hzero]⟩
  | finite _ _ heq => exact ⟨_, _, .finite hu, heq.symm⟩
  | infinity hbig => exact absurd hv hbig.not_gt

theorem Stored.eq_binary {v : ℚ} {x : Float} {m : ℕ} {q : ℤ} (h : Stored v (parts x)) (hx : Holds x m q) :
    v = binary m q := by
  cases hx with
  | zero hx =>
      rw [hx] at h
      cases h with
      | zero hv => rw [binary_zero, hv]
  | finite hx =>
      rw [hx] at h
      cases h with
      | finite _ _ hv => exact hv

/-! ## Multiplying -/

theorem parts_mul (x y : Float) :
    parts (x * y) = UnpackedFloat.unpack Format.binary64
      (UnpackedFloat.pack Format.binary64
        (UnpackedFloat.mul Format.binary64 (parts x) (parts y))) := rfl

theorem binary_mul_binary (m m' : ℕ) (q q' : ℤ) : binary (m * m') (q + q') = binary m q * binary m' q' := by
  rw [binary, binary, binary, zpow_add₀ two_ne_zero]
  push_cast
  ring

/-- Mantissas of canonical numbers multiply to one that has to be cut down, if at all. -/
theorem Canonical.le_target_mul {m m' : ℕ} {e e' : ℤ} (hm : 0 < m) (hm' : 0 < m') (h : Canonical m e)
    (h' : Canonical m' e') : e + e' ≤ target (m * m') (e + e') := by
  have hlog : 2 ^ 52 ≤ m * m' → 52 ≤ (m * m').log2 := (Nat.le_log2 (Nat.mul_pos hm hm').ne').2
  rw [target_eq]
  rcases h.full with hfull | rfl
  · have hlarge := hlog (hfull.trans (Nat.le_mul_of_pos_right m hm'))
    omega
  rcases h'.full with hfull | rfl
  · have hlarge := hlog (hfull.trans (Nat.le_mul_of_pos_left m' hm))
    omega
  · omega

section

variable {x y c : Float} {m m' k : ℕ} {q q' j : ℤ} {hk : 0 < k} (hc : parts c = .finite .positive k j hk)

include hc

theorem stored_mul_of_pos (hm : 0 < m) (hx : Holds x m q) :
    Stored (rounded (m * k) (q + j)) (parts (x * c)) := by
  have hcanonical := hx.canonical
  rw [parts_mul, hc]
  cases hx with
  | zero => exact absurd hm (Nat.lt_irrefl 0)
  | finite hx =>
      rw [hx]
      exact stored_roundWithAccuracy (Nat.mul_pos hm hk)
        (hcanonical.le_target_mul hm hk (canonical_of_unpack hc))

theorem stored_mul_of_zero (hx : Holds x 0 q) : Stored 0 (parts (x * c)) := by
  rw [parts_mul, hc]
  cases hx with
  | zero hx =>
      rw [hx]
      exact (unpack_packedZero _).symm ▸ .zero rfl
  | finite => contradiction

theorem mul_infinity (hx : parts x = .infinity .positive) :
    parts (x * c) = .infinity .positive := by
  rw [parts_mul, hx, hc]
  exact unpack_packedInfinity .positive

theorem exists_stored_mul (hx : Holds x m q) : ∃ v, Stored v (parts (x * c)) := by
  rcases Nat.eq_zero_or_pos m with rfl | hm
  · exact ⟨0, stored_mul_of_zero hc hx⟩
  · exact ⟨_, stored_mul_of_pos hc hm hx⟩

/-- Multiplying by a positive number keeps the order of what is not negative. -/
theorem mul_le_mul_right (hx : 0 ≤ x) (hxy : x ≤ y) : x * c ≤ y * c := by
  rw [le_iff_parts]
  rcases holds_or_infinity (le_trans hx hxy) with ⟨m', q', hy⟩ | hy
  · rcases holds_or_infinity hx with ⟨m, q, hx⟩ | hx
    · have hvalue := (hx.le_iff hy).1 hxy
      rw [hx.value_eq, hy.value_eq] at hvalue
      rcases Nat.eq_zero_or_pos m with rfl | hm
      · obtain ⟨w, hw⟩ := exists_stored_mul hc hy
        exact (stored_mul_of_zero hc hx).le hw hw.nonneg
      · have hm' : 0 < m' := pos_of_binary_pos ((binary_pos hm q).trans_le hvalue)
        refine (stored_mul_of_pos hc hm hx).le (stored_mul_of_pos hc hm' hy) ?_
        have hcanonical := canonical_of_unpack hc
        refine rounded_mono (Nat.mul_pos hm hk) (Nat.mul_pos hm' hk)
          (hx.canonical.le_target_mul hm hk hcanonical) (hy.canonical.le_target_mul hm' hk hcanonical) ?_
        rw [binary_mul_binary, binary_mul_binary]
        exact mul_le_mul_of_nonneg_right hvalue (binary_nonneg k j)
    · exact absurd hxy (hy.not_infinity_le hx)
  · rw [mul_infinity hc hy]
    rcases holds_or_infinity hx with ⟨m, q, hx⟩ | hx
    · obtain ⟨v, hv⟩ := exists_stored_mul hc hx
      exact hv.le (.infinity (le_max_right v _)) (le_max_left v _)
    · rw [mul_infinity hc hx]
      rfl

theorem zero_le_mul (hx : 0 ≤ x) : 0 ≤ x * c := by
  have hzero : (0 : Float) ≤ 0 := zero_le_iff.2 (parts_zero ▸ .zero _)
  have hmul : (0 : Float) ≤ 0 * c := by
    rw [zero_le_iff, parts_mul, parts_zero, hc]
    exact (unpack_packedZero _).symm ▸ .zero _
  exact le_trans hmul (mul_le_mul_right hc hzero hx)

end

end StoryMix.Numeral
