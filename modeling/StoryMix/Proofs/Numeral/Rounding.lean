import Mathlib.Algebra.Order.Ring.Nat
import StoryMix.Proofs.Numeral.Order

/-!
# Rounding

How an exact result becomes a float. A finite float is held with 53 bits, or with fewer at the least
exponent (`Canonical`), and its value is a whole number of units of `2 ^ (-1074)` (`units`).
Rounding gives a canonical number again, and none that a canonical number below or at the exact value
exceeds (`round_spec`). Packing keeps a canonical number or makes it infinite (`unpack_pack`), and
gives no number only for what was none (`unpack_pack_eq_notANumber`).
-/

namespace StoryMix.Numeral

open Float.Model Float.Model.UnpackedFloat

/-! ## Canonical numbers -/

/-- A mantissa and an exponent as a float holds them: 53 bits, or fewer at the least exponent. -/
structure Canonical (m : ℕ) (e : ℤ) : Prop where
  lt : m < 2 ^ 53
  ge : -1074 ≤ e
  full : 2 ^ 52 ≤ m ∨ e = -1074

/-- The number `m * 2 ^ e` counted in units of `2 ^ (-1074)`. -/
def units (m : ℕ) (e : ℤ) : ℕ :=
  m * 2 ^ (e + 1074).toNat

/-- The exponent that rounding brings `m * 2 ^ e` to. -/
abbrev target (m : ℕ) (e : ℤ) : ℤ :=
  Format.binary64.targetExponent (totalExponent m e)

theorem target_eq (m : ℕ) (e : ℤ) : target m e = max (m.log2 + e - 52) (-1074) := by
  have h : Format.binary64.minExponent = -1074 := by decide
  have hb : (Format.binary64.mantissaBits : ℤ) = 53 := by decide
  simp only [target, Format.targetExponent, totalExponent, h, hb]
  omega

/-- A number that is not above `m * 2 ^ e` has no greater exponent than that is rounded to. -/
theorem Canonical.le_target {m₀ m : ℕ} {e₀ e : ℤ} (h₀ : Canonical m₀ e₀) (he : -1074 ≤ e)
    (h : units m₀ e₀ ≤ units m e) : e₀ ≤ target m e := by
  rw [target_eq]
  rcases h₀.full with hfull | rfl
  · have hlt : 2 ^ (52 + (e₀ + 1074).toNat) < 2 ^ (m.log2 + 1 + (e + 1074).toNat) := by
      calc 2 ^ (52 + (e₀ + 1074).toNat)
          ≤ units m₀ e₀ := by rw [pow_add]; exact Nat.mul_le_mul_right _ hfull
        _ ≤ units m e := h
        _ < 2 ^ (m.log2 + 1 + (e + 1074).toNat) := by
            rw [pow_add]; exact Nat.mul_lt_mul_of_pos_right Nat.lt_log2_self (Nat.two_pow_pos _)
    have hexp := (Nat.pow_lt_pow_iff_right (by omega)).1 hlt
    have hge := h₀.ge
    omega
  · omega

theorem log2_mul_two_pow {m : ℕ} (hm : 0 < m) (k : ℕ) : (m * 2 ^ k).log2 = m.log2 + k := by
  have hpos : 0 < m * 2 ^ k := Nat.mul_pos hm (Nat.two_pow_pos k)
  rw [Nat.log2_eq_iff hpos.ne', Nat.add_right_comm, pow_add, pow_add _ (_ + 1)]
  exact ⟨Nat.mul_le_mul_right _ (Nat.log2_self_le hm.ne'),
    Nat.mul_lt_mul_of_pos_right Nat.lt_log2_self (Nat.two_pow_pos k)⟩

theorem target_mul_two_pow {m : ℕ} (hm : 0 < m) (e : ℤ) (k : ℕ) :
    target (m * 2 ^ k) (e - k) = target m e := by
  rw [target_eq, target_eq, log2_mul_two_pow hm]
  omega

/-! ## Rounding -/

theorem mantissa_shiftRight (em : ExtendedMantissa) (k : ℕ) :
    (em >>> k).mantissa = em.mantissa / 2 ^ k := by
  induction k with
  | zero => exact (Nat.div_one _).symm
  | succ k ih =>
      change (em >>> k).mantissa / 2 = _
      rw [ih, Nat.div_div_eq_div_mul, pow_succ]

theorem roundedMantissa_bounds (em : ExtendedMantissa) :
    em.mantissa ≤ em.roundedMantissa ∧ em.roundedMantissa ≤ em.mantissa + 1 := by
  obtain ⟨m, r, s⟩ := em
  cases r <;> cases s <;>
    simp only [ExtendedMantissa.roundedMantissa, ExtendedMantissa.accuracy,
      Accuracy.roundToNearestEven] <;> omega

/-- A mantissa nothing was shifted out of. -/
abbrev unshifted (m : ℕ) : ExtendedMantissa :=
  ⟨m, false, false⟩

/-- The first shift cuts a number down to its target exponent. -/
theorem shiftToTarget_eq {m : ℕ} {e : ℤ} {accuracy : Accuracy} (het : e ≤ target m e) :
    shiftToTargetExponent Format.binary64 m e accuracy
      = (ExtendedMantissa.ofMantissaAndAccuracy m accuracy >>> (target m e - e).toNat, target m e) := by
  refine Prod.ext rfl ?_
  change e + ((target m e - e).toNat : ℤ) = target m e
  omega

/-- The mantissa before rounding has at most 53 bits, and 53 above the least exponent. -/
theorem cut_bounds {m : ℕ} {e : ℤ} (hm : 0 < m) (het : e ≤ target m e) :
    m / 2 ^ (target m e - e).toNat < 2 ^ 53
      ∧ (2 ^ 52 ≤ m / 2 ^ (target m e - e).toNat ∨ target m e = -1074) := by
  have ht := target_eq m e
  generalize hk : (target m e - e).toNat = k
  have hlog := Nat.log2_self_le hm.ne'
  have hlog' := Nat.lt_log2_self (n := m)
  constructor
  · rw [Nat.div_lt_iff_lt_mul (Nat.two_pow_pos k), ← pow_add]
    exact hlog'.trans_le (Nat.pow_le_pow_right (by omega) (by omega))
  · rcases le_or_gt (m.log2 + e - 52 : ℤ) (-1074) with hsmall | hlarge
    · exact .inr (by omega)
    · left
      rw [Nat.le_div_iff_mul_le (Nat.two_pow_pos k), ← pow_add]
      exact (Nat.pow_le_pow_right (by omega) (by omega)).trans hlog

/-- Of a whole number of units something is left. -/
theorem cut_pos {m : ℕ} {e : ℤ} (hm : 0 < m) (he : -1074 ≤ e) (het : e ≤ target m e) :
    0 < m / 2 ^ (target m e - e).toNat := by
  rcases (cut_bounds hm het).2 with hfull | hleast
  · exact (Nat.two_pow_pos 52).trans_le hfull
  · rw [show (target m e - e).toNat = 0 by omega, pow_zero, Nat.div_one]
    exact hm

/-- A canonical number that is not above `m * 2 ^ e` is not above what that is cut down to. -/
theorem Canonical.le_cut {m₀ m : ℕ} {e₀ e : ℤ} (h₀ : Canonical m₀ e₀) (he : -1074 ≤ e)
    (het : e ≤ target m e) (hle : units m₀ e₀ ≤ units m e) :
    e₀ < target m e ∨ e₀ = target m e ∧ m₀ ≤ m / 2 ^ (target m e - e).toNat := by
  rcases (h₀.le_target he hle).lt_or_eq with hlt | rfl
  · exact Or.inl hlt
  · refine Or.inr ⟨rfl, ?_⟩
    have hge : -1074 ≤ target m e := by rw [target_eq]; omega
    have hk : (target m e + 1074).toNat = (target m e - e).toNat + (e + 1074).toNat := by omega
    rw [units, units, hk, pow_add, ← mul_assoc] at hle
    rw [Nat.le_div_iff_mul_le (Nat.two_pow_pos _)]
    exact Nat.le_of_mul_le_mul_right hle (Nat.two_pow_pos _)

/-- A number that has no more than 53 bits already is left alone. -/
theorem shiftToTarget_of_lt {m : ℕ} {e : ℤ} (hm : m < 2 ^ 53) (he : -1074 ≤ e) :
    shiftToTargetExponent Format.binary64 m e .exact = (⟨m, false, false⟩, e) := by
  have hlog : m.log2 ≤ 52 := by
    rcases Nat.eq_zero_or_pos m with rfl | hpos
    · simp
    · have := (Nat.log2_lt hpos.ne').2 hm
      omega
  have hk : (target m e - e).toNat = 0 := by rw [target_eq]; omega
  simp only [shiftToTargetExponent, shiftToExponent, hk]
  simp [ExtendedMantissa.ofMantissaAndAccuracy, HShiftRight.hShiftRight, Nat.repeat]

/-- A mantissa that was rounded up to 54 bits loses its last one. -/
theorem shiftToTarget_of_eq {e : ℤ} (he : -1074 ≤ e) :
    shiftToTargetExponent Format.binary64 (2 ^ 53) e .exact = (⟨2 ^ 52, false, false⟩, e + 1) := by
  have hk : (target (2 ^ 53) e - e).toNat = 1 := by
    rw [target_eq, Nat.log2_two_pow]; omega
  simp only [shiftToTargetExponent, shiftToExponent, hk]
  rfl

/-- What a positive number is rounded to: a canonical one that no canonical number below or at the
exact value exceeds. -/
def RoundedFrom (m : ℕ) (e : ℤ) (m' : ℕ) (e' : ℤ) : Prop :=
  Canonical m' e' ∧
    ∀ {m₀ : ℕ} {e₀ : ℤ}, Canonical m₀ e₀ → units m₀ e₀ ≤ units m e → e₀ < e' ∨ e₀ = e' ∧ m₀ ≤ m'

theorem roundWithAccuracy_spec (s : Sign) {m : ℕ} {e : ℤ} (hm : 0 < m) (he : -1074 ≤ e)
    (het : e ≤ target m e) :
    ∃ m' e' h, roundWithAccuracy Format.binary64 s m e .exact = .finite s m' e' h
      ∧ RoundedFrom m e m' e' := by
  obtain ⟨hlt, hfull⟩ := cut_bounds hm het
  have hpos := cut_pos hm he het
  have hge : -1074 ≤ target m e := by rw [target_eq]; omega
  obtain ⟨em, hem, hmantissa⟩ :
      ∃ em, shiftToTargetExponent Format.binary64 m e .exact = (em, target m e)
        ∧ em.mantissa = m / 2 ^ (target m e - e).toNat :=
    ⟨_, shiftToTarget_eq het, mantissa_shiftRight _ _⟩
  have hbounds := roundedMantissa_bounds em
  rw [hmantissa] at hbounds
  have hbelow : ∀ {m₀ : ℕ} {e₀ : ℤ}, Canonical m₀ e₀ → units m₀ e₀ ≤ units m e → _ :=
    fun h₀ hle => h₀.le_cut he het hle
  generalize m / 2 ^ (target m e - e).toNat = q at hlt hfull hpos hbounds hbelow
  unfold roundWithAccuracy
  rw [hem]
  dsimp only
  -- The second one only matters if rounding up made the mantissa too long.
  rcases Nat.lt_or_ge em.roundedMantissa (2 ^ 53) with hsmall | hbig
  · have hshift := shiftToTarget_of_lt hsmall hge
    refine ⟨em.roundedMantissa, target m e, by omega, ?_, ⟨hsmall, hge, by omega⟩, ?_⟩
    · rw [hshift]
      exact dif_neg (show em.roundedMantissa ≠ 0 by omega)
    · intro m₀ e₀ h₀ hle
      rcases hbelow h₀ hle with h | ⟨h, hmq⟩
      · exact Or.inl h
      · exact Or.inr ⟨h, by omega⟩
  · have heq : em.roundedMantissa = 2 ^ 53 := by omega
    refine ⟨2 ^ 52, target m e + 1, by decide, ?_, ⟨by decide, by omega, Or.inl le_rfl⟩, ?_⟩
    · rw [heq, shiftToTarget_of_eq hge]
      exact dif_neg (show 2 ^ 52 ≠ 0 by decide)
    · intro m₀ e₀ h₀ hle
      rcases hbelow h₀ hle with h | ⟨h, -⟩ <;> exact Or.inl (by omega)

theorem round_spec (s : Sign) {m : ℕ} {e : ℤ} (hm : 0 < m) (he : -1074 ≤ e) :
    ∃ m' e' h, round Format.binary64 s m e = .finite s m' e' h ∧ RoundedFrom m e m' e' := by
  have ht := target_eq m e
  unfold UnpackedFloat.round decreaseExponent
  change ∃ m' e' h, roundWithAccuracy _ s (m <<< (e - target m e).toNat)
    (e - ((e - target m e).toNat : ℤ)) .exact = _ ∧ _
  generalize hk : (e - target m e).toNat = k
  have hm' : 0 < m <<< k := by rw [Nat.shiftLeft_eq]; exact Nat.mul_pos hm (Nat.two_pow_pos k)
  have htarget : target (m <<< k) (e - k) = target m e := by
    rw [Nat.shiftLeft_eq, target_mul_two_pow hm]
  have hunits : units (m <<< k) (e - k) = units m e := by
    have hexp : (e + 1074).toNat = k + (e - k + 1074).toNat := by omega
    rw [units, units, hexp, Nat.shiftLeft_eq, pow_add, mul_assoc]
  have h := roundWithAccuracy_spec s hm' (by omega : -1074 ≤ e - k) (by omega)
  unfold RoundedFrom at h ⊢
  rwa [hunits] at h

/-! ## Packing -/

theorem unpackSign_packComponents {spec : Format} {s : Sign} {ex ma} :
    unpackSign (packComponents spec s ex ma) = s.toBitVec := by
  ext i hi
  obtain rfl : i = 0 := by omega
  unfold unpackSign packComponents
  simp [BitVec.getLsbD_append, BitVec.getElem_append]

theorem ofBitVec_toBitVec (s : Sign) : Sign.ofBitVec s.toBitVec = s := by
  cases s <;> rfl

theorem unpack_packedInfinity (s : Sign) :
    UnpackedFloat.unpack Format.binary64 (packedInfinity Format.binary64 s) = .infinity s := by
  cases s <;> rfl

theorem unpack_packedZero (s : Sign) :
    UnpackedFloat.unpack Format.binary64 (packedZero Format.binary64 s) = .zero s := by
  cases s <;> rfl

theorem unpack_packedNaN :
    UnpackedFloat.unpack Format.binary64 (packedNaN Format.binary64) = .notANumber :=
  rfl

/-- The implicit bit stands before the written ones. -/
theorem toNat_implicit_append (b : BitVec 52) : (1#1 ++ b).toNat = 2 ^ 52 + b.toNat := by
  rw [BitVec.toNat_append, ← Nat.shiftLeft_add_eq_or_of_lt b.isLt]
  rfl

/-- A finite number that a float holds is canonical. -/
theorem canonical_of_unpack {b : BitVec Format.binary64.numBits} {s : Sign} {m : ℕ} {e : ℤ} {h}
    (hb : UnpackedFloat.unpack Format.binary64 b = .finite s m e h) : Canonical m e := by
  have hlt : (unpackMantissa b).toNat < 2 ^ 52 := (unpackMantissa b).isLt
  have hbias : (Format.binary64.exponentBias : ℤ) = 1023 := by decide
  unfold UnpackedFloat.unpack at hb
  dsimp only at hb
  by_cases hones : unpackExponent b = -1#11
  · rw [if_pos hones] at hb
    by_cases hm : unpackMantissa b = 0#52
    · rw [if_pos hm] at hb
      cases hb
    · rw [if_neg hm] at hb
      cases hb
  · rw [if_neg hones] at hb
    by_cases hzero : unpackExponent b = 0#11
    · rw [if_pos hzero] at hb
      by_cases hm : unpackMantissa b = 0#52
      · rw [dif_pos hm] at hb
        cases hb
      · rw [dif_neg hm] at hb
        cases hb
        exact ⟨by omega, by simp [hzero, hbias], Or.inr (by simp [hzero, hbias])⟩
    · rw [if_neg hzero] at hb
      cases hb
      have hpos : (unpackExponent b).toNat ≠ 0 := fun h => hzero (BitVec.eq_of_toNat_eq h)
      rw [toNat_implicit_append]
      exact ⟨by omega, by omega, Or.inl (by omega)⟩

theorem finite_congr {s s' : Sign} {m m' : ℕ} {e e' : ℤ} {h h'} (hs : s = s') (hm : m = m')
    (he : e = e') : UnpackedFloat.finite s m e h = .finite s' m' e' h' := by
  subst hs hm he
  rfl

/-- With an exponent that is neither all zeros nor all ones, the implicit bit is there. -/
theorem unpack_normal {s : Sign} {ex : BitVec 11} {ma : BitVec 52} (hones : ex ≠ -1#11)
    (hzero : ex ≠ 0#11) :
    UnpackedFloat.unpack Format.binary64 (packComponents Format.binary64 s ex ma)
      = .finite s (2 ^ 52 + ma.toNat) (ex.toNat - 1075) (by omega) := by
  have hexponent : unpackExponent (packComponents Format.binary64 s ex ma) = ex :=
    unpackExponent_packComponents
  unfold UnpackedFloat.unpack
  rw [if_neg (by rw [hexponent]; exact hones), if_neg (by rw [hexponent]; exact hzero)]
  refine finite_congr ?_ ?_ ?_
  · rw [unpackSign_packComponents, ofBitVec_toBitVec]
  · rw [unpackMantissa_packComponents, toNat_implicit_append]
  · rw [hexponent]
    rfl

/-- With an exponent of zeros a mantissa stands as it is, at the least exponent. -/
theorem unpack_subnormal {s : Sign} {ma : BitVec 52} (hne : ma ≠ 0#52) :
    UnpackedFloat.unpack Format.binary64 (packComponents Format.binary64 s 0#11 ma)
      = .finite s ma.toNat (-1074)
          (Nat.pos_of_ne_zero fun h => hne (BitVec.eq_of_toNat_eq h)) := by
  have hexponent : unpackExponent (packComponents Format.binary64 s 0#11 ma) = 0#11 :=
    unpackExponent_packComponents
  have hmantissa : unpackMantissa (packComponents Format.binary64 s 0#11 ma) = ma :=
    unpackMantissa_packComponents
  unfold UnpackedFloat.unpack
  rw [if_neg (by rw [hexponent]; decide), if_pos hexponent,
    dif_neg (by rw [hmantissa]; exact hne)]
  refine finite_congr ?_ ?_ ?_
  · rw [unpackSign_packComponents, ofBitVec_toBitVec]
  · rw [hmantissa]
  · rw [hexponent]
    rfl

theorem pack_finite (s : Sign) (m : ℕ) (e : ℤ) (h : 0 < m) :
    UnpackedFloat.pack Format.binary64 (.finite s m e h)
      = if 2 ^ 11 ≤ (e + 1023 + 52).toNat + 1 then packedInfinity Format.binary64 s
        else if m.log2 + 1 = 53 then
          packComponents Format.binary64 s (BitVec.ofNat 11 (e + 1023 + 52).toNat) (BitVec.ofNat 52 m)
        else packComponents Format.binary64 s 0#11 (BitVec.ofNat 52 m) :=
  rfl

/-- A number with too great an exponent becomes infinite when it is packed. -/
theorem unpack_pack_of_lt {s : Sign} {m : ℕ} {e : ℤ} (h : 0 < m) (he : 971 < e) :
    UnpackedFloat.unpack Format.binary64 (UnpackedFloat.pack Format.binary64 (.finite s m e h))
      = .infinity s := by
  rw [pack_finite, if_pos (by omega)]
  exact unpack_packedInfinity s

/-- Packing keeps any other canonical number. -/
theorem unpack_pack_of_le {s : Sign} {m : ℕ} {e : ℤ} (h : 0 < m) (hc : Canonical m e) (he : e ≤ 971) :
    UnpackedFloat.unpack Format.binary64 (UnpackedFloat.pack Format.binary64 (.finite s m e h))
      = .finite s m e h := by
  obtain ⟨hlt, hge, hfull⟩ := hc
  rw [pack_finite]
  generalize hbe : (e + 1023 + 52).toNat = biased
  rw [if_neg (by omega)]
  have hexp : (BitVec.ofNat 11 biased).toNat = biased := by
    rw [BitVec.toNat_ofNat, Nat.mod_eq_of_lt (by omega)]
  by_cases hlog : m.log2 + 1 = 53
  · have hfull' : 2 ^ 52 ≤ m := (Nat.le_log2 h.ne').1 (by omega)
    have hones : BitVec.ofNat 11 biased ≠ -1#11 := fun heq => by
      have h2047 : biased = 2047 := hexp.symm.trans (congrArg BitVec.toNat heq)
      omega
    have hzero : BitVec.ofNat 11 biased ≠ 0#11 := fun heq => by
      have h0 : biased = 0 := hexp.symm.trans (congrArg BitVec.toNat heq)
      omega
    rw [if_pos hlog, unpack_normal hones hzero]
    refine finite_congr rfl ?_ ?_
    · rw [BitVec.toNat_ofNat]
      omega
    · omega
  · have hle := (Nat.log2_lt h.ne').2 hlt
    have hsub : m < 2 ^ 52 := (Nat.log2_lt h.ne').1 (by omega)
    have hmant : (BitVec.ofNat 52 m).toNat = m := by
      rw [BitVec.toNat_ofNat, Nat.mod_eq_of_lt hsub]
    have hne : BitVec.ofNat 52 m ≠ 0#52 := fun heq =>
      h.ne' (hmant.symm.trans (congrArg BitVec.toNat heq))
    rw [if_neg hlog, unpack_subnormal hne]
    exact finite_congr rfl hmant (by omega)

/-- Packing keeps a canonical number, unless it is too great and becomes infinite. -/
theorem unpack_pack {s : Sign} {m : ℕ} {e : ℤ} (h : 0 < m) (hc : Canonical m e) :
    UnpackedFloat.unpack Format.binary64 (UnpackedFloat.pack Format.binary64 (.finite s m e h))
        = .finite s m e h
      ∨ UnpackedFloat.unpack Format.binary64 (UnpackedFloat.pack Format.binary64 (.finite s m e h))
        = .infinity s :=
  (le_or_gt e 971).imp (unpack_pack_of_le h hc) (unpack_pack_of_lt h)

theorem zero_or_finite_ne_notANumber {p : Prop} [Decidable p] {m : ℕ} (s : Sign) (e : ℤ)
    (hm : ¬ p → 0 < m) :
    (if h : p then UnpackedFloat.zero s else .finite s m e (hm h)) ≠ .notANumber := by
  by_cases h : p
  · rw [dif_pos h]
    exact nofun
  · rw [dif_neg h]
    exact nofun

theorem unpack_ne_notANumber {b : BitVec Format.binary64.numBits}
    (h : unpackExponent b ≠ -1#11) :
    UnpackedFloat.unpack Format.binary64 b ≠ .notANumber := by
  unfold UnpackedFloat.unpack
  rw [if_neg h]
  by_cases hzero : unpackExponent b = 0#11
  · rw [if_pos hzero]
    exact zero_or_finite_ne_notANumber _ _ _
  · rw [if_neg hzero]
    exact nofun

/-- Packing makes a number of no finite value into none, canonical or not. -/
theorem unpack_pack_finite_ne_notANumber {s : Sign} {m : ℕ} {e : ℤ} (h : 0 < m) :
    UnpackedFloat.unpack Format.binary64 (UnpackedFloat.pack Format.binary64 (.finite s m e h))
      ≠ .notANumber := by
  rw [pack_finite]
  split
  · rw [unpack_packedInfinity]
    exact nofun
  · rename_i hsmall
    split <;> apply unpack_ne_notANumber <;> rw [unpackExponent_packComponents]
    · intro heq
      have h2047 := congrArg BitVec.toNat heq
      rw [BitVec.toNat_ofNat, Nat.mod_eq_of_lt (by omega)] at h2047
      have hval : (-1#11).toNat = 2047 := by decide
      omega
    · decide

/-- Packing gives no number only for what was none. -/
theorem unpack_pack_eq_notANumber {u : UnpackedFloat} :
    UnpackedFloat.unpack Format.binary64 (UnpackedFloat.pack Format.binary64 u) = .notANumber
      ↔ u = .notANumber := by
  cases u with
  | infinity s =>
      rw [show UnpackedFloat.pack Format.binary64 (.infinity s) = packedInfinity _ s from rfl,
        unpack_packedInfinity]
  | notANumber => exact iff_of_true unpack_packedNaN rfl
  | zero s =>
      rw [show UnpackedFloat.pack Format.binary64 (.zero s) = packedZero _ s from rfl,
        unpack_packedZero]
  | finite s m e h => exact iff_of_false (unpack_pack_finite_ne_notANumber h) nofun

theorem roundWithAccuracy_ne_notANumber (s : Sign) (m : ℕ) (e : ℤ) (a : Accuracy) :
    roundWithAccuracy Format.binary64 s m e a ≠ .notANumber := by
  unfold roundWithAccuracy
  exact zero_or_finite_ne_notANumber _ _ _

theorem round_ne_notANumber (s : Sign) (m : ℕ) (e : ℤ) :
    round Format.binary64 s m e ≠ .notANumber :=
  roundWithAccuracy_ne_notANumber _ _ _ _

theorem normalize_ne_notANumber (m e : ℤ) (s : Sign) :
    normalize Format.binary64 m e s ≠ .notANumber := by
  unfold UnpackedFloat.normalize
  split
  · exact round_ne_notANumber _ _ _
  · exact nofun
  · exact round_ne_notANumber _ _ _

end StoryMix.Numeral
