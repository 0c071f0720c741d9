import Mathlib.Algebra.Order.Floor.Semifield
import Mathlib.Data.Rat.Floor
import StoryMix.Proofs.Numeral.Product
import StoryMix.Proofs.Numeral.Sum
import StoryMix.Proofs.Numeral.Written

/-!
# Whole numbers as floats

A whole number of up to 53 bits is a float (`holds_ofNat`). So the nearest whole number to a float that
is not negative is exact: it is the floor of the value and a half (`holds_nearestWhole`), since beyond
those 53 bits every float is whole already.

The text of a whole number has digits only below `10 ^ 21` (`exists_natText`), and they are the number's own
up to 53 bits (`text_of_lt`); beyond these they are those of another number that rounds to it, but greater
numbers are still written as no less (`natText_mono`). From `10 ^ 21` on there is an exponent
(`Holds.large_text`).
-/

namespace StoryMix.Numeral

open Float.Model Float.Model.UnpackedFloat

/-! ## The float of a whole number -/

/-- A whole number of up to 53 bits, written with all of them. -/
theorem canonical_of_lt {n : ℕ} (hn : 0 < n) (hlt : n < 2 ^ 53) :
    Canonical (n * 2 ^ (52 - n.log2)) (-(52 - n.log2 : ℕ)) := by
  have hlog := (Nat.log2_lt hn.ne').2 hlt
  have hpos : 0 < n * 2 ^ (52 - n.log2) := by positivity
  have hlog' : (n * 2 ^ (52 - n.log2)).log2 = 52 := by
    rw [log2_mul_two_pow hn]
    omega
  exact ⟨(Nat.log2_lt hpos.ne').1 (by omega), by omega,
    .inl ((Nat.le_log2 hpos.ne').1 hlog'.ge)⟩

theorem stored_toFloat {n : UInt64} (hn : 0 < n.toNat) (hlt : n.toNat < 2 ^ 53) :
    Stored n.toNat (parts n.toFloat) := by
  have hlog := (Nat.log2_lt hn.ne').2 hlt
  have htarget : target n.toNat 0 = -(52 - n.toNat.log2 : ℕ) := by
    rw [target_eq]
    omega
  have hparts : parts n.toFloat = UnpackedFloat.unpack Format.binary64 (UnpackedFloat.pack
      Format.binary64 (roundWithAccuracy Format.binary64 .positive
        (n.toNat <<< (0 - target n.toNat 0).toNat) (0 - ((0 - target n.toNat 0).toNat : ℤ)) .exact)) := by
    change UnpackedFloat.unpack Format.binary64 (UnpackedFloat.pack Format.binary64
      (normalize Format.binary64 n.toNat 0 .positive)) = _
    rw [normalize_natCast hn]
    rfl
  have hcanonical := canonical_of_lt hn hlt
  have hvalue : binary (n.toNat * 2 ^ (52 - n.toNat.log2)) (-(52 - n.toNat.log2 : ℕ)) = n.toNat := by
    rw [← zero_sub, binary_mul_two_pow]
    simp [binary]
  have hpos : 0 < n.toNat * 2 ^ (52 - n.toNat.log2) := by positivity
  rw [hparts, htarget, Nat.shiftLeft_eq, zero_sub, neg_neg, Int.toNat_natCast, zero_sub, ← hvalue,
    ← rounded_of_canonical hpos hcanonical]
  exact stored_roundWithAccuracy hpos (target_of_canonical hpos hcanonical).ge

theorem parts_one : parts Float.exactlyRepresentablePowersOfTen[0] =
    .finite .positive (2 ^ 52) (-52) (by decide) := rfl

theorem ofNat_eq_mul {n : ℕ} (h : n < 2 ^ 53) :
    Float.ofNat n = n.toUInt64.toFloat * Float.exactlyRepresentablePowersOfTen[0] := by
  change Float.ofScientific n false 0 = _
  unfold Float.ofScientific
  rw [dif_pos ⟨h, by decide⟩]
  rfl

/-- A whole number of up to 53 bits is a float. -/
theorem holds_ofNat {n : ℕ} (h : n < 2 ^ 53) : ∃ m q, Holds (Float.ofNat n) m q ∧ binary m q = n := by
  rcases Nat.eq_zero_or_pos n with rfl | hn
  · exact ⟨_, _, .zero (s := .positive) rfl, by rw [binary_zero, Nat.cast_zero]⟩
  have hnat : n.toUInt64.toNat = n :=
    UInt64.toNat_ofNat_of_lt' (h.trans (by decide))
  have hsmall : (n : ℚ) < 2 ^ 1024 := by
    have hn : (n : ℚ) < 2 ^ 53 := mod_cast h
    exact hn.trans (pow_lt_pow_right₀ one_lt_two (by norm_num))
  have hstored := stored_toFloat (n := n.toUInt64) (by omega) (by omega)
  rw [hnat] at hstored
  obtain ⟨m, q, hx, hvalue⟩ := hstored.holds hsmall
  have hm : 0 < m := pos_of_binary_pos (q := q) (by rw [hvalue]; exact_mod_cast hn)
  have hone : binary (2 ^ 52) (-52) = 1 := by norm_num [binary]
  -- The last factor is one, so the product can be held as well.
  have hmul := stored_mul_of_pos parts_one hm hx
  rw [rounded_of_eq hm (by positivity) hx.canonical
    (hx.canonical.le_target_mul hm (by decide) ⟨by decide, by decide, .inl le_rfl⟩)
    (by rw [binary_mul_binary, hone, mul_one]), hvalue, ← ofNat_eq_mul h] at hmul
  exact hmul.holds hsmall

/-! ## The nearest whole number -/

variable {x : Float} {m : ℕ} {q : ℤ}

theorem floor_half {m d : ℕ} (hd : 0 < d) : ⌊(m / d + 1 / 2 : ℚ)⌋₊ = roundHalfUp m d := by
  unfold roundHalfUp
  rw [← Nat.floor_div_eq_div (K := ℚ)]
  congr 1
  push_cast
  field_simp

theorem binary_of_nonneg (m : ℕ) {q : ℤ} (hq : 0 ≤ q) : binary m q = (m * 2 ^ q.toNat : ℕ) := by
  obtain ⟨k, rfl⟩ := Int.eq_ofNat_of_zero_le hq
  rw [binary, zpow_natCast, Int.toNat_natCast]
  push_cast
  rfl

theorem binary_of_nonpos (m : ℕ) {q : ℤ} (hq : q ≤ 0) : binary m q = m / (denominator q : ℕ) := by
  obtain ⟨k, hk⟩ := Int.eq_ofNat_of_zero_le (neg_nonneg.2 hq)
  obtain rfl : q = -k := by omega
  rw [binary, denominator, cast_twoTo, neg_neg, Int.toNat_natCast, zpow_neg, zpow_natCast, div_eq_mul_inv]

theorem floor_whole (n : ℕ) : ⌊(n + 1 / 2 : ℚ)⌋₊ = n := by
  rw [Nat.floor_eq_iff (by positivity)]
  constructor <;> linarith

/-- The nearest whole number is the floor of the value and a half. -/
theorem holds_nearestWhole (hx : Holds x m q) :
    ∃ m' q', Holds (nearestWhole x) m' q' ∧ binary m' q' = ⌊binary m q + 1 / 2⌋₊ := by
  obtain ⟨negative, hexact, hzero⟩ := hx.exact
  unfold nearestWhole
  rw [hexact]
  dsimp only
  rcases le_or_gt 0 q with hq | hq
  · rw [if_pos hq]
    refine ⟨m, q, hx, ?_⟩
    rw [binary_of_nonneg m hq, floor_whole]
  rw [if_neg hq.not_ge]
  have hd : 2 ≤ denominator q := by
    unfold denominator twoTo
    exact Nat.le_self_pow (by omega) 2
  cases negative with
  | true =>
      obtain rfl := hzero rfl
      have hnone : (2 * 0 - denominator q + (2 * denominator q - 1)) / (2 * denominator q) = 0 :=
        Nat.div_eq_of_lt (by omega)
      rw [if_pos rfl, hnone]
      exact ⟨_, _, .zero (s := .negative) rfl, by rw [binary_zero, binary_zero]; norm_num⟩
  | false =>
      have hm := hx.canonical.lt
      rw [if_neg Bool.false_ne_true, binary_of_nonpos m hq.le, floor_half (by omega)]
      refine holds_ofNat (Nat.div_lt_of_lt_mul ?_)
      nlinarith

theorem nearestWhole_of_infinity (hx : parts x = .infinity .positive) : nearestWhole x = x := by
  unfold nearestWhole
  rw [ofFloat_eq, hx]

/-- The nearest whole numbers are in the order of the numbers. -/
theorem nearestWhole_mono {y : Float} (hx : 0 ≤ x) (hxy : x ≤ y) : nearestWhole x ≤ nearestWhole y := by
  rcases holds_or_infinity (le_trans hx hxy) with ⟨m', q', hy⟩ | hy
  · rcases holds_or_infinity hx with ⟨m, q, hx⟩ | hx
    · obtain ⟨_, _, hwhole, hvalue⟩ := holds_nearestWhole hx
      obtain ⟨_, _, hwhole', hvalue'⟩ := holds_nearestWhole hy
      have hle := (hx.le_iff hy).1 hxy
      rw [hx.value_eq, hy.value_eq] at hle
      rw [hwhole.le_iff hwhole', hwhole.value_eq, hwhole'.value_eq, hvalue, hvalue', Nat.cast_le]
      gcongr
    · exact absurd hxy (hy.not_infinity_le hx)
  · rw [nearestWhole_of_infinity hy]
    rcases holds_or_infinity hx with ⟨m, q, hx⟩ | hx
    · obtain ⟨_, _, hwhole, -⟩ := holds_nearestWhole hx
      exact hwhole.le_infinity hy
    · rw [nearestWhole_of_infinity hx]
      exact hxy

/-! ## Their texts -/

/-- `10 ^ 21` as a float. -/
theorem canonical_limit : Canonical (5 ^ 21 * 2 ^ 4) 17 :=
  ⟨by decide, by decide, .inl (by decide)⟩

theorem binary_limit : binary (5 ^ 21 * 2 ^ 4) 17 = 10 ^ 21 := by
  norm_num [binary]

/-- What rounds to less than `10 ^ 21` is less. -/
theorem RoundsTo.lt_limit {y : ℚ} (h : RoundsTo m q y) (hc : Canonical m q) (hlt : binary m q < 10 ^ 21) :
    y < 10 ^ 21 := by
  rw [← binary_limit] at hlt ⊢
  exact h.le.2.trans_lt ((hc.upper_le_lower canonical_limit (by decide) hlt).trans_lt (lower_lt (by decide)))

/-- What rounds to more than `10 ^ 21` is more. -/
theorem RoundsTo.limit_lt {y : ℚ} (h : RoundsTo m q y) (hc : Canonical m q) (hlt : 10 ^ 21 < binary m q) :
    10 ^ 21 < y := by
  have hm : 0 < m := pos_of_binary_pos ((by norm_num : (0 : ℚ) < 10 ^ 21).trans hlt)
  rw [← binary_limit] at hlt ⊢
  exact (lt_upper _ _).trans_le ((canonical_limit.upper_le_lower hc hm hlt).trans h.le.1)

theorem Holds.text_eq (hx : Holds x m q) (hm : 0 < m) : text x = String.ofList (shortest m q).text := by
  obtain ⟨negative, hexact, hzero⟩ := hx.exact
  have hsign : negative = false := by
    cases negative with
    | false => rfl
    | true => exact absurd (hzero rfl) hm.ne'
  unfold text
  rw [hexact, hsign]
  dsimp only
  rw [if_neg hm.ne']
  exact String.empty_append

theorem Holds.text_zero (hx : Holds x 0 q) : text x = natText 0 := by
  obtain ⟨negative, hexact, -⟩ := hx.exact
  unfold text
  rw [hexact]
  rfl

/-- The shortest decimal of a whole number is a whole number. -/
theorem shortest_exponent_nonneg (hx : Holds x m q) (hm : 0 < m) {n : ℕ} (hn : binary m q = n) :
    0 ≤ (shortest m q).exponent := by
  have hc := hx.canonical
  have hq := hx.exponent_le
  have hmagnitude : 0 < magnitude m q := by
    have hone : (1 : ℚ) ≤ binary m q := by
      have hpos := binary_pos hm q
      rw [hn] at hpos ⊢
      exact_mod_cast hpos
    have hlt := hone.trans_lt (magnitude_spec hm hc hq).2
    rw [← zpow_zero (10 : ℚ)] at hlt
    exact (zpow_lt_zpow_iff_right₀ (by norm_num)).1 hlt
  -- A grid that has a point in the interval: the whole numbers, or that of seventeen digits if it is coarser.
  obtain ⟨j, hj, hsome, hge⟩ : ∃ j < 17, (onGrid m q (magnitude m q - 1 - (j : ℕ))).isSome
      ∧ 0 ≤ magnitude m q - 1 - (j : ℕ) := by
    rcases le_or_gt (magnitude m q) 17 with hsmall | hlarge
    · refine ⟨(magnitude m q - 1).toNat, by omega, ?_, by omega⟩
      rw [show magnitude m q - 1 - ((magnitude m q - 1).toNat : ℤ) = 0 by omega]
      refine onGrid_isSome (d := n) hm ?_
      rw [zpow_zero, mul_one, ← hn]
      exact roundsTo_self hm
    · obtain ⟨d, hd⟩ := seventeen_digits hm hc hq
      refine ⟨16, by decide, ?_, by omega⟩
      rw [show magnitude m q - 1 - (16 : ℕ) = magnitude m q - 17 by omega]
      exact onGrid_isSome hm hd
  obtain ⟨d, t, heq, -, hle, -⟩ := shortestFrom_spec hj hsome
  rw [shortest, heq]
  exact hge.trans hle

/-- A whole number below `10 ^ 21` is written with digits only, and these round to it. -/
theorem exists_natText (hx : Holds x m q) {n : ℕ} (hn : binary m q = n) (hlt : n < 10 ^ 21) :
    ∃ d : ℕ, text x = natText d ∧ (m = 0 ∧ d = 0 ∨ 0 < m ∧ RoundsTo m q d) := by
  rcases Nat.eq_zero_or_pos m with rfl | hm
  · exact ⟨0, hx.text_zero, .inl ⟨rfl, rfl⟩⟩
  have hc := hx.canonical
  have hrounds := shortest_roundsTo hm hc hx.exponent_le
  have hexponent := shortest_exponent_nonneg hx hm hn
  rw [hx.text_eq hm]
  generalize shortest m q = decimal at hrounds hexponent
  obtain ⟨d, t⟩ := decimal
  obtain ⟨k, rfl⟩ := Int.eq_ofNat_of_zero_le hexponent
  have hvalue : (d : ℚ) * 10 ^ (k : ℤ) = (d * 10 ^ k : ℕ) := by
    push_cast
    rw [zpow_natCast]
  have hbelow : d * 10 ^ k < 10 ^ 21 := by
    have hless := hrounds.lt_limit hc (by rw [hn]; exact_mod_cast hlt)
    rw [hvalue] at hless
    exact_mod_cast hless
  have hpos := pos_of_roundsTo hm hrounds
  rw [hvalue] at hrounds
  refine ⟨d * 10 ^ k, ?_, .inr ⟨hm, hrounds⟩⟩
  exact congrArg String.ofList (text_of_whole hpos hbelow)

/-- Up to 53 bits these are the digits of the number itself. -/
theorem text_of_lt (hx : Holds x m q) {n : ℕ} (hn : binary m q = n) (hlt : n < 2 ^ 53) :
    text x = natText n := by
  obtain ⟨d, hd, hround⟩ := exists_natText hx hn (hlt.trans (by decide))
  rw [hd]
  congr 1
  rcases hround with ⟨rfl, rfl⟩ | ⟨hm, hround⟩
  · rw [binary, Nat.cast_zero, zero_mul] at hn
    exact_mod_cast hn
  have hq : q ≤ 0 := by
    by_contra hpos
    have hfull : 2 ^ 52 ≤ m := hx.canonical.full.resolve_right (by omega)
    have hn' : n = m * 2 ^ q.toNat := by
      rw [binary_of_nonneg m (by omega)] at hn
      exact_mod_cast hn.symm
    have htwo : 2 ^ 1 ≤ 2 ^ q.toNat := Nat.pow_le_pow_right (by decide) (by omega)
    have := Nat.mul_le_mul hfull htwo
    omega
  -- The interval is at most one half longer on either side, and holds no other whole number.
  have hpow : (2 : ℚ) ^ q ≤ 1 := zpow_le_one_of_nonpos₀ one_le_two hq
  have hlow := (half_le_lower hm).trans hround.le.1
  have hhigh := hround.le.2
  rw [upper_eq] at hhigh
  unfold binary at hn
  have hbelow : (d : ℚ) < n + 1 := by linarith
  have habove : (n : ℚ) < d + 1 := by linarith
  have hbelow' : d < n + 1 := by exact_mod_cast hbelow
  have habove' : n < d + 1 := by exact_mod_cast habove
  omega

/-- From `10 ^ 21` on the shortest decimal is as great. -/
theorem le_shortest (hx : Holds x m q) (hm : 0 < m) (h : 10 ^ 21 ≤ binary m q) :
    10 ^ 21 ≤ ((shortest m q).digits * 10 ^ (shortest m q).exponent : ℚ) := by
  have hc := hx.canonical
  rcases h.eq_or_lt with heq | hlt
  · obtain ⟨rfl, rfl⟩ := hc.eq_of_binary_eq canonical_limit (heq.symm.trans binary_limit.symm)
    have hshortest : shortest (5 ^ 21 * 2 ^ 4) 17 = ⟨1, 21⟩ := by decide +kernel
    rw [hshortest]
    norm_num
  · exact ((shortest_roundsTo hm hc hx.exponent_le).limit_lt hc hlt).le

/-- From `10 ^ 21` on a float is written with an exponent. -/
theorem Holds.large_text (hx : Holds x m q) (h : 10 ^ 21 ≤ binary m q) :
    ∃ whole places mantissa n, Spelled whole places mantissa
      ∧ (text x).toList = mantissa ++ 'e' :: '+' :: digitsOf n ∧ 21 ≤ n
      ∧ 0 < scientific (whole ++ places) places.length n := by
  have hm : 0 < m := pos_of_binary_pos ((by norm_num : (0 : ℚ) < 10 ^ 21).trans_le h)
  have hle := le_shortest hx hm h
  have hd := pos_of_roundsTo hm (shortest_roundsTo hm hx.canonical hx.exponent_le)
  rw [hx.text_eq hm, String.toList_ofList]
  obtain ⟨whole, places, mantissa, n, hspelled, htext, hn, hvalue⟩ := Numeral.large_text hd hle
  exact ⟨whole, places, mantissa, n, hspelled, htext, hn, by rw [hvalue]; positivity⟩

/-- Of two whole numbers that are written with digits only the greater is written as no less. -/
theorem natText_mono {y : Float} {m' n n' d d' : ℕ} {q' : ℤ} (hx : Holds x m q) (hy : Holds y m' q')
    (hn : binary m q = n) (hn' : binary m' q' = n') (hlt : n' < 10 ^ 21) (hle : n ≤ n')
    (hd : text x = natText d) (hd' : text y = natText d') : d ≤ d' := by
  obtain ⟨e, he, hround⟩ := exists_natText hx hn (hle.trans_lt hlt)
  obtain ⟨e', he', hround'⟩ := exists_natText hy hn' hlt
  obtain rfl := natText_inj (hd.symm.trans he)
  obtain rfl := natText_inj (hd'.symm.trans he')
  rcases hround with ⟨-, rfl⟩ | ⟨hm, hround⟩
  · exact Nat.zero_le d'
  have hpos : 0 < m' := by
    refine pos_of_binary_pos (q := q') ((binary_pos hm q).trans_le ?_)
    rw [hn, hn']
    exact_mod_cast hle
  have hround' := hround'.resolve_left fun h => hpos.ne' h.1
  rcases hle.eq_or_lt with rfl | hless
  · obtain ⟨rfl, rfl⟩ := hx.canonical.eq_of_binary_eq hy.canonical (hn.trans hn'.symm)
    rw [hx.text_eq hm, ← hy.text_eq hm] at hd
    exact (natText_inj (hd.symm.trans hd')).le
  · have hvalue : binary m q < binary m' q' := by
      rw [hn, hn']
      exact_mod_cast hless
    have hends := hround.le.2.trans
      ((hx.canonical.upper_le_lower hy.canonical hpos hvalue).trans hround'.2.le.1)
    exact_mod_cast hends

end StoryMix.Numeral
