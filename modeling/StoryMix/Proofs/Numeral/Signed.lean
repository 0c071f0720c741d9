import StoryMix.Proofs.Numeral.Nearest

/-!
# Floats of either sign

A float is nearest to a number with the sign that it has itself (`Nearest`), and finite just when that is in
range (`Nearest.isFinite_iff`). The intervals of two floats meet in an end at most, and that belongs to the even
one, so no two values are nearest to one number (`Nearest.unique`). A number that is a float itself is read for
itself (`Nearest.value_eq`), which goes for numbers of up to 53 bits. Products and quotients of floats are the
floats nearest to those of their values.

The float nearest to a whole number is whole, for where floats are far apart they all are
(`Nearest.exists_int`). What is wrapped to 32 bits is the whole part (`toNat_wrapped`).
-/

namespace StoryMix.Numeral

open Float.Model Float.Model.UnpackedFloat

variable {m : ℕ} {q e : ℤ} {y : ℚ}

/-! ## Numbers with a sign -/

/-- What stands for the float nearest to `r`: the one in whose interval it lies, or the infinity of its sign
if it is out of range. What is rounded to zero keeps its sign, and zero may have either. -/
inductive Nearest (r : ℚ) : Exact → Prop
  | finite {negative m q} : Canonical m q → q ≤ 971 → RoundsTo m q |r| →
      (if negative then r ≤ 0 else 0 ≤ r) → Nearest r (.finite negative m q)
  | infinite {negative} : overflow ≤ |r| → (if negative then r ≤ 0 else 0 ≤ r) →
      Nearest r (.infinite negative)

theorem NearestTo.exact {x : Float} (h : NearestTo y (parts x)) : Nearest y (Exact.ofFloat x) := by
  have hy := h.nonneg
  have habs := abs_of_nonneg hy
  rw [ofFloat_eq]
  generalize parts x = u at h
  cases h with
  | zero h => exact .finite canonical_zero (by norm_num) (habs.symm ▸ h) hy
  | finite hc hq h => exact .finite hc hq (habs.symm ▸ h) hy
  | infinity h => exact .infinite (habs.symm ▸ h) hy

theorem parts_neg (x : Float) : parts (-x) = stored (parts x).neg := rfl

theorem NearestTo.exact_neg {x : Float} (h : NearestTo y (parts x)) : Nearest (-y) (Exact.ofFloat (-x)) := by
  have hy := neg_nonpos.2 h.nonneg
  have habs : |-y| = y := by rw [abs_neg, abs_of_nonneg h.nonneg]
  rw [ofFloat_eq, parts_neg]
  generalize parts x = u at h
  cases h with
  | zero h =>
      rw [show stored (UnpackedFloat.zero .positive).neg = .zero .negative from unpack_packedZero .negative]
      exact .finite canonical_zero (by norm_num) (habs.symm ▸ h) hy
  | @finite m q hm hc hq h =>
      rw [show stored (UnpackedFloat.finite .positive m q hm).neg = .finite .negative m q hm from
        unpack_pack_of_le hm hc hq]
      exact .finite hc hq (habs.symm ▸ h) hy
  | infinity h =>
      rw [show stored (UnpackedFloat.infinity .positive).neg = .infinity .negative from
        unpack_packedInfinity .negative]
      exact .infinite (habs.symm ▸ h) hy

theorem NearestTo.signed {x : Float} (negative : Bool) (h : NearestTo y (parts x)) :
    Nearest (if negative then -y else y) (Exact.ofFloat (signed negative x)) := by
  unfold Numeral.signed
  cases negative with
  | false => exact h.exact
  | true => exact h.exact_neg

theorem isFinite_iff_exact {x : Float} :
    x.isFinite = true ↔ ∃ negative m q, Exact.ofFloat x = .finite negative m q := by
  rw [ofFloat_eq]
  change (parts x).isFinite = true ↔ _
  cases parts x with
  | zero | finite => exact iff_of_true rfl ⟨_, _, _, rfl⟩
  | notANumber | infinity => exact iff_of_false nofun fun ⟨_, _, _, h⟩ => nomatch h

theorem value_of_finite {x : Float} {negative : Bool} (h : Exact.ofFloat x = .finite negative m q) :
    value x = if negative then -binary m q else binary m q := by
  unfold value
  rw [h]

/-- A number is read as a finite one just when it is not out of range. -/
theorem Nearest.isFinite_iff {x : Float} {r : ℚ} (h : Nearest r (Exact.ofFloat x)) :
    x.isFinite = true ↔ |r| < overflow := by
  rw [isFinite_iff_exact]
  generalize Exact.ofFloat x = exact at h
  cases h with
  | finite hc hq hround => exact iff_of_true ⟨_, _, _, rfl⟩ (hround.lt_overflow hc hq)
  | infinite hbig => exact iff_of_false (fun ⟨_, _, _, h⟩ => nomatch h) hbig.not_gt

/-! ## The nearest float is one -/

/-- Between two floats with even mantissas there is another one. -/
theorem Canonical.upper_lt_lower {m' : ℕ} {q' : ℤ} (h : Canonical m q) (h' : Canonical m' q')
    (heven : m % 2 = 0) (heven' : m' % 2 = 0) (hlt : binary m q < binary m' q') : upper m q < lower m' q' := by
  have hm' := pos_of_binary_pos ((binary_nonneg m q).trans_lt hlt)
  have hpow : (0 : ℚ) < 2 ^ q := by positivity
  have hnot : ¬ (q' < q ∨ q' = q ∧ m' ≤ m) := fun hle => hlt.not_ge ((h'.le_iff h).1 hle)
  have hlow := half_le_lower (q := q') hm'
  refine lt_of_lt_of_le ?_ hlow
  rw [upper_eq]
  rcases lt_or_ge q q' with hq | hq
  · have hge := h.ge
    have hbelow : (m : ℚ) ≤ 2 ^ 53 - 2 := by
      have hlt := h.lt
      have hm : m + 2 ≤ 2 ^ 53 := by omega
      have hm' : (m : ℚ) + 2 ≤ 2 ^ 53 := by exact_mod_cast hm
      linarith
    have habove : (2 ^ 52 : ℚ) ≤ m' := by exact_mod_cast h'.full.resolve_right (by omega)
    have hdouble : (2 : ℚ) ^ q * 2 ≤ 2 ^ q' := by
      rw [← zpow_add_one₀ two_ne_zero]
      exact zpow_le_zpow_right₀ one_le_two (by omega)
    calc (m + 1 / 2 : ℚ) * 2 ^ q
        ≤ (2 ^ 53 - 2 + 1 / 2) * 2 ^ q := by gcongr
      _ < (2 ^ 52 - 1 / 2) * (2 ^ q * 2) := by linarith
      _ ≤ (2 ^ 52 - 1 / 2) * 2 ^ q' := by gcongr
      _ ≤ (m' - 1 / 2) * 2 ^ q' := by gcongr
  · obtain rfl : q' = q := by omega
    have hnext : (m : ℚ) + 2 ≤ m' := by exact_mod_cast (by omega : m + 2 ≤ m')
    gcongr
    linarith

theorem RoundsTo.not_lt {m' : ℕ} {q' : ℤ} (h : RoundsTo m q y) (h' : RoundsTo m' q' y)
    (hc : Canonical m q) (hc' : Canonical m' q') : ¬ binary m q < binary m' q' := by
  intro hlt
  have hm' := pos_of_binary_pos ((binary_nonneg m q).trans_lt hlt)
  have hends := hc.upper_le_lower hc' hm' hlt
  -- The two intervals have at most an end in common, and only if both mantissas are even.
  have hupper : y = upper m q := le_antisymm h.le.2 (hends.trans h'.le.1)
  have hlower : y = lower m' q' := le_antisymm (h.le.2.trans hends) h'.le.1
  have heven : m % 2 = 0 := by_contra fun hodd => (h.strict hodd).2.ne hupper
  have heven' : m' % 2 = 0 := by_contra fun hodd => (h'.strict hodd).1.ne' hlower
  exact (hc.upper_lt_lower hc' heven heven' hlt).ne (hupper.symm.trans hlower)

theorem RoundsTo.unique {m' : ℕ} {q' : ℤ} (h : RoundsTo m q y) (h' : RoundsTo m' q' y)
    (hc : Canonical m q) (hc' : Canonical m' q') : binary m q = binary m' q' :=
  le_antisymm (le_of_not_gt (h'.not_lt h hc' hc)) (le_of_not_gt (h.not_lt h' hc hc'))

/-- Floats nearest to one number have one value, and are finite together. -/
theorem Nearest.unique {x x' : Float} {r : ℚ} (h : Nearest r (Exact.ofFloat x))
    (h' : Nearest r (Exact.ofFloat x')) (hfinite : x.isFinite = true) :
    x'.isFinite = true ∧ value x' = value x := by
  have hrange := h.isFinite_iff.1 hfinite
  refine ⟨h'.isFinite_iff.2 hrange, ?_⟩
  obtain ⟨negative, m, q, hx⟩ := isFinite_iff_exact.1 hfinite
  obtain ⟨negative', m', q', hx'⟩ := isFinite_iff_exact.1 (h'.isFinite_iff.2 hrange)
  rw [value_of_finite hx, value_of_finite hx']
  rw [hx] at h
  rw [hx'] at h'
  obtain ⟨hc, -, hround, hsign⟩ := h
  obtain ⟨hc', -, hround', hsign'⟩ := h'
  rw [hround'.unique hround hc' hc]
  -- The signs can differ only at zero.
  have hzero (hr : r = 0) : binary m q = 0 := by
    rw [hr, abs_zero, ← binary_zero (-1074)] at hround
    rw [hround.unique canonical_zero.roundsTo_binary hc canonical_zero, binary_zero]
  cases negative with
  | false =>
      cases negative' with
      | false => rfl
      | true =>
          have hr : r = 0 := le_antisymm hsign' hsign
          rw [hzero hr]
          exact neg_zero
  | true =>
      cases negative' with
      | true => rfl
      | false =>
          have hr : r = 0 := le_antisymm hsign hsign'
          rw [hzero hr]
          exact neg_zero.symm

/-! ## Numbers that are floats -/

/-- A number that is a float is read as itself. -/
theorem Nearest.value_eq {x : Float} {r : ℚ} (h : Nearest r (Exact.ofFloat x)) (hc : Canonical m q)
    (hq : q ≤ 971) (hr : |r| = binary m q) : x.isFinite = true ∧ value x = r := by
  have hself : RoundsTo m q |r| := hr ▸ hc.roundsTo_binary
  have hrange := hself.lt_overflow hc hq
  refine ⟨h.isFinite_iff.2 hrange, ?_⟩
  unfold value
  generalize Exact.ofFloat x = exact at h
  cases h with
  | @finite negative m' q' hc' hq' hround hsign =>
      have hvalue := hround.unique hself hc' hc
      dsimp only
      rw [hvalue, ← hr]
      cases negative with
      | false => exact abs_of_nonneg hsign
      | true => exact (congrArg Neg.neg (abs_of_nonpos hsign)).trans (neg_neg r)
  | infinite hbig => exact absurd hrange hbig.not_gt

/-- So is any number of up to 53 bits, and the next one, scaled by a power of two that keeps it in range. -/
theorem Nearest.value_eq_of_le {x : Float} {r : ℚ} {n : ℕ} (h : Nearest r (Exact.ofFloat x)) (hn : n ≤ 2 ^ 53)
    (hlow : -1022 ≤ e) (hhigh : e ≤ 970) (hr : |r| = binary n e) : x.isFinite = true ∧ value x = r := by
  rcases Nat.eq_zero_or_pos n with rfl | hpos
  · exact h.value_eq canonical_zero (by norm_num) (by rw [hr, binary_zero, binary_zero])
  rcases hn.lt_or_eq with hlt | rfl
  · have hcanonical := canonical_of_lt hpos hlt
    have hfull : Canonical (n * 2 ^ (52 - n.log2)) (e - (52 - n.log2 : ℕ)) := by
      refine ⟨hcanonical.lt, by omega, ?_⟩
      exact .inl (hcanonical.full.resolve_right (by omega))
    exact h.value_eq hfull (by omega) (hr.trans (binary_mul_two_pow ..).symm)
  · have hfull : Canonical (2 ^ 52) (e + 1) := ⟨by norm_num, by omega, .inl le_rfl⟩
    refine h.value_eq hfull (by omega) ?_
    have hdouble := binary_mul_two_pow (2 ^ 52) (e + 1) 1
    rw [Nat.cast_one, add_sub_cancel_right, ← pow_add] at hdouble
    exact hr.trans hdouble

/-- So is a whole number of up to 53 bits, and the next one. -/
theorem Nearest.value_eq_int {x : Float} {n : ℤ} (h : Nearest n (Exact.ofFloat x)) (hn : |n| ≤ 2 ^ 53) :
    x.isFinite = true ∧ value x = n := by
  rw [Int.abs_eq_natAbs] at hn
  refine h.value_eq_of_le (e := 0) (n := n.natAbs) (by exact_mod_cast hn) (by norm_num) (by norm_num) ?_
  rw [binary, zpow_zero, mul_one, ← Int.cast_abs, Int.abs_eq_natAbs, Int.cast_natCast]

/-! ## Products and quotients of floats -/

/-- A finite float whose value is not negative. Only its zero can have the sign set. -/
theorem holds_of_value {x : Float} (hfinite : x.isFinite = true) (hvalue : 0 ≤ value x) :
    ∃ m q, Holds x m q := by
  change (parts x).isFinite = true at hfinite
  unfold value at hvalue
  rw [ofFloat_eq] at hvalue
  cases hx : parts x with
  | notANumber | infinity => rw [hx] at hfinite; cases hfinite
  | zero s => exact ⟨_, _, .zero hx⟩
  | finite s m q h =>
      cases s with
      | positive => exact ⟨_, _, .finite hx⟩
      | negative =>
          rw [hx] at hvalue
          exact absurd hvalue (neg_neg_of_pos (binary_pos h q)).not_ge

theorem nearest_of_zero {x : Float} {s} (h : parts x = stored (.zero s)) : Nearest 0 (Exact.ofFloat x) := by
  rw [ofFloat_eq, h, show stored (.zero s) = .zero s from unpack_packedZero s]
  refine .finite canonical_zero (by norm_num) ?_ (by cases s <;> exact le_rfl)
  rw [abs_zero, ← binary_zero (-1074)]
  exact canonical_zero.roundsTo_binary

section

variable {x y : Float} {m' : ℕ} {q' : ℤ}

/-- A product of floats that are not negative is the float nearest to that of their values. -/
theorem Holds.nearest_mul (hx : Holds x m q) (hy : Holds y m' q') :
    Nearest (binary m q * binary m' q') (Exact.ofFloat (x * y)) := by
  have hc := hx.canonical
  have hc' := hy.canonical
  cases hx with
  | zero hx =>
      rw [binary_zero, zero_mul]
      cases hy with
      | zero hy => exact nearest_of_zero (by rw [parts_mul, hx, hy]; rfl)
      | finite hy => exact nearest_of_zero (by rw [parts_mul, hx, hy]; rfl)
  | @finite m q h hx =>
      cases hy with
      | zero hy =>
          rw [binary_zero, mul_zero]
          exact nearest_of_zero (by rw [parts_mul, hx, hy]; rfl)
      | @finite m' q' h' hy =>
          refine NearestTo.exact ?_
          rw [parts_mul, hx, hy]
          exact nearestTo_mul (hc.le_target_mul h h' hc')

/-- So is a quotient by one that is not zero. -/
theorem Holds.nearest_div (hx : Holds x m q) (hy : Holds y m' q') (hm' : 0 < m') :
    Nearest (binary m q / binary m' q') (Exact.ofFloat (x / y)) := by
  cases hy with
  | zero => exact absurd hm' (Nat.lt_irrefl 0)
  | finite hy =>
      cases hx with
      | zero hx =>
          rw [binary_zero, zero_div]
          exact nearest_of_zero (by rw [parts_div, hx, hy]; rfl)
      | finite hx =>
          refine NearestTo.exact ?_
          rw [parts_div, hx, hy]
          exact nearestTo_div

end

/-! ## Whole numbers -/

/-- A quotient of whole numbers is whole just when nothing remains. -/
theorem exists_int_iff (m : ℕ) (q : ℤ) :
    numerator m q % denominator q = 0 ↔ ∃ n : ℤ, binary m q = n := by
  have hvalue : binary m q * denominator q = numerator m q := (cast_numerator m q).symm
  constructor
  · intro h
    obtain ⟨k, hk⟩ := Nat.dvd_of_mod_eq_zero h
    refine ⟨k, mul_right_cancel₀ (denominator_pos q).ne' ?_⟩
    rw [hvalue, hk]
    push_cast
    ring
  · rintro ⟨n, hn⟩
    rw [hn] at hvalue
    have hdvd : (denominator q : ℤ) ∣ numerator m q := ⟨n, by
      have hcast : (n * denominator q : ℤ) = numerator m q := by exact_mod_cast hvalue
      rw [← hcast, mul_comm]⟩
    exact Nat.mod_eq_zero_of_dvd (Int.natCast_dvd_natCast.1 hdvd)

theorem isWhole_iff {x : Float} : isWhole x = true ↔ x.isFinite = true ∧ ∃ n : ℤ, value x = n := by
  rw [isFinite_iff_exact]
  unfold isWhole value
  cases Exact.ofFloat x with
  | nan | infinite => exact iff_of_false nofun fun ⟨⟨_, _, _, h⟩, _⟩ => nomatch h
  | finite negative m q =>
      dsimp only
      rw [beq_iff_eq, exists_int_iff, and_iff_right ⟨_, _, _, rfl⟩]
      cases negative with
      | false => rfl
      | true =>
          constructor
          · rintro ⟨n, hn⟩
            exact ⟨-n, by rw [if_pos rfl, hn, Int.cast_neg]⟩
          · rintro ⟨n, hn⟩
            exact ⟨-n, by rw [Int.cast_neg, ← hn, if_pos rfl, neg_neg]⟩

theorem isWhole_zero : isWhole 0 = true := by
  have hzero : Holds 0 0 (-1074) := .zero parts_zero
  exact isWhole_iff.2 ⟨rfl, 0, by rw [hzero.value_eq, binary_zero, Int.cast_zero]⟩

/-- The float nearest to a whole number is whole, for where floats are far apart they all are. -/
theorem Nearest.exists_int {x : Float} {n : ℤ} (h : Nearest n (.ofFloat x)) (hfinite : x.isFinite = true) :
    ∃ k : ℤ, value x = k := by
  rcases le_or_gt |n| (2 ^ 53) with hsmall | hlarge
  · exact ⟨n, (h.value_eq_int hsmall).2⟩
  obtain ⟨negative, m, q, hx⟩ := isFinite_iff_exact.1 hfinite
  rw [value_of_finite hx]
  rw [hx] at h
  obtain ⟨hc, -, hround, -⟩ := h
  have hq : 0 ≤ q := by
    by_contra hneg
    have hbound : (m + 1 / 2 : ℚ) * 2 ^ q ≤ 2 ^ 53 * 1 := by
      have hm : (m : ℚ) + 1 ≤ 2 ^ 53 := mod_cast hc.lt
      exact mul_le_mul (by linarith) (zpow_le_one_of_nonpos₀ one_le_two (by omega)) (by positivity)
        (by positivity)
    have habs : |(n : ℚ)| ≤ 2 ^ 53 := by
      rw [← mul_one (2 ^ 53 : ℚ)]
      exact (hround.le.2.trans_eq (upper_eq m q)).trans hbound
    exact hlarge.not_ge (by exact_mod_cast habs)
  rw [binary_of_nonneg m hq]
  cases negative with
  | false => exact ⟨(m * 2 ^ q.toNat : ℕ), by rw [if_neg Bool.false_ne_true, Int.cast_natCast]⟩
  | true => exact ⟨-(m * 2 ^ q.toNat : ℕ), by rw [if_pos rfl, Int.cast_neg, Int.cast_natCast]⟩

/-! ## Whole parts -/

/-- The whole part of a number, its fraction cut off towards zero. -/
def truncated (y : ℚ) : ℤ :=
  if 0 ≤ y then ⌊y⌋ else ⌈y⌉

theorem truncated_neg (y : ℚ) : truncated (-y) = -truncated y := by
  unfold truncated
  rcases lt_trichotomy y 0 with hneg | rfl | hpos
  · rw [if_pos (by linarith), if_neg hneg.not_ge, Int.floor_neg]
  · simp
  · rw [if_neg (by linarith), if_pos hpos.le, Int.ceil_neg]

theorem truncated_binary (m : ℕ) (q : ℤ) :
    truncated (binary m q) = (numerator m q / denominator q : ℕ) := by
  have hvalue : binary m q = (numerator m q : ℚ) / (denominator q : ℕ) := by
    rw [cast_numerator, mul_div_cancel_right₀ _ (denominator_pos q).ne']
  unfold truncated
  rw [if_pos (binary_nonneg m q), ← Nat.floor_div_eq_div (K := ℚ), ← hvalue]
  exact (Int.natCast_floor_eq_floor (binary_nonneg m q)).symm

/-- The whole part of a float. There is none to what is not finite, which counts as zero. -/
def wholePart (x : Float) : ℤ :=
  if x.isFinite then truncated (value x) else 0

/-- What a float is counted as modulo `2 ^ 32`. -/
theorem toNat_wrapped (x : Float) : ((wrapped x).toNat : ℤ) = wholePart x % 2 ^ 32 := by
  unfold wholePart
  split
  next hfinite =>
    obtain ⟨negative, m, q, hx⟩ := isFinite_iff_exact.1 hfinite
    have hwhole : ((UInt32.ofNat (numerator m q / denominator q)).toNat : ℤ)
        = truncated (binary m q) % 2 ^ 32 := by
      rw [truncated_binary, UInt32.toNat_ofNat']
      push_cast
      rfl
    unfold wrapped value
    rw [hx]
    cases negative with
    | false => exact hwhole
    | true =>
        dsimp only
        rw [if_pos rfl, if_pos rfl, truncated_neg, UInt32.toNat_neg, UInt32.size]
        omega
  next hfinite =>
    unfold wrapped
    cases hx : Exact.ofFloat x with
    | nan | infinite => rfl
    | finite negative m q => exact absurd (isFinite_iff_exact.2 ⟨_, _, _, hx⟩) hfinite

end StoryMix.Numeral
