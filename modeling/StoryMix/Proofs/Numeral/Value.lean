import Mathlib.Algebra.Order.Field.Power
import Mathlib.Data.Rat.Lemmas
import Mathlib.Tactic.FieldSimp
import Mathlib.Tactic.Linarith
import Mathlib.Tactic.NormNum
import Mathlib.Tactic.Positivity
import Mathlib.Tactic.Ring
import StoryMix.Proofs.Numeral.Rounding

/-!
# The numbers that floats stand for

A finite float is a mantissa times a power of two, and so a rational number (`value`). What is read off
its bits are the parts that the operations work with (`ofFloat_eq`), and floats that are not negative are
in the order of their values (`le_iff_value`).
-/

namespace StoryMix.Numeral

open Float.Model Float.Model.UnpackedFloat

/-! ## Mantissas with a power of two -/

/-- The number `m * 2 ^ q`. -/
def binary (m : ℕ) (q : ℤ) : ℚ :=
  m * 2 ^ q

theorem binary_nonneg (m : ℕ) (q : ℤ) : 0 ≤ binary m q := by
  unfold binary
  positivity

theorem binary_pos {m : ℕ} (h : 0 < m) (q : ℤ) : 0 < binary m q := by
  unfold binary
  positivity

theorem binary_zero (q : ℤ) : binary 0 q = 0 := by
  rw [binary, Nat.cast_zero, zero_mul]

theorem pos_of_binary_pos {m : ℕ} {q : ℤ} (h : 0 < binary m q) : 0 < m :=
  Nat.pos_of_ne_zero fun hzero => by
    rw [hzero, binary_zero] at h
    exact lt_irrefl 0 h

theorem binary_le_binary {m m' : ℕ} {q : ℤ} : binary m q ≤ binary m' q ↔ m ≤ m' := by
  unfold binary
  rw [mul_le_mul_iff_left₀ (by positivity), Nat.cast_le]

theorem cast_twoTo (n : ℕ) : (twoTo n : ℚ) = 2 ^ n :=
  Nat.cast_pow 2 n

theorem cast_tenTo (n : ℕ) : (tenTo n : ℚ) = 10 ^ n :=
  Nat.cast_pow 10 n

/-- Of two canonical numbers the one with the greater exponent is greater. -/
theorem Canonical.binary_lt {m m' : ℕ} {e e' : ℤ} (h : Canonical m e) (h' : Canonical m' e') (he : e < e') :
    binary m e < binary m' e' := by
  have hfull : 2 ^ 52 ≤ m' := by
    rcases h'.full with hfull | heq
    · exact hfull
    · have := h.ge
      omega
  calc binary m e
      < 2 ^ 53 * 2 ^ e := by
        unfold binary
        have hm : (m : ℚ) < 2 ^ 53 := mod_cast h.lt
        gcongr
    _ = 2 ^ 52 * 2 ^ (e + 1) := by rw [zpow_add₀ two_ne_zero]; ring
    _ ≤ 2 ^ 52 * 2 ^ e' := by
        have he' : (2 : ℚ) ^ (e + 1) ≤ 2 ^ e' := zpow_le_zpow_right₀ one_le_two (by omega)
        gcongr
    _ ≤ binary m' e' := by
        unfold binary
        have hm : (2 ^ 52 : ℚ) ≤ m' := mod_cast hfull
        gcongr

/-- Canonical numbers are in the order of their parts. -/
theorem Canonical.le_iff {m m' : ℕ} {e e' : ℤ} (h : Canonical m e) (h' : Canonical m' e') :
    (e < e' ∨ e = e' ∧ m ≤ m') ↔ binary m e ≤ binary m' e' := by
  rcases lt_trichotomy e e' with he | rfl | he
  · exact iff_of_true (.inl he) (h.binary_lt h' he).le
  · simp [binary_le_binary]
  · refine iff_of_false (by omega) (h'.binary_lt h he).not_ge

theorem Canonical.eq_of_binary_eq {m m' : ℕ} {e e' : ℤ} (h : Canonical m e) (h' : Canonical m' e')
    (heq : binary m e = binary m' e') : m = m' ∧ e = e' := by
  have hle := (h.le_iff h').2 heq.le
  have hge := (h'.le_iff h).2 heq.ge
  omega

/-! ## The bits of a float -/

theorem toNat_unpackExponent (b : BitVec Format.binary64.numBits) :
    (unpackExponent b).toNat = b.toNat / hiddenBit % 0x800 := by
  unfold unpackExponent
  simp [BitVec.extractLsb, BitVec.extractLsb', Nat.shiftRight_eq_div_pow, hiddenBit]

theorem toNat_unpackMantissa (b : BitVec Format.binary64.numBits) :
    (unpackMantissa b).toNat = b.toNat % hiddenBit := by
  unfold unpackMantissa
  simp [BitVec.extractLsb, BitVec.extractLsb', hiddenBit]

/-- The sign is the first bit. -/
def isNegative : Sign → Bool
  | .negative => true
  | .positive => false

theorem isNegative_unpackSign (b : BitVec Format.binary64.numBits) :
    isNegative (Sign.ofBitVec (unpackSign b)) = (b.toNat / 0x8000000000000000 == 1) := by
  have hlt : b.toNat < 2 ^ 64 := b.isLt
  have hbit : (unpackSign b).toNat = b.toNat / 0x8000000000000000 := by
    unfold unpackSign
    simp only [BitVec.extractLsb, BitVec.extractLsb', BitVec.toNat_cast, BitVec.toNat_ofNat,
      Nat.shiftRight_eq_div_pow]
    change b.toNat / 9223372036854775808 % 2 = _
    omega
  rw [← hbit]
  obtain hzero | hone : unpackSign b = 0#1 ∨ unpackSign b = 1#1 := by
    generalize unpackSign b = s
    revert s
    decide
  · rw [hzero]
    rfl
  · rw [hone]
    rfl

/-- What is read off the bits are the parts of the float. -/
theorem ofFloat_eq (x : Float) : Exact.ofFloat x = match parts x with
    | .notANumber => .nan
    | .infinity s => .infinite (isNegative s)
    | .zero s => .finite (isNegative s) 0 (-1074)
    | .finite s m e _ => .finite (isNegative s) m e := by
  change Exact.ofFloat x = match UnpackedFloat.unpack Format.binary64 x.toModel.toBits.toBitVec with
    | .notANumber => .nan
    | .infinity s => .infinite (isNegative s)
    | .zero s => .finite (isNegative s) 0 (-1074)
    | .finite s m e _ => .finite (isNegative s) m e
  unfold Exact.ofFloat
  rw [show x.toBits.toNat = x.toModel.toBits.toBitVec.toNat from rfl]
  obtain ⟨b, hb⟩ : ∃ b : BitVec Format.binary64.numBits, x.toModel.toBits.toBitVec = b := ⟨_, rfl⟩
  rw [hb]
  have hsign := isNegative_unpackSign b
  have hexponent := toNat_unpackExponent b
  have hmantissa := toNat_unpackMantissa b
  have hones : b.toNat / hiddenBit % 0x800 = 2047 ↔ unpackExponent b = -1#11 := by
    rw [← hexponent, ← BitVec.toNat_inj]
    rfl
  have hzeros : b.toNat / hiddenBit % 0x800 = 0 ↔ unpackExponent b = 0#11 := by
    rw [← hexponent, ← BitVec.toNat_inj]
    rfl
  have hfraction : b.toNat % hiddenBit = 0 ↔
      unpackMantissa b = 0#52 := by
    rw [← hmantissa, ← BitVec.toNat_inj]
    rfl
  simp only [hones, hzeros, hfraction, ← hsign]
  unfold UnpackedFloat.unpack
  dsimp only
  by_cases h1 : unpackExponent b = -1#11
  · rw [if_pos h1, if_pos h1]
    by_cases h2 : unpackMantissa b = 0#52
    · rw [if_pos h2, if_pos h2]
    · rw [if_neg h2, if_neg h2]
  rw [if_neg h1, if_neg h1]
  by_cases h2 : unpackExponent b = 0#11
  · rw [if_pos h2, if_pos h2]
    by_cases h3 : unpackMantissa b = 0#52
    · rw [dif_pos h3, hfraction.2 h3]
    · rw [dif_neg h3, ← hmantissa, h2]
      rfl
  · rw [if_neg h2, if_neg h2, ← hmantissa, ← hexponent]
    dsimp only
    rw [toNat_implicit_append]
    rfl

/-! ## Finite floats that are not negative -/

/-- A finite float that is not negative, with its mantissa and its exponent. -/
inductive Holds (x : Float) : ℕ → ℤ → Prop
  | zero {s} : parts x = .zero s → Holds x 0 (-1074)
  | finite {m q h} : parts x = .finite .positive m q h → Holds x m q

variable {x y : Float} {m m' : ℕ} {q q' : ℤ}

theorem holds_or_infinity (h : 0 ≤ x) : (∃ m q, Holds x m q) ∨ parts x = .infinity .positive := by
  have hnot : NotNegative (parts x) := zero_le_iff.1 h
  generalize hu : parts x = u at hnot
  cases hnot with
  | zero s => exact .inl ⟨_, _, .zero hu⟩
  | finite m e hm => exact .inl ⟨_, _, .finite hu⟩
  | infinity => exact .inr rfl

theorem exists_holds (h : 0 ≤ x) (hfinite : x.isFinite = true) : ∃ m q, Holds x m q := by
  refine (holds_or_infinity h).resolve_right fun hx => ?_
  change (parts x).isFinite = true at hfinite
  rw [hx] at hfinite
  cases hfinite

theorem Holds.zero_le (h : Holds x m q) : 0 ≤ x := by
  rw [zero_le_iff]
  cases h with
  | zero hx => exact hx ▸ .zero _
  | finite hx => exact hx ▸ .finite _ _ _

theorem Holds.canonical (h : Holds x m q) : Canonical m q := by
  cases h with
  | zero => exact ⟨by decide, le_rfl, .inr rfl⟩
  | finite hx => exact canonical_of_unpack hx

/-- What is read off the bits of such a float. Only a zero can have the sign set. -/
theorem Holds.exact (h : Holds x m q) :
    ∃ negative, Exact.ofFloat x = .finite negative m q ∧ (negative = true → m = 0) := by
  rw [ofFloat_eq]
  cases h with
  | zero hx => exact ⟨_, by rw [hx], fun _ => rfl⟩
  | finite hx => exact ⟨false, by rw [hx]; rfl, nofun⟩

theorem Holds.exponent_le (h : Holds x m q) : q ≤ 971 := by
  obtain ⟨negative, hx, -⟩ := h.exact
  unfold Exact.ofFloat at hx
  dsimp only at hx
  split at hx
  · split at hx <;> cases hx
  · split at hx <;> cases hx <;> omega

/-- The number that a float stands for; zero if it stands for none. -/
def value (x : Float) : ℚ :=
  match Exact.ofFloat x with
  | .finite negative m q => if negative then -binary m q else binary m q
  | _ => 0

theorem Holds.value_eq (h : Holds x m q) : value x = binary m q := by
  obtain ⟨negative, hx, hzero⟩ := h.exact
  unfold value
  rw [hx]
  cases negative with
  | false => rfl
  | true =>
      rw [hzero rfl]
      simp [binary_zero]

/-- Floats that are not negative are in the order of their values. -/
theorem Holds.le_iff (hx : Holds x m q) (hy : Holds y m' q') : x ≤ y ↔ value x ≤ value y := by
  rw [hx.value_eq, hy.value_eq, le_iff_parts]
  have hc := hx.canonical
  have hc' := hy.canonical
  cases hx with
  | zero hx =>
      rw [hx, binary_zero]
      cases hy with
      | zero hy => rw [hy, binary_zero]; exact iff_of_true rfl le_rfl
      | finite hy => rw [hy]; exact iff_of_true rfl (binary_nonneg _ _)
  | @finite m q h hx =>
      rw [hx]
      cases hy with
      | zero hy =>
          rw [hy, binary_zero]
          exact iff_of_false nofun (binary_pos h q).not_ge
      | finite hy =>
          rw [hy, ← hc.le_iff hc']
          exact isLE_then_iff q q' m m'

theorem Holds.le_infinity (hx : Holds x m q) (hy : parts y = .infinity .positive) : x ≤ y := by
  rw [le_iff_parts, hy]
  cases hx with
  | zero hx => rw [hx]; rfl
  | finite hx => rw [hx]; rfl

theorem Holds.not_infinity_le (hy : Holds y m q) (hx : parts x = .infinity .positive) : ¬ x ≤ y := by
  rw [le_iff_parts, hx]
  cases hy with
  | zero hy => rw [hy]; exact nofun
  | finite hy => rw [hy]; exact nofun

end StoryMix.Numeral
