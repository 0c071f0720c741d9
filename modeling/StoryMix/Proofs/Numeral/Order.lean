import Mathlib.Data.Prod.Lex
import StoryMix.Numeral.Exact

/-!
# The order of floats

Two floats are compared by their parts: the sign first, then the exponent, then the mantissa. `rank`
writes these down as whole numbers in lexicographic order, and `le_iff_rank` reads the comparison off
them, so that what is known of a linear order holds of the comparison too. Not a number has no rank
and is comparable with nothing.

The floats that are not negative are named by `zero_le_iff`, and `zero_le_atLeastZero` says when
the greater of a number and zero is one of them: unless it is not a number.
-/

namespace StoryMix.Numeral

open Float.Model

/-- The parts of a float: a zero, a finite number, an infinity or not a number. -/
abbrev parts (x : Float) : UnpackedFloat :=
  x.toModel.unpack

/-! ## Ranks -/

/-- Sign, exponent and mantissa as whole numbers, ordered as the floats are. -/
def rank : UnpackedFloat → Option (ℤ ×ₗ ℤ ×ₗ ℤ)
  | .notANumber => none
  | .infinity .negative => some (toLex (-2, toLex (0, 0)))
  | .finite .negative m e _ => some (toLex (-1, toLex (-e, -(m : ℤ))))
  | .zero _ => some (toLex (0, toLex (0, 0)))
  | .finite .positive m e _ => some (toLex (1, toLex (e, (m : ℤ))))
  | .infinity .positive => some (toLex (2, toLex (0, 0)))

theorem isLE_then_iff (e e' : ℤ) (m m' : ℕ) :
    ((compare e e').then (compare m m')).isLE = true ↔ e < e' ∨ e = e' ∧ m ≤ m' := by
  rcases Int.lt_trichotomy e e' with h | h | h
  · simp [Int.compare_eq_lt.2 h, h]
  · subst h
    simp [Nat.isLE_compare]
  · simp [Int.compare_eq_gt.2 h, Int.lt_asymm h, Int.ne_of_gt h]

theorem unpacked_le_iff_rank (a b : UnpackedFloat) :
    a.le b = true ↔ ∃ p q, rank a = some p ∧ rank b = some q ∧ p ≤ q := by
  rcases a with (_ | _) | _ | _ | ⟨_ | _, m, e, _⟩ <;>
    rcases b with (_ | _) | _ | _ | ⟨_ | _, m', e', _⟩
  -- Only two finite numbers of one sign are told apart by more than their signs.
  case finite.negative.finite.negative =>
    have h := isLE_then_iff e' e m' m
    rw [← Int.compare_swap e e', ← Nat.compare_swap m m', ← Ordering.swap_then] at h
    rw [eq_comm (a := e')] at h
    dsimp only [rank, UnpackedFloat.le, UnpackedFloat.compare]
    simpa [Prod.Lex.toLex_le_toLex] using h
  case finite.positive.finite.positive =>
    have h := isLE_then_iff e e' m m'
    dsimp only [rank, UnpackedFloat.le, UnpackedFloat.compare]
    simpa [Prod.Lex.toLex_le_toLex] using h
  all_goals
    dsimp only [rank, UnpackedFloat.le, UnpackedFloat.compare]
    simp [Prod.Lex.toLex_le_toLex, compare]

theorem le_iff_parts {x y : Float} : x ≤ y ↔ (parts x).le (parts y) = true := by
  change decide ((parts x).le (parts y) = true) = true ↔ _
  exact decide_eq_true_iff

theorem lt_iff_parts {x y : Float} : x < y ↔ (parts x).lt (parts y) = true := by
  change decide ((parts x).lt (parts y) = true) = true ↔ _
  exact decide_eq_true_iff

theorem isNaN_iff_parts {x : Float} : x.isNaN = true ↔ parts x = .notANumber := by
  change (parts x).isNaN = true ↔ _
  cases parts x with
  | notANumber => exact iff_of_true rfl rfl
  | infinity | zero | finite => exact iff_of_false nofun nofun

theorem parts_ne_of_not_isNaN {x : Float} (h : x.isNaN = false) : parts x ≠ .notANumber := by
  intro hx
  rw [isNaN_iff_parts.2 hx] at h
  cases h

theorem le_iff_rank {x y : Float} :
    x ≤ y ↔ ∃ p q, rank (parts x) = some p ∧ rank (parts y) = some q ∧ p ≤ q :=
  le_iff_parts.trans (unpacked_le_iff_rank _ _)

theorem le_trans {x y z : Float} (hxy : x ≤ y) (hyz : y ≤ z) : x ≤ z := by
  obtain ⟨p, q, hp, hq, hpq⟩ := le_iff_rank.1 hxy
  obtain ⟨q', r, hq', hr, hqr⟩ := le_iff_rank.1 hyz
  obtain rfl : q = q' := Option.some.inj (hq.symm.trans hq')
  exact le_iff_rank.2 ⟨p, r, hp, hr, Trans.trans hpq hqr⟩

/-! ## Zero and above -/

theorem parts_zero : parts 0 = .zero .positive := rfl

/-- What is not below zero: the zeros, the positive finite numbers and positive infinity. -/
inductive NotNegative : UnpackedFloat → Prop
  | zero (s) : NotNegative (.zero s)
  | finite (m e h) : NotNegative (.finite .positive m e h)
  | infinity : NotNegative (.infinity .positive)

theorem zero_le_iff {x : Float} : 0 ≤ x ↔ NotNegative (parts x) := by
  rw [le_iff_parts, parts_zero]
  generalize parts x = u
  constructor
  · intro h
    rcases u with (_ | _) | _ | _ | ⟨_ | _, m, e, hm⟩
    case infinity.negative | notANumber | finite.negative => cases h
    · exact .infinity
    · exact .zero _
    · exact .finite _ _ _
  · intro h
    cases h <;> rfl

theorem zero_le_of_not_lt {x : Float} (hn : x.isNaN = false) (h : ¬ x < 0) : 0 ≤ x := by
  have hx := parts_ne_of_not_isNaN hn
  rw [lt_iff_parts, parts_zero] at h
  rw [zero_le_iff]
  generalize parts x = u at h hx
  rcases u with (_ | _) | _ | _ | ⟨_ | _, m, e, hm⟩
  case infinity.negative | finite.negative => exact absurd rfl h
  case notANumber => exact absurd rfl hx
  · exact .infinity
  · exact .zero _
  · exact .finite _ _ _

theorem zero_le_of_lt {x : Float} (h : 0 < x) : 0 ≤ x := by
  rw [lt_iff_parts, parts_zero] at h
  rw [zero_le_iff]
  generalize parts x = u at h
  rcases u with (_ | _) | _ | _ | ⟨_ | _, m, e, hm⟩
  case infinity.negative | notANumber | finite.negative => cases h
  · exact .infinity
  · exact .zero _
  · exact .finite _ _ _

theorem le_refl_of_zero_le {x : Float} (h : 0 ≤ x) : x ≤ x := by
  obtain ⟨_, q, _, hq, _⟩ := le_iff_rank.1 h
  exact le_iff_rank.2 ⟨q, q, hq, hq, le_refl q⟩

theorem not_isNaN_of_zero_le {x : Float} (h : 0 ≤ x) : x.isNaN = false := by
  rw [Bool.eq_false_iff]
  intro hn
  have hx := zero_le_iff.1 h
  rw [isNaN_iff_parts.1 hn] at hx
  cases hx

theorem not_lt_of_zero_le {x : Float} (h : 0 ≤ x) : ¬ x < 0 := by
  have hx := zero_le_iff.1 h
  rw [lt_iff_parts, parts_zero]
  generalize parts x = u at hx
  cases hx with
  | zero s => cases s <;> decide
  | finite | infinity => exact nofun

theorem not_isNaN_of_isFinite {x : Float} (h : x.isFinite = true) : x.isNaN = false := by
  rw [Bool.eq_false_iff]
  intro hn
  change (parts x).isFinite = true at h
  rw [isNaN_iff_parts.1 hn] at h
  cases h

/-- The greater of a number and zero is not negative, and it is not a number just when the number
was none. -/
theorem zero_le_atLeastZero {x : Float} : 0 ≤ atLeastZero x ↔ x.isNaN = false := by
  unfold atLeastZero
  cases hn : x.isNaN with
  | true =>
      simp only [if_true, Bool.true_eq_false, iff_false]
      intro h
      rw [not_isNaN_of_zero_le h] at hn
      cases hn
  | false =>
      simp only [Bool.false_eq_true, if_false, iff_true]
      split
      · exact zero_le_of_lt ‹_›
      · exact zero_le_iff.2 (.zero .positive)

end StoryMix.Numeral
