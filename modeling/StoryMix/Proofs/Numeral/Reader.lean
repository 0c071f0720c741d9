import StoryMix.Numeral.Reader
import StoryMix.Proofs.Numeral.Sum

/-!
# Numerals stand for numbers

A numeral that is taken is never read as something that is not a number (`readDecimal_not_isNaN`),
though one that is out of range is read as an infinity.
-/

namespace StoryMix.Numeral

open Float.Model Float.Model.UnpackedFloat

/-! ## Products, quotients and the power of ten they are taken with -/

/-- The float of these parts. -/
abbrev packed (u : UnpackedFloat) : Float :=
  .ofModel (.pack u)

theorem packed_not_isNaN {u : UnpackedFloat} (h : u ≠ .notANumber) : (packed u).isNaN = false := by
  rw [Bool.eq_false_iff, Ne, isNaN_iff_parts]
  exact fun hu => h (unpack_pack_eq_notANumber.1 hu)

/-- A finite number other than zero. -/
def isFinitePart : UnpackedFloat → Bool
  | .finite .. => true
  | _ => false

theorem mul_ne_notANumber {u v : UnpackedFloat} (hu : u ≠ .notANumber)
    (hv : isFinitePart v = true) : UnpackedFloat.mul Format.binary64 u v ≠ .notANumber := by
  rcases v with _ | _ | _ | ⟨s, m, e, h⟩
  case finite =>
    cases u with
    | notANumber => exact absurd rfl hu
    | finite s' m' e' h' => exact roundWithAccuracy_ne_notANumber _ _ _ _
    | _ => exact nofun
  all_goals cases hv

theorem div_ne_notANumber {u v : UnpackedFloat} (hu : u ≠ .notANumber)
    (hv : isFinitePart v = true) : UnpackedFloat.div Format.binary64 u v ≠ .notANumber := by
  rcases v with _ | _ | _ | ⟨s, m, e, h⟩
  case finite =>
    cases u with
    | notANumber => exact absurd rfl hu
    | finite s' m' e' h' => exact roundWithAccuracy_ne_notANumber _ _ _ _
    | _ => exact nofun
  all_goals cases hv

theorem parts_toFloat_ne_notANumber (n : UInt64) : parts n.toFloat ≠ .notANumber :=
  fun h => normalize_ne_notANumber _ _ _ (unpack_pack_eq_notANumber.1 h)

theorem isFinitePart_powerOfTen {e : ℕ} (h : e < Float.exactlyRepresentablePowersOfTen.size) :
    isFinitePart (parts Float.exactlyRepresentablePowersOfTen[e]) = true := by
  have hall : Float.exactlyRepresentablePowersOfTen.toList.all (fun p => isFinitePart (parts p))
      = true := by decide
  exact List.all_eq_true.1 hall _ (Array.getElem_mem_toList h)

/-! ## Decimal numerals -/

theorem ite_ne {α : Type} {p : Prop} [Decidable p] {a b c : α} (ha : a ≠ c) (hb : b ≠ c) :
    (if p then a else b) ≠ c := by
  by_cases hp : p
  · rw [if_pos hp]
    exact ha
  · rw [if_neg hp]
    exact hb

theorem ofScientific_ne_notANumber (m : ℕ) (e : ℤ) :
    UnpackedFloat.ofScientific Format.binary64 m e ≠ .notANumber := by
  unfold UnpackedFloat.ofScientific
  by_cases hm : m = 0
  · rw [dif_pos hm]
    exact nofun
  · rw [dif_neg hm]
    refine ite_ne nofun (ite_ne nofun (ite_ne ?_ ?_))
    · exact mul_ne_notANumber nofun rfl
    · exact div_ne_notANumber nofun rfl

theorem nearest_not_isNaN (digits : ℕ) (exponent : ℤ) : (nearest digits exponent).isNaN = false := by
  unfold nearest Float.ofScientific
  split
  · rename_i h
    -- A short numeral is one product or quotient of two floats that are exact.
    split
    · exact packed_not_isNaN
        (div_ne_notANumber (parts_toFloat_ne_notANumber _) (isFinitePart_powerOfTen _))
    · exact packed_not_isNaN
        (mul_ne_notANumber (parts_toFloat_ne_notANumber _) (isFinitePart_powerOfTen _))
  · exact packed_not_isNaN (ofScientific_ne_notANumber _ _)

theorem signed_not_isNaN {negative : Bool} {x : Float} (h : x.isNaN = false) :
    (signed negative x).isNaN = false := by
  have hx := parts_ne_of_not_isNaN h
  unfold signed
  split
  · refine packed_not_isNaN (u := (parts x).neg) ?_
    generalize parts x = u at hx
    cases u with
    | notANumber => exact absurd rfl hx
    | _ => exact nofun
  · exact h

theorem readUnsigned_not_isNaN {cs : List Char} {x : Float} (h : readUnsigned cs = some x) :
    x.isNaN = false := by
  unfold readUnsigned at h
  generalize takeMantissa cs = mantissa at h
  obtain ⟨whole, places, rest⟩ := mantissa
  simp only at h
  split at h
  · exact nomatch h
  · obtain ⟨e, -, rfl⟩ := Option.map_eq_some_iff.1 h
    exact nearest_not_isNaN _ _

/-- What is read off a numeral is a number or an infinity. -/
theorem readDecimal_not_isNaN {cs : List Char} {x : Float} (h : readDecimal cs = some x) :
    x.isNaN = false := by
  unfold readDecimal at h
  obtain ⟨y, hy, rfl⟩ := Option.map_eq_some_iff.1 h
  exact signed_not_isNaN (readUnsigned_not_isNaN hy)

end StoryMix.Numeral
