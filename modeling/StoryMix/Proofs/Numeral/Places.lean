import StoryMix.Numeral.Fixed
import StoryMix.Proofs.Numeral.Whole

/-!
# Fixed places and the zeros at their end

A number with fixed places writes the nearest number of that many places (`written_pointed`). Cutting the
zeros off its end keeps that number (`written_withoutTrailingZeros`). Where the text has an exponent
instead, what is cut off are the zeros of the exponent, and only a text without any keeps its number
(`withoutTrailingZeros_scientific`).
-/

namespace StoryMix.Numeral

/-- No zero at the end after a point, and no point at the end. -/
def Tidy (cs : List Char) : Prop :=
  cs.getLast? ≠ some '.' ∧ ('.' ∈ cs → cs.getLast? ≠ some '0')

/-! ## Cutting zeros off -/

theorem dropTrailingZeros_append_cons {c : Char} (hc : c ≠ '0') (xs ys : List Char) :
    dropTrailingZeros (xs ++ c :: ys) = xs ++ c :: dropTrailingZeros ys := by
  induction ys using List.reverseRecOn with
  | nil =>
      rw [dropTrailingZeros_concat, if_neg hc]
      rfl
  | append_singleton ys d ih =>
      rw [← List.cons_append, ← List.append_assoc, dropTrailingZeros_concat, dropTrailingZeros_concat, ih]
      split <;> simp

theorem getLast?_dropTrailingZeros (cs : List Char) : (dropTrailingZeros cs).getLast? ≠ some '0' := by
  induction cs using List.reverseRecOn with
  | nil => exact nofun
  | append_singleton cs c ih =>
      rw [dropTrailingZeros_concat]
      split
      · exact ih
      · rename_i hc
        rw [List.getLast?_concat]
        exact fun h => hc (Option.some.inj h)

theorem point_not_digit : isDigit '.' = false := by
  decide

theorem Digits.point_notMem {cs : List Char} (h : Digits cs) : '.' ∉ cs := by
  intro hmem
  have hpoint := h '.' hmem
  rw [point_not_digit] at hpoint
  cases hpoint

theorem Digits.getLast?_ne {cs : List Char} (h : Digits cs) : cs.getLast? ≠ some '.' :=
  fun hlast => h.point_notMem (List.mem_of_getLast? hlast)

theorem digits_dropTrailingZeros {cs : List Char} (h : Digits cs) : Digits (dropTrailingZeros cs) :=
  h.subset (dropTrailingZeros_subset cs)

/-- Nothing is cut off just if there is no zero at the end. -/
theorem dropTrailingZeros_eq_self_iff {cs : List Char} :
    dropTrailingZeros cs = cs ↔ cs.getLast? ≠ some '0' := by
  constructor
  · intro h
    rw [← h]
    exact getLast?_dropTrailingZeros cs
  · intro h
    induction cs using List.reverseRecOn with
    | nil => rfl
    | append_singleton cs c ih =>
        rw [List.getLast?_concat] at h
        rw [dropTrailingZeros_concat, if_neg fun hc => h (congrArg some hc)]

theorem withoutTrailingZeros_eq (cs : List Char) :
    withoutTrailingZeros cs = if dropTrailingZeros cs = cs then cs
      else if (dropTrailingZeros cs).getLast? = some '.' then (dropTrailingZeros cs).dropLast
      else dropTrailingZeros cs := by
  have hiff : (dropTrailingZeros cs).length = cs.length ↔ dropTrailingZeros cs = cs := by
    constructor
    · intro h
      obtain ⟨k, hk⟩ := exists_dropTrailingZeros_append cs
      have hlength := length_dropTrailingZeros hk
      obtain rfl : k = 0 := by omega
      rwa [zeros, List.replicate_zero, List.append_nil] at hk
    · intro h
      rw [h]
  unfold withoutTrailingZeros
  simp only [hiff]

section

variable {whole places mantissa digits : List Char}

theorem getLast?_append_cons (hne : digits ≠ []) (xs : List Char) (c : Char) :
    (xs ++ c :: digits).getLast? = digits.getLast? := by
  rw [List.getLast?_append_of_ne_nil _ (List.cons_ne_nil c digits), List.getLast?_cons_of_ne_nil hne]

/-- The last character of a text with an exponent. -/
theorem getLast?_exponent (hne : digits ≠ []) (mantissa : List Char) :
    (mantissa ++ 'e' :: '+' :: digits).getLast? = digits.getLast? := by
  rw [getLast?_append_cons (List.cons_ne_nil _ _), List.getLast?_cons_of_ne_nil hne]

/-- What is left of digits with a point. -/
theorem withoutTrailingZeros_pointed (hne : places ≠ []) (h : Digits places) :
    withoutTrailingZeros (whole ++ '.' :: places)
      = if dropTrailingZeros places = [] then whole else whole ++ '.' :: dropTrailingZeros places := by
  have hdrop := dropTrailingZeros_append_cons (c := '.') (by decide) whole places
  rw [withoutTrailingZeros_eq, hdrop]
  by_cases hnil : dropTrailingZeros places = []
  · have hchange : whole ++ '.' :: dropTrailingZeros places ≠ whole ++ '.' :: places := by
      rw [hnil]
      intro heq
      exact hne (List.cons.inj (List.append_cancel_left heq)).2.symm
    rw [if_neg hchange, if_pos hnil, hnil, if_pos List.getLast?_concat]
    exact List.dropLast_concat
  · have hlast : (whole ++ '.' :: dropTrailingZeros places).getLast? ≠ some '.' := by
      rw [getLast?_append_cons hnil]
      exact (digits_dropTrailingZeros h).getLast?_ne
    rw [if_neg hlast, if_neg hnil]
    split
    · rename_i heq
      exact heq.symm
    · rfl

/-- What is left of a text with an exponent. -/
theorem withoutTrailingZeros_exponent (h : Digits digits) (hne : dropTrailingZeros digits ≠ []) :
    withoutTrailingZeros (mantissa ++ 'e' :: '+' :: digits)
      = mantissa ++ 'e' :: '+' :: dropTrailingZeros digits := by
  have hdrop := dropTrailingZeros_append_cons (c := '+') (by decide) (mantissa ++ ['e']) digits
  rw [List.append_assoc, List.append_assoc] at hdrop
  change dropTrailingZeros (mantissa ++ 'e' :: '+' :: digits) = mantissa ++ 'e' :: '+' :: _ at hdrop
  have hlast : (mantissa ++ 'e' :: '+' :: dropTrailingZeros digits).getLast? ≠ some '.' := by
    rw [getLast?_exponent hne]
    exact (digits_dropTrailingZeros h).getLast?_ne
  rw [withoutTrailingZeros_eq, hdrop, if_neg hlast]
  split
  · rename_i heq
    exact heq.symm
  · rfl

/-! ## What is written -/

theorem tidy_of_getLast? {cs : List Char} (hlast : cs.getLast? = digits.getLast?) (h : Digits digits)
    (hzero : digits.getLast? ≠ some '0') : Tidy cs := by
  unfold Tidy
  rw [hlast]
  exact ⟨h.getLast?_ne, fun _ => hzero⟩

theorem scientific_append_zeros (digits : List Char) (places : ℕ) (e : ℤ) (k : ℕ) :
    scientific (digits ++ zeros k) (places + k) e = scientific digits places e := by
  rw [scientific, scientific, wholeValue_append_zeros, Nat.cast_mul, Nat.cast_pow, Nat.cast_add,
    ← sub_sub, zpow_sub₀ (by norm_num) (e - places), zpow_natCast]
  push_cast
  field_simp

theorem written_mantissa (h : Spelled whole places mantissa) :
    written mantissa = some (scientific (whole ++ places) places.length 0) := by
  have h := written_append h .none
  rwa [List.append_nil] at h

/-- Cutting zeros off places keeps the number, and leaves no point or zero at the end. -/
theorem written_withoutTrailingZeros (h : Spelled whole places (whole ++ '.' :: places)) (hne : places ≠ []) :
    written (withoutTrailingZeros (whole ++ '.' :: places)) = written (whole ++ '.' :: places)
      ∧ Tidy (withoutTrailingZeros (whole ++ '.' :: places)) := by
  have hkept := digits_dropTrailingZeros h.places_digits
  have hlast := getLast?_dropTrailingZeros places
  have hvalue : scientific (whole ++ places) places.length 0
      = scientific (whole ++ dropTrailingZeros places) (dropTrailingZeros places).length 0 := by
    obtain ⟨k, hk⟩ := exists_dropTrailingZeros_append places
    have hlength := length_dropTrailingZeros hk
    rw [← scientific_append_zeros _ (dropTrailingZeros places).length _ k, List.append_assoc, hk, hlength]
  rw [withoutTrailingZeros_pointed hne h.places_digits, written_mantissa h, hvalue]
  generalize dropTrailingZeros places = kept at hkept hlast
  split
  · rename_i hnil
    subst hnil
    rw [written_of_digits h.whole_digits h.whole_ne, List.append_nil]
    exact ⟨by simp [scientific], h.whole_digits.getLast?_ne,
      fun hpoint => absurd hpoint h.whole_digits.point_notMem⟩
  · rename_i hkeptne
    exact ⟨written_mantissa ⟨h.whole_digits, hkept, h.whole_ne, .pointed⟩,
      tidy_of_getLast? (getLast?_append_cons hkeptne _ _) hkept hlast⟩

theorem scientific_inj {ds : List Char} {p : ℕ} {e e' : ℤ} (hpos : 0 < scientific ds p e) :
    scientific ds p e' = scientific ds p e ↔ e' = e := by
  constructor
  · intro h
    have hne : (wholeValue 10 ds : ℚ) ≠ 0 := left_ne_zero_of_mul hpos.ne'
    have hpow : (10 : ℚ) ^ (e' - p) = 10 ^ (e - p) := mul_left_cancel₀ hne h
    have := zpow_right_injective₀ (by norm_num) (by norm_num) hpow
    omega
  · rintro rfl
    rfl

/-- Cutting zeros off an exponent leaves no point or zero at the end either, but it keeps the number only
if there is no zero to cut off. -/
theorem written_withoutTrailingZeros_exponent {n : ℕ} (h : Spelled whole places mantissa) (hn : 0 < n)
    (hpos : 0 < scientific (whole ++ places) places.length n) :
    Tidy (withoutTrailingZeros (mantissa ++ 'e' :: '+' :: digitsOf n))
      ∧ ∃ r r', written (mantissa ++ 'e' :: '+' :: digitsOf n) = some r
        ∧ written (withoutTrailingZeros (mantissa ++ 'e' :: '+' :: digitsOf n)) = some r'
        ∧ (r' = r ↔ (digitsOf n).getLast? ≠ some '0') := by
  obtain ⟨k, hk, hkeptne, hvalue⟩ := dropTrailingZeros_digitsOf hn
  have hdigits := digits_digitsOf n
  have hkept := digits_dropTrailingZeros hdigits
  have hwritten := written_scientific h (digitsOf_ne_nil n) hdigits
  rw [wholeValue_digitsOf] at hwritten
  rw [withoutTrailingZeros_exponent hdigits hkeptne]
  refine ⟨?_, _, _, hwritten, written_scientific h hkeptne hkept, ?_⟩
  · exact tidy_of_getLast? (getLast?_exponent hkeptne _) hkept (getLast?_dropTrailingZeros _)
  · rw [scientific_inj hpos, ← dropTrailingZeros_eq_self_iff]
    constructor
    · intro heq
      have heq' : wholeValue 10 (dropTrailingZeros (digitsOf n)) = n := by exact_mod_cast heq
      -- Each zero that is cut off makes the exponent ten times less.
      rw [heq'] at hvalue
      have hone : 10 ^ k = 1 := Nat.eq_of_mul_eq_mul_left hn (hvalue.trans (Nat.mul_one n).symm)
      obtain rfl : k = 0 := by
        by_contra hk0
        exact (Nat.one_lt_pow hk0 (by decide)).ne' hone
      rwa [zeros, List.replicate_zero, List.append_nil] at hk
    · intro heq
      rw [heq, wholeValue_digitsOf]

end

/-! ## Numbers with fixed places -/

variable {x : Float} {m : ℕ} {q : ℤ}

/-- The digits of a whole number with a point in them. -/
theorem pointed_eq (places n : ℕ) :
    ∃ whole frac, pointed places n = whole ++ '.' :: frac ∧ Spelled whole frac (whole ++ '.' :: frac)
      ∧ frac.length = places ∧ wholeValue 10 (whole ++ frac) = n := by
  have hpadded : Digits (zeros (places + 1 - (digitsOf n).length) ++ digitsOf n) :=
    digits_append (digits_zeros _) (digits_digitsOf n)
  have hlength : places < (zeros (places + 1 - (digitsOf n).length) ++ digitsOf n).length := by
    rw [List.length_append, zeros, List.length_replicate]
    omega
  refine ⟨_, _, rfl, ⟨hpadded.subset (List.take_subset _ _), hpadded.subset (List.drop_subset _ _), ?_,
    .pointed⟩, ?_, ?_⟩
  · rw [← List.length_pos_iff, List.length_take]
    omega
  · rw [List.length_drop]
    omega
  · rw [List.take_append_drop, wholeValue_zeros_append, wholeValue_digitsOf]

theorem written_pointed (places n : ℕ) : written (pointed places n) = some (n / 10 ^ places : ℚ) := by
  obtain ⟨whole, frac, heq, hspelled, hlength, hvalue⟩ := pointed_eq places n
  rw [heq, written_mantissa hspelled, scientific, hvalue, hlength, zero_sub, zpow_neg,
    zpow_natCast]
  rfl

theorem scaled_eq (places m : ℕ) (q : ℤ) :
    scaled places m q = ⌊binary m q * 10 ^ places + 1 / 2⌋₊ := by
  have hden := denominator_pos q
  rw [scaled, ← floor_half (by exact_mod_cast hden), Nat.cast_mul, cast_numerator, cast_tenTo]
  congr 2
  field_simp

/-- What is written is within half a unit of the last place. -/
theorem abs_scaled_sub_le (places m : ℕ) (q : ℤ) :
    |(scaled places m q / 10 ^ places : ℚ) - binary m q| ≤ 1 / 2 / 10 ^ places := by
  have hpow : (0 : ℚ) < 10 ^ places := by positivity
  have hnonneg := binary_nonneg m q
  have hle : (scaled places m q : ℚ) ≤ binary m q * 10 ^ places + 1 / 2 := by
    rw [scaled_eq]
    exact Nat.floor_le (by positivity)
  have hlt : binary m q * 10 ^ places + 1 / 2 < scaled places m q + 1 := by
    rw [scaled_eq]
    exact Nat.lt_floor_add_one _
  rw [div_sub' hpow.ne', abs_div, abs_of_pos hpow, div_le_div_iff_of_pos_right hpow, abs_le]
  constructor <;> linarith

theorem Holds.fixed_eq (hx : Holds x m q) (places : ℕ) :
    fixed places x = if 10 ^ 21 ≤ binary m q then text x
      else String.ofList (pointed places (scaled places m q)) := by
  obtain ⟨negative, hexact, hzero⟩ := hx.exact
  have hsign : signText (negative && m != 0) = "" := by
    cases negative with
    | false => rfl
    | true => rw [hzero rfl]; rfl
  have hlimit : tenTo 21 * denominator q ≤ numerator m q ↔ 10 ^ 21 ≤ binary m q := by
    rw [← mul_le_mul_iff_left₀ (denominator_pos q), ← cast_numerator, ← cast_tenTo, ← Nat.cast_mul,
      Nat.cast_le]
  unfold fixed
  rw [hexact]
  simp only [hlimit, hsign, String.empty_append]

end StoryMix.Numeral
