import Mathlib.Data.List.DropRight
import StoryMix.Proofs.Numeral.Notation
import StoryMix.Proofs.Numeral.Shortest
import StoryMix.Proofs.Numeral.Text

/-!
# The number that a text writes

A numeral without a sign writes one number exactly (`written`), of which the reader takes the nearest
float. A decimal below `10 ^ 21` that is a whole number is written with its digits only
(`text_of_whole`); from `10 ^ 21` on it is written with an exponent (`large_text`), and either text writes
the decimal itself.
-/

namespace StoryMix.Numeral

/-! ## Digits -/

theorem digits_digitsOf (n : ℕ) : Digits (digitsOf n) :=
  fun _ hc => Nat.isDigit_of_mem_toDigits (by decide) (by decide) hc

theorem digitsOf_ne_nil (n : ℕ) : digitsOf n ≠ [] :=
  Nat.toDigits_ne_nil

theorem digits_zeros (n : ℕ) : Digits (zeros n) := by
  intro c hc
  rw [List.eq_of_mem_replicate hc]
  decide

theorem Digits.subset {xs ys : List Char} (h : Digits ys) (hsub : xs ⊆ ys) : Digits xs :=
  fun c hc => h c (hsub hc)

theorem digits_append {xs ys : List Char} (hx : Digits xs) (hy : Digits ys) : Digits (xs ++ ys) := by
  intro c hc
  exact (List.mem_append.1 hc).elim (hx c) (hy c)

theorem wholeValue_eq {cs : List Char} (h : Digits cs) : wholeValue 10 cs = Nat.ofDigitChars 10 cs 0 := by
  rw [Nat.ofDigitChars_eq_foldl]
  refine List.foldl_ext _ _ _ fun n c hc => ?_
  rw [digitValue, if_pos (h c hc), mul_comm]

theorem wholeValue_digitsOf (n : ℕ) : wholeValue 10 (digitsOf n) = n := by
  rw [wholeValue_eq (digits_digitsOf n)]
  exact Nat.ofDigitChars_ten_toDigits

theorem wholeValue_zeros_append (k : ℕ) (cs : List Char) :
    wholeValue 10 (zeros k ++ cs) = wholeValue 10 cs := by
  induction k with
  | zero => rfl
  | succ k ih => exact ih

theorem wholeValue_append_zeros (cs : List Char) (k : ℕ) :
    wholeValue 10 (cs ++ zeros k) = wholeValue 10 cs * 10 ^ k := by
  induction k with
  | zero => simp [zeros]
  | succ k ih =>
      rw [zeros, List.replicate_succ', ← List.append_assoc, wholeValue, List.foldl_concat]
      change wholeValue 10 (cs ++ zeros k) * 10 + 0 = _
      rw [ih, pow_succ]
      ring

/-- A power of ten puts zeros behind. -/
theorem digitsOf_mul_tenTo {d : ℕ} (hd : 0 < d) (k : ℕ) : digitsOf (d * 10 ^ k) = digitsOf d ++ zeros k := by
  induction k with
  | zero => simp [zeros]
  | succ k ih =>
      have hpos : 0 < d * 10 ^ k := by positivity
      have happend := Nat.toDigits_append_toDigits (b := 10) (d := 0) (by decide) hpos (by decide)
      rw [zeros, List.replicate_succ', ← List.append_assoc, ← zeros, ← ih, pow_succ, ← mul_assoc,
        mul_comm _ 10]
      exact happend.symm

theorem lt_pow_length (d : ℕ) : d < 10 ^ (digitsOf d).length :=
  (Nat.length_toDigits_le_iff (by decide) Nat.length_toDigits_pos).1 le_rfl

theorem pow_length_le {d : ℕ} (hd : 0 < d) : 10 ^ ((digitsOf d).length - 1) ≤ d := by
  rcases Nat.eq_zero_or_pos ((digitsOf d).length - 1) with hlen | hlen
  · rw [hlen]
    exact hd
  · have h := (Nat.length_toDigits_le_iff (b := 10) (n := d) (by decide) hlen).not
    have hlt : ¬ (Nat.toDigits 10 d).length ≤ (digitsOf d).length - 1 := by
      change ¬ (digitsOf d).length ≤ _
      omega
    exact not_lt.1 (h.1 hlt)

/-! ## Zeros at the end -/

theorem dropTrailingZeros_concat (cs : List Char) (c : Char) :
    dropTrailingZeros (cs ++ [c]) = if c = '0' then dropTrailingZeros cs else cs ++ [c] := by
  change (cs ++ [c]).rdropWhile (· == '0') = _
  rw [List.rdropWhile_concat]
  simp only [beq_iff_eq]
  rfl

theorem exists_dropTrailingZeros_append (cs : List Char) : ∃ k, dropTrailingZeros cs ++ zeros k = cs := by
  induction cs using List.reverseRecOn with
  | nil => exact ⟨0, rfl⟩
  | append_singleton cs c ih =>
      rw [dropTrailingZeros_concat]
      by_cases hc : c = '0'
      · obtain ⟨k, hk⟩ := ih
        refine ⟨k + 1, ?_⟩
        rw [if_pos hc, zeros, List.replicate_succ', ← List.append_assoc, ← zeros, hk, hc]
      · exact ⟨0, by rw [if_neg hc]; exact List.append_nil _⟩

theorem length_dropTrailingZeros {cs : List Char} {k : ℕ} (h : dropTrailingZeros cs ++ zeros k = cs) :
    (dropTrailingZeros cs).length + k = cs.length := by
  have hlength := congrArg List.length h
  rwa [List.length_append, zeros, List.length_replicate] at hlength

/-- The digits without the zeros at their end, of which there are some left. -/
theorem dropTrailingZeros_digitsOf {d : ℕ} (hd : 0 < d) :
    ∃ k, dropTrailingZeros (digitsOf d) ++ zeros k = digitsOf d ∧ dropTrailingZeros (digitsOf d) ≠ []
      ∧ wholeValue 10 (dropTrailingZeros (digitsOf d)) * 10 ^ k = d := by
  obtain ⟨k, hk⟩ := exists_dropTrailingZeros_append (digitsOf d)
  have hvalue : wholeValue 10 (dropTrailingZeros (digitsOf d)) * 10 ^ k = d := by
    rw [← wholeValue_append_zeros, hk, wholeValue_digitsOf]
  refine ⟨k, hk, fun hnil => ?_, hvalue⟩
  rw [hnil] at hvalue
  change 0 * 10 ^ k = d at hvalue
  omega

/-! ## Decimals -/

/-- A whole number below `10 ^ 21` is written with its digits. -/
theorem text_of_whole {d t : ℕ} (hd : 0 < d) (h : d * 10 ^ t < 10 ^ 21) :
    (⟨d, t⟩ : Decimal).text = digitsOf (d * 10 ^ t) := by
  obtain ⟨k, hk, -, -⟩ := dropTrailingZeros_digitsOf hd
  have hlength := length_dropTrailingZeros hk
  have hpoint : (digitsOf d).length - 1 + t < 21 := by
    refine (Nat.pow_lt_pow_iff_right (a := 10) (by decide)).1 (lt_of_le_of_lt ?_ h)
    rw [pow_add]
    exact Nat.mul_le_mul_right _ (pow_length_le hd)
  unfold Decimal.text
  dsimp only
  have hcount : (((t : ℤ) + (digitsOf d).length).toNat - (dropTrailingZeros (digitsOf d)).length) = k + t := by
    omega
  rw [if_pos (by omega), digitsOf_mul_tenTo hd, hcount, zeros, ← List.replicate_append_replicate,
    ← List.append_assoc, ← zeros, hk, zeros]

/-! ## Numbers -/

/-- Digits before a point and behind it, and how they are written. -/
structure Spelled (whole places mantissa : List Char) : Prop where
  whole_digits : Digits whole
  places_digits : Digits places
  whole_ne : whole ≠ []
  mantissa : Mantissa whole places mantissa

/-- Digits with a point before the last `places` of them, times ten to the `e`. -/
def scientific (digits : List Char) (places : ℕ) (e : ℤ) : ℚ :=
  wholeValue 10 digits * 10 ^ (e - places)

/-- The number that a numeral without a sign stands for. -/
def written (cs : List Char) : Option ℚ :=
  let (whole, places, rest) := takeMantissa cs
  if whole = [] ∧ places = [] then none
  else (readExponent rest).map (scientific (whole ++ places) places.length)

section

variable {whole places mantissa exponent digits : List Char} {e : ℤ}

theorem written_append (h : Spelled whole places mantissa) (he : Exponent e exponent) :
    written (mantissa ++ exponent) = some (scientific (whole ++ places) places.length e) := by
  have htake := takeMantissa_append h.whole_digits h.places_digits h.mantissa (not_isDigit_head he)
  simp only [written, htake, readExponent_eq_some.2 he, Option.map_some]
  rw [if_neg fun hnone => h.whole_ne hnone.1]

theorem written_of_digits (hwhole : Digits whole) (hne : whole ≠ []) :
    written whole = some (wholeValue 10 whole : ℚ) := by
  have h := written_append ⟨hwhole, List.forall_mem_nil _, hne, .whole⟩ .none
  simp only [List.append_nil] at h
  rw [h]
  simp [scientific]

/-- Digits before the point and behind it, with a positive exponent. -/
theorem written_scientific (h : Spelled whole places mantissa) (hne : digits ≠ []) (hdigits : Digits digits) :
    written (mantissa ++ 'e' :: '+' :: digits)
      = some (scientific (whole ++ places) places.length (wholeValue 10 digits)) :=
  written_append h (@Exponent.some 'e' false ['+'] digits (.inl rfl) .plus hne hdigits)

end

theorem exponentText_natCast (n : ℕ) : exponentText n = 'e' :: '+' :: digitsOf n := by
  rw [exponentText, if_neg (by omega)]
  rfl

theorem lt_point {d : ℕ} {t : ℤ} (h : 10 ^ 21 ≤ (d * 10 ^ t : ℚ)) : 21 < t + (digitsOf d).length := by
  have hd : (d : ℚ) < 10 ^ (digitsOf d).length := mod_cast lt_pow_length d
  have hlt : (10 : ℚ) ^ (21 : ℤ) < 10 ^ (t + (digitsOf d).length) := by
    refine lt_of_le_of_lt h ?_
    rw [add_comm, zpow_add₀ (by norm_num), zpow_natCast]
    gcongr
  exact (zpow_lt_zpow_iff_right₀ (by norm_num)).1 hlt

/-- The digits without zeros at their end, with the point after the first of them. -/
theorem scientific_dropTrailingZeros {d n : ℕ} {t : ℤ} (hd : 0 < d) (hn : t + (digitsOf d).length - 1 = n) :
    scientific (dropTrailingZeros (digitsOf d)) ((dropTrailingZeros (digitsOf d)).length - 1) n = d * 10 ^ t := by
  obtain ⟨k, hk, hne, hvalue⟩ := dropTrailingZeros_digitsOf hd
  have hlength := length_dropTrailingZeros hk
  have hpos := List.length_pos_iff.2 hne
  have hvalue' : (wholeValue 10 (dropTrailingZeros (digitsOf d)) : ℚ) * 10 ^ k = d := mod_cast hvalue
  rw [scientific, show (n - ((dropTrailingZeros (digitsOf d)).length - 1 : ℕ) : ℤ) = k + t by omega,
    zpow_add₀ (by norm_num), zpow_natCast, ← mul_assoc, hvalue']

/-- From `10 ^ 21` on a decimal is written with an exponent. -/
theorem large_text {d : ℕ} {t : ℤ} (hd : 0 < d) (h : 10 ^ 21 ≤ (d * 10 ^ t : ℚ)) :
    ∃ whole places mantissa n, Spelled whole places mantissa
      ∧ (⟨d, t⟩ : Decimal).text = mantissa ++ 'e' :: '+' :: digitsOf n ∧ 21 ≤ n
      ∧ scientific (whole ++ places) places.length n = d * 10 ^ t := by
  obtain ⟨k, hk, hne, -⟩ := dropTrailingZeros_digitsOf hd
  have hlength := length_dropTrailingZeros hk
  have hpoint := lt_point h
  obtain ⟨n, hn⟩ := Int.eq_ofNat_of_zero_le (by omega : 0 ≤ t + (digitsOf d).length - 1)
  have hvalue := scientific_dropTrailingZeros hd hn
  have hdigits : Digits (dropTrailingZeros (digitsOf d)) :=
    (digits_digitsOf d).subset (dropTrailingZeros_subset _)
  obtain ⟨c, rest, hcons⟩ := List.exists_cons_of_ne_nil hne
  unfold Decimal.text
  dsimp only
  rw [if_neg (by omega), if_neg (by omega), if_neg (by omega), hn, exponentText_natCast]
  rw [hcons] at hdigits hvalue ⊢
  have hwhole : Digits [c] := hdigits.subset (by simp)
  have hplaces : Digits rest := hdigits.subset (by simp)
  cases rest with
  | nil =>
      exact ⟨[c], [], [c], n, ⟨hwhole, hplaces, List.cons_ne_nil _ _, .whole⟩, rfl, by omega, hvalue⟩
  | cons c' rest =>
      exact ⟨[c], c' :: rest, _, n, ⟨hwhole, hplaces, List.cons_ne_nil _ _, .pointed⟩, rfl, by omega, hvalue⟩

end StoryMix.Numeral
