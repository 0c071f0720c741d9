import Mathlib.Data.List.Basic
import StoryMix.Numeral.Fixed

/-!
# The characters of a number's text

The text of a number is put between other text that is taken apart at its punctuation. Which
characters it can have at all settles that it never gets in the way (`numeric_text`, `numeric_fixed`),
and that different whole numbers have different texts settles that names made with them are different
(`natText_inj`), with zeros in front of them as well (`padded_inj`).
-/

namespace StoryMix.Numeral

/-- Nothing in the text but digits, signs, a point, an exponent's letter and the letters of the
words for what is not a finite number. -/
def Numeric (cs : List Char) : Prop :=
  ∀ c ∈ cs, c.isDigit = true ∨ c ∈ ".-+eNaInfity".toList

theorem numeric_nil : Numeric [] := by
  intro c hc
  cases hc

theorem numeric_append {xs ys : List Char} (hx : Numeric xs) (hy : Numeric ys) :
    Numeric (xs ++ ys) := by
  intro c hc
  rcases List.mem_append.mp hc with h | h
  · exact hx c h
  · exact hy c h

theorem numeric_cons {c : Char} {cs : List Char} (hc : c.isDigit = true ∨ c ∈ ".-+eNaInfity".toList)
    (hcs : Numeric cs) : Numeric (c :: cs) := by
  intro d hd
  rcases List.mem_cons.mp hd with rfl | h
  · exact hc
  · exact hcs d h

theorem Numeric.subset {xs ys : List Char} (h : Numeric ys) (hsub : xs ⊆ ys) : Numeric xs :=
  fun c hc => h c (hsub hc)

theorem numeric_digitsOf (n : Nat) : Numeric (digitsOf n) :=
  fun _ hc => Or.inl (Nat.isDigit_of_mem_toDigits (by decide) (by decide) hc)

theorem numeric_zeros (n : Nat) : Numeric (zeros n) := by
  intro c hc
  rw [List.eq_of_mem_replicate hc]
  exact Or.inl (by decide)

theorem dropTrailingZeros_subset (cs : List Char) : dropTrailingZeros cs ⊆ cs := by
  intro c hc
  have hr := List.mem_reverse.mp hc
  exact List.mem_reverse.mp ((List.dropWhile_sublist _).subset hr)

theorem withoutTrailingZeros_subset (cs : List Char) : withoutTrailingZeros cs ⊆ cs := by
  have hkept := dropTrailingZeros_subset cs
  unfold withoutTrailingZeros
  dsimp only
  split
  · exact List.Subset.refl cs
  · split
    · exact fun c hc => hkept (List.dropLast_subset _ hc)
    · exact hkept

theorem numeric_signText (negative : Bool) : Numeric (signText negative).toList := by
  cases negative
  · exact numeric_nil
  · exact numeric_cons (by decide) numeric_nil

theorem numeric_exponentText (e : Int) : Numeric (exponentText e) := by
  refine numeric_cons (by decide) (numeric_cons ?_ (numeric_digitsOf _))
  split <;> decide

theorem numeric_decimalText (d : Decimal) : Numeric d.text := by
  have hdigits : Numeric (dropTrailingZeros (digitsOf d.digits)) :=
    (numeric_digitsOf d.digits).subset (dropTrailingZeros_subset _)
  have htake : ∀ k, Numeric ((dropTrailingZeros (digitsOf d.digits)).take k) :=
    fun k => hdigits.subset (List.take_subset k _)
  have hdrop : ∀ k, Numeric ((dropTrailingZeros (digitsOf d.digits)).drop k) :=
    fun k => hdigits.subset (List.drop_subset k _)
  unfold Decimal.text
  dsimp only
  split
  · exact numeric_append hdigits (numeric_zeros _)
  split
  · exact numeric_append (htake _) (numeric_cons (by decide) (hdrop _))
  split
  · exact numeric_append
      (numeric_cons (by decide) (numeric_cons (by decide) (numeric_zeros _))) hdigits
  split
  · rename_i c hc
    rw [hc] at hdigits
    exact numeric_cons (hdigits c (List.mem_singleton.mpr rfl)) (numeric_exponentText _)
  · exact numeric_append (numeric_append (htake 1) (numeric_cons (by decide) (hdrop 1)))
      (numeric_exponentText _)

theorem numeric_text (x : Float) : Numeric (text x).toList := by
  unfold text
  split
  · intro c hc
    exact Or.inr ((by decide : "NaN".toList ⊆ ".-+eNaInfity".toList) hc)
  · rw [String.toList_append]
    refine numeric_append (numeric_signText _) fun c hc => ?_
    exact Or.inr ((by decide : "Infinity".toList ⊆ ".-+eNaInfity".toList) hc)
  · split
    · exact numeric_cons (by decide) numeric_nil
    · rw [String.toList_append, String.toList_ofList]
      exact numeric_append (numeric_signText _) (numeric_decimalText _)

theorem numeric_pointed (places n : Nat) : Numeric (pointed places n) := by
  have hpadded : Numeric (zeros (places + 1 - (digitsOf n).length) ++ digitsOf n) :=
    numeric_append (numeric_zeros _) (numeric_digitsOf n)
  exact numeric_append (hpadded.subset (List.take_subset _ _))
    (numeric_cons (by decide) (hpadded.subset (List.drop_subset _ _)))

theorem numeric_fixed (places : Nat) (x : Float) : Numeric (fixed places x).toList := by
  unfold fixed
  split
  · split
    · exact numeric_text x
    · rw [String.toList_append, String.toList_ofList]
      exact numeric_append (numeric_signText _) (numeric_pointed _ _)
  · exact numeric_text x

theorem numeric_natText (n : Nat) : Numeric (natText n).toList := by
  rw [natText, String.toList_ofList]
  exact numeric_digitsOf n

/-! ## Whole numbers -/

theorem isDigit_of_mem_padded {k n : Nat} {c : Char} (h : c ∈ zeros k ++ digitsOf n) :
    c.isDigit = true := by
  rcases List.mem_append.mp h with h | h
  · rw [List.eq_of_mem_replicate h]
    decide
  · exact Nat.isDigit_of_mem_toDigits (by decide) (by decide) h

/-- Zeros in front of a number do not change it. -/
theorem ofDigitChars_padded (k n : Nat) : Nat.ofDigitChars 10 (zeros k ++ digitsOf n) 0 = n := by
  rw [Nat.ofDigitChars_append, zeros, Nat.ofDigitChars_replicate_zero, Nat.mul_zero]
  exact Nat.ofDigitChars_ten_toDigits

theorem padded_inj {j k m n : Nat} (h : zeros j ++ digitsOf m = zeros k ++ digitsOf n) : m = n := by
  rw [← ofDigitChars_padded j m, h, ofDigitChars_padded]

theorem digitsOf_inj {m n : Nat} (h : digitsOf m = digitsOf n) : m = n :=
  padded_inj (j := 0) (k := 0) h

theorem natText_inj {m n : Nat} (h : natText m = natText n) : m = n :=
  digitsOf_inj (String.ofList_inj.mp h)

end StoryMix.Numeral
