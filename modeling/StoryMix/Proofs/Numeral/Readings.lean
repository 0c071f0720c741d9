import StoryMix.Proofs.Numeral.Decimal
import StoryMix.Proofs.Numeral.Reader
import StoryMix.Proofs.Numeral.Signed
import StoryMix.Proofs.Text.Blank

/-!
# What numerals are read as

A numeral is for a number, which may be any rational one with finitely many decimals (`DecimalFor`) or a
whole one to the base sixteen, eight or two (`BasedFor`). What is read is the float nearest to it
(`nearest_readNumber`), so a number out of range is read as an infinity, and one that no float is equal to
as its neighbour: a text need not write a whole number to be read as one. Only of blanks and of numerals
what is read is whole (`blank_or_numeralFor`).
-/

namespace StoryMix.Numeral

/-! ## Decimal numerals -/

/-- The text is a decimal numeral for the number. -/
inductive DecimalFor : List Char → ℚ → Prop
  | mk {negative sign whole places mantissa e exponent} :
      Sign negative sign → Digits whole → Digits places → ¬ (whole = [] ∧ places = []) →
      Mantissa whole places mantissa → Exponent e exponent →
      DecimalFor (sign ++ (mantissa ++ exponent))
        (if negative then -scientific (whole ++ places) places.length e
          else scientific (whole ++ places) places.length e)

variable {cs : List Char} {r : ℚ} {x : Float}

theorem nearest_scientific (negative : Bool) (digits : List Char) (places : ℕ) (e : ℤ) :
    Nearest (if negative then -scientific digits places e else scientific digits places e)
      (.ofFloat (signed negative (nearest (wholeValue 10 digits) (e - places)))) :=
  (nearestTo_nearest (wholeValue 10 digits) (e - places)).signed negative

theorem Denotes.exists_decimalFor (h : Denotes cs x) : ∃ r, DecimalFor cs r ∧ Nearest r (.ofFloat x) := by
  cases h with
  | mk hsign hwhole hplaces hsome hmantissa hexponent =>
      exact ⟨_, .mk hsign hwhole hplaces hsome hmantissa hexponent, nearest_scientific ..⟩

/-- A decimal numeral is read as the float nearest to its number. -/
theorem DecimalFor.exists_read (h : DecimalFor cs r) :
    ∃ x, readDecimal cs = some x ∧ Nearest r (.ofFloat x) := by
  cases h with
  | mk hsign hwhole hplaces hsome hmantissa hexponent =>
      exact ⟨_, readDecimal_eq_some.2 (.mk hsign hwhole hplaces hsome hmantissa hexponent),
        nearest_scientific ..⟩

/-- A numeral begins with a digit or a point, once its sign is taken off. -/
theorem DecimalFor.takeSign_head (h : DecimalFor cs r) :
    ∀ c ∈ (takeSign cs).2.head?, isDigit c = true ∨ c = '.' := by
  cases h with
  | mk hsign hwhole hplaces hsome hmantissa hexponent =>
      rw [takeSign_of_head _ hsign (head_mantissa hwhole hsome hmantissa)]
      exact head_mantissa hwhole hsome hmantissa

/-! ## Numerals to other bases -/

/-- The base that a letter names; zero if it names none. -/
def baseNamed (letter : Char) : ℕ :=
  if letter = 'x' ∨ letter = 'X' then 16
  else if letter = 'o' ∨ letter = 'O' then 8
  else if letter = 'b' ∨ letter = 'B' then 2
  else 0

/-- The text is a numeral for the whole number, to a base that it names. -/
inductive BasedFor : List Char → ℕ → Prop
  | mk {letter digits} : digits ≠ [] → (∀ d ∈ digits, digitValue d < baseNamed letter) →
      BasedFor ('0' :: letter :: digits) (wholeValue (baseNamed letter) digits)

theorem readBased_cons (letter : Char) (digits : List Char) :
    readBased ('0' :: letter :: digits)
      = if digits ≠ [] ∧ digits.all (fun d => digitValue d < baseNamed letter)
        then some (Float.ofNat (wholeValue (baseNamed letter) digits)) else none :=
  rfl

theorem readBased_eq_some : readBased cs = some x ↔ ∃ n, BasedFor cs n ∧ x = Float.ofNat n := by
  constructor
  · intro h
    by_cases hcs : ∃ letter digits, cs = '0' :: letter :: digits
    · obtain ⟨letter, digits, rfl⟩ := hcs
      rw [readBased_cons] at h
      obtain ⟨⟨hne, hdigits⟩, hx⟩ := Option.ite_none_right_eq_some.1 h
      refine ⟨_, .mk hne fun d hd => ?_, (Option.some.inj hx).symm⟩
      exact of_decide_eq_true (List.all_eq_true.1 hdigits d hd)
    · unfold readBased at h
      split at h
      · exact absurd ⟨_, _, rfl⟩ hcs
      · cases h
  · rintro ⟨n, h, rfl⟩
    cases h with
    | mk hne hdigits =>
        rw [readBased_cons, if_pos ⟨hne, List.all_eq_true.2 fun d hd => decide_eq_true (hdigits d hd)⟩]

theorem eq_of_baseNamed {letter : Char} (h : 0 < baseNamed letter) :
    letter = 'x' ∨ letter = 'X' ∨ letter = 'o' ∨ letter = 'O' ∨ letter = 'b' ∨ letter = 'B' := by
  grind [baseNamed]

/-- A letter that names a base neither goes on a decimal numeral nor begins its exponent. -/
theorem not_exponent_of_baseNamed {letter : Char} (h : 0 < baseNamed letter) :
    isDigit letter = false ∧ letter ≠ '.' ∧ ¬ (letter = 'e' ∨ letter = 'E') := by
  rcases eq_of_baseNamed h with rfl | rfl | rfl | rfl | rfl | rfl <;> decide

theorem BasedFor.readDecimal_eq_none {n : ℕ} (h : BasedFor cs n) : readDecimal cs = none := by
  cases h with
  | @mk letter digits hne hdigits =>
      have hbase : 0 < baseNamed letter := by
        obtain ⟨d, rest, rfl⟩ := List.exists_cons_of_ne_nil hne
        exact (Nat.zero_le _).trans_lt (hdigits d List.mem_cons_self)
      obtain ⟨hdigit, hpoint, hletter⟩ := not_exponent_of_baseNamed hbase
      have htake : takeMantissa (['0'] ++ letter :: digits) = (['0'], [], letter :: digits) := by
        refine takeMantissa_append (List.forall_mem_singleton.2 (by decide)) nofun .whole ?_
        rintro c ⟨⟩
        exact ⟨hdigit, hpoint⟩
      have hexponent : readExponent (letter :: digits) = none := by
        unfold readExponent
        exact if_neg fun hsome => hletter hsome.1
      change (readUnsigned (['0'] ++ letter :: digits)).map (signed false) = none
      simp only [readUnsigned, htake, hexponent]
      rfl

theorem DecimalFor.readBased_eq_none (h : DecimalFor cs r) : readBased cs = none := by
  refine Option.eq_none_iff_forall_ne_some.2 fun x hx => ?_
  obtain ⟨n, hbased, -⟩ := readBased_eq_some.1 hx
  obtain ⟨y, hy, -⟩ := h.exists_read
  rw [hbased.readDecimal_eq_none] at hy
  cases hy

theorem DecimalFor.readInfinity_eq_none (h : DecimalFor cs r) : readInfinity cs = none := by
  have hhead := h.takeSign_head
  unfold readInfinity
  dsimp only
  split
  · rename_i hword
    rw [hword] at hhead
    exact absurd (hhead 'I' rfl) (by decide)
  · rfl

/-! ## Any numeral -/

/-- The text is a numeral for the number. -/
inductive NumeralFor (cs : List Char) : ℚ → Prop
  | decimal {r : ℚ} : DecimalFor cs r → NumeralFor cs r
  | based {n : ℕ} : BasedFor cs n → NumeralFor cs n

theorem nearest_ofNat (n : ℕ) : Nearest n (.ofFloat (Float.ofNat n)) := by
  have h := nearestTo_nearest n 0
  rw [zpow_zero, mul_one] at h
  exact h.exact

theorem DecimalFor.ne_nil (h : DecimalFor cs r) : cs ≠ [] := by
  rintro rfl
  obtain ⟨x, hx, -⟩ := h.exists_read
  cases hx

/-- Any numeral is read as the float nearest to its number, blanks around it aside. -/
theorem nearest_readNumber {s : String} (h : NumeralFor (Text.trim s.toList) r) :
    Nearest r (.ofFloat (readNumber s)) := by
  unfold readNumber
  dsimp only
  cases h with
  | decimal h =>
      obtain ⟨x, hx, hnearest⟩ := h.exists_read
      rw [if_neg h.ne_nil, h.readBased_eq_none, h.readInfinity_eq_none, hx]
      exact hnearest
  | @based n h =>
      have hne : Text.trim s.toList ≠ [] := by
        rintro hnil
        rw [hnil] at h
        cases h
      rw [if_neg hne, readBased_eq_some.2 ⟨n, h, rfl⟩]
      exact nearest_ofNat n

theorem readNumber_of_blank {s : String} (h : Text.trim s.toList = []) : readNumber s = 0 := by
  unfold readNumber
  exact if_pos h

theorem isWhole_infinity (negative : Bool) : isWhole (signed negative infinity) = false := by
  unfold isWhole
  rw [ofFloat_eq]
  cases negative <;> rfl

/-- What is read as a whole number is a numeral, or blank. -/
theorem blank_or_numeralFor {s : String} (h : isWhole (readNumber s) = true) :
    Text.trim s.toList = [] ∨ ∃ r, NumeralFor (Text.trim s.toList) r := by
  unfold readNumber at h
  dsimp only at h
  split at h
  · rename_i hblank
    exact .inl hblank
  right
  cases hbased : readBased (Text.trim s.toList) with
  | some x =>
      obtain ⟨n, hn, -⟩ := readBased_eq_some.1 hbased
      exact ⟨n, .based hn⟩
  | none =>
      cases hinfinity : readInfinity (Text.trim s.toList) with
      | some x =>
          obtain ⟨-, hx⟩ := Option.ite_none_right_eq_some.1 hinfinity
          rw [hbased, hinfinity, ← Option.some.inj hx] at h
          exact absurd h (Bool.eq_false_iff.1 (isWhole_infinity _))
      | none =>
          cases hdecimal : readDecimal (Text.trim s.toList) with
          | some x =>
              obtain ⟨r, hr, -⟩ := (readDecimal_eq_some.1 hdecimal).exists_decimalFor
              exact ⟨r, .decimal hr⟩
          | none =>
              rw [hbased, hinfinity, hdecimal] at h
              cases h

/-- No numeral begins with two hyphens. -/
theorem not_numeralFor_of_hyphens {rest : List Char} : ¬ NumeralFor ('-' :: '-' :: rest) r := by
  intro h
  cases h with
  | decimal h => exact absurd (h.takeSign_head '-' rfl) (by decide)
  | based h => cases h

end StoryMix.Numeral
