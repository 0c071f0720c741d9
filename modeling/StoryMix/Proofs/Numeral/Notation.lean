import Mathlib.Data.List.TakeWhile
import StoryMix.Numeral.Reader

/-!
# Decimal notation

Which texts are decimal numerals and which number each stands for, written as a grammar: a sign, then
digits with a point before, among or after them, then an exponent. The sign and the exponent may be
missing, and so may the digits on one side of the point. `readDecimal_eq_some` says that the reader takes
these texts and no others.
-/

namespace StoryMix.Numeral

/-- All of a run are decimal digits. -/
def Digits (cs : List Char) : Prop :=
  ∀ c ∈ cs, isDigit c = true

/-- How a sign is written; true for minus. -/
inductive Sign : Bool → List Char → Prop
  | none : Sign false []
  | plus : Sign false ['+']
  | minus : Sign true ['-']

/-- How the digits before the point and the places after it are written. -/
inductive Mantissa : List Char → List Char → List Char → Prop
  | whole {whole} : Mantissa whole [] whole
  | pointed {whole places} : Mantissa whole places (whole ++ '.' :: places)

inductive Exponent : Int → List Char → Prop
  | none : Exponent 0 []
  | some {letter negative sign digits} :
      letter = 'e' ∨ letter = 'E' → Sign negative sign → digits ≠ [] → Digits digits →
      Exponent (if negative then -(wholeValue 10 digits) else wholeValue 10 digits)
        (letter :: (sign ++ digits))

/-- The text is a decimal numeral, and this is the number it stands for. -/
inductive Denotes : List Char → Float → Prop
  | mk {negative sign whole places mantissa e exponent} :
      Sign negative sign → Digits whole → Digits places → ¬ (whole = [] ∧ places = []) →
      Mantissa whole places mantissa → Exponent e exponent →
      Denotes (sign ++ (mantissa ++ exponent))
        (signed negative (nearest (wholeValue 10 (whole ++ places)) (e - places.length)))

/-! ## Signs -/

theorem takeSign_append {negative : Bool} {sign rest : List Char} (h : Sign negative sign)
    (hplus : rest.head? ≠ some '+') (hminus : rest.head? ≠ some '-') :
    takeSign (sign ++ rest) = (negative, rest) := by
  cases h with
  | plus => rfl
  | minus => rfl
  | none =>
      rw [List.nil_append]
      unfold takeSign
      split
      · exact (hplus rfl).elim
      · exact (hminus rfl).elim
      · rfl

theorem sign_of_takeSign {cs rest : List Char} {negative : Bool}
    (h : takeSign cs = (negative, rest)) : ∃ sign, Sign negative sign ∧ cs = sign ++ rest := by
  unfold takeSign at h
  split at h
  · cases h
    exact ⟨_, .plus, rfl⟩
  · cases h
    exact ⟨_, .minus, rfl⟩
  · cases h
    exact ⟨_, .none, rfl⟩

/-- What begins with a digit, or with a point, has no sign in front. -/
theorem takeSign_of_head {cs : List Char} (negative : Bool) {sign : List Char}
    (h : Sign negative sign) (hcs : ∀ c ∈ cs.head?, isDigit c = true ∨ c = '.') :
    takeSign (sign ++ cs) = (negative, cs) := by
  refine takeSign_append h ?_ ?_
  · intro hhead
    rcases hcs _ hhead with hc | hc <;> revert hc <;> decide
  · intro hhead
    rcases hcs _ hhead with hc | hc <;> revert hc <;> decide

/-! ## Exponents -/

theorem readExponent_eq_some {cs : List Char} {e : Int} :
    readExponent cs = some e ↔ Exponent e cs := by
  constructor
  · intro h
    cases cs with
    | nil =>
        cases h
        exact .none
    | cons letter cs =>
        obtain ⟨negative, digits, htake⟩ : ∃ negative digits, takeSign cs = (negative, digits) :=
          ⟨_, _, rfl⟩
        obtain ⟨sign, hsign, rfl⟩ := sign_of_takeSign htake
        simp only [readExponent, htake] at h
        split at h
        · rename_i hok
          obtain ⟨hletter, hne, hdigits⟩ := hok
          cases h
          exact .some hletter hsign hne (List.all_eq_true.1 hdigits)
        · cases h
  · intro h
    cases h with
    | none => rfl
    | @some letter negative sign digits hletter hsign hne hdigits =>
        have htake : takeSign (sign ++ digits) = (negative, digits) :=
          takeSign_of_head negative hsign fun c hc => .inl (hdigits c (List.mem_of_head? hc))
        simp only [readExponent, htake]
        rw [if_pos ⟨hletter, hne, List.all_eq_true.2 hdigits⟩]

theorem not_isDigit_head {e : Int} {cs : List Char} (h : Exponent e cs) :
    ∀ c ∈ cs.head?, isDigit c = false ∧ c ≠ '.' := by
  rintro c hc
  cases h with
  | none => cases hc
  | some hletter =>
      cases hc
      rcases hletter with rfl | rfl <;> exact ⟨by decide, by decide⟩

/-! ## Digits with a point -/

theorem takeWhile_append_of_head {p : Char → Bool} {run rest : List Char} (hrun : ∀ c ∈ run, p c = true)
    (hrest : ∀ c ∈ rest.head?, p c = false) :
    (run ++ rest).takeWhile p = run ∧ (run ++ rest).dropWhile p = rest := by
  rw [List.takeWhile_append_of_pos hrun, List.dropWhile_append_of_pos hrun]
  cases rest with
  | nil => exact ⟨List.append_nil run, rfl⟩
  | cons c rest =>
      have hc : ¬ p c = true := by simp [hrest c rfl]
      rw [List.takeWhile_cons_of_neg hc, List.dropWhile_cons_of_neg hc, List.append_nil]
      exact ⟨rfl, rfl⟩

theorem takeMantissa_append {whole places mantissa rest : List Char} (hwhole : Digits whole)
    (hplaces : Digits places) (h : Mantissa whole places mantissa)
    (hrest : ∀ c ∈ rest.head?, isDigit c = false ∧ c ≠ '.') :
    takeMantissa (mantissa ++ rest) = (whole, places, rest) := by
  have hdigit : ∀ c ∈ rest.head?, isDigit c = false := fun c hc => (hrest c hc).1
  cases h with
  | whole =>
      obtain ⟨htake, hdrop⟩ := takeWhile_append_of_head hwhole hdigit
      unfold takeMantissa
      simp only [htake, hdrop]
      split
      · exact absurd rfl (hrest '.' rfl).2
      · rfl
  | pointed =>
      have hpoint : ∀ c ∈ ('.' :: (places ++ rest)).head?, isDigit c = false := by
        rintro c ⟨⟩
        decide
      obtain ⟨htake, hdrop⟩ := takeWhile_append_of_head hwhole hpoint
      obtain ⟨htake', hdrop'⟩ := takeWhile_append_of_head hplaces hdigit
      unfold takeMantissa
      simp only [List.append_assoc, List.cons_append, htake, hdrop, htake', hdrop']

theorem mantissa_of_takeMantissa {cs whole places rest : List Char}
    (h : takeMantissa cs = (whole, places, rest)) :
    Digits whole ∧ Digits places
      ∧ ∃ mantissa, Mantissa whole places mantissa ∧ cs = mantissa ++ rest := by
  have hcs : cs = cs.takeWhile isDigit ++ cs.dropWhile isDigit :=
    List.takeWhile_append_dropWhile.symm
  unfold takeMantissa at h
  simp only at h
  split at h
  · rename_i after hdrop
    cases h
    refine ⟨fun c => List.mem_takeWhile_imp, fun c => List.mem_takeWhile_imp, _, .pointed, ?_⟩
    rw [List.append_assoc, List.cons_append, List.takeWhile_append_dropWhile, ← hdrop]
    exact hcs
  · cases h
    exact ⟨fun c => List.mem_takeWhile_imp, nofun, _, .whole, hcs⟩

/-! ## Numerals -/

theorem head_mantissa {whole places mantissa exponent : List Char} (hwhole : Digits whole)
    (hsome : ¬ (whole = [] ∧ places = [])) (h : Mantissa whole places mantissa) :
    ∀ c ∈ (mantissa ++ exponent).head?, isDigit c = true ∨ c = '.' := by
  intro c hc
  cases whole with
  | cons d whole =>
      have hd : isDigit d = true := hwhole d (List.mem_cons_self ..)
      cases h <;> cases hc <;> exact .inl hd
  | nil =>
      cases h with
      | whole => exact absurd ⟨rfl, rfl⟩ hsome
      | pointed =>
          cases hc
          exact .inr rfl

theorem readUnsigned_eq_some {cs : List Char} {x : Float} :
    readUnsigned cs = some x ↔
      ∃ whole places mantissa e exponent, Digits whole ∧ Digits places
        ∧ ¬ (whole = [] ∧ places = []) ∧ Mantissa whole places mantissa ∧ Exponent e exponent
        ∧ cs = mantissa ++ exponent
        ∧ x = nearest (wholeValue 10 (whole ++ places)) (e - places.length) := by
  constructor
  · intro h
    obtain ⟨whole, places, rest, htake⟩ :
        ∃ whole places rest, takeMantissa cs = (whole, places, rest) := ⟨_, _, _, rfl⟩
    simp only [readUnsigned, htake] at h
    split at h
    · cases h
    · rename_i hsome
      obtain ⟨e, hexponent, rfl⟩ := Option.map_eq_some_iff.1 h
      obtain ⟨hwhole, hplaces, mantissa, hmantissa, rfl⟩ := mantissa_of_takeMantissa htake
      exact ⟨whole, places, mantissa, e, rest, hwhole, hplaces, hsome, hmantissa,
        readExponent_eq_some.1 hexponent, rfl, rfl⟩
  · rintro ⟨whole, places, mantissa, e, exponent, hwhole, hplaces, hsome, hmantissa, hexponent, rfl,
      rfl⟩
    have htake := takeMantissa_append hwhole hplaces hmantissa (not_isDigit_head hexponent)
    simp only [readUnsigned, htake, if_neg hsome, readExponent_eq_some.2 hexponent, Option.map_some]

theorem readDecimal_eq_some {cs : List Char} {x : Float} :
    readDecimal cs = some x ↔ Denotes cs x := by
  constructor
  · intro h
    obtain ⟨negative, numeral, htake⟩ : ∃ negative numeral, takeSign cs = (negative, numeral) :=
      ⟨_, _, rfl⟩
    simp only [readDecimal, htake] at h
    obtain ⟨y, hy, rfl⟩ := Option.map_eq_some_iff.1 h
    obtain ⟨whole, places, mantissa, e, exponent, hwhole, hplaces, hsome, hmantissa, hexponent, rfl,
      rfl⟩ := readUnsigned_eq_some.1 hy
    obtain ⟨sign, hsign, rfl⟩ := sign_of_takeSign htake
    exact .mk hsign hwhole hplaces hsome hmantissa hexponent
  · intro h
    cases h with
    | @mk negative sign whole places mantissa e exponent hsign hwhole hplaces hsome hmantissa
        hexponent =>
        have htake : takeSign (sign ++ (mantissa ++ exponent)) = (negative, mantissa ++ exponent) :=
          takeSign_of_head negative hsign (head_mantissa hwhole hsome hmantissa)
        have hread := readUnsigned_eq_some.2
          ⟨whole, places, mantissa, e, exponent, hwhole, hplaces, hsome, hmantissa, hexponent, rfl,
            rfl⟩
        simp only [readDecimal, htake, hread, Option.map_some]

end StoryMix.Numeral
