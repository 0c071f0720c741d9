import StoryMix.Proofs.Numeral.Rounding

/-!
# Sums of floats

What adding up times relies on. `le_add`: adding what is not negative to what is not negative never
makes it smaller. `isNaN_add_iff`: a sum of numbers, the first of them not negative, is itself a
number unless opposite infinities meet in it.
-/

namespace StoryMix.Numeral

open Float.Model Float.Model.UnpackedFloat

theorem parts_add (x y : Float) :
    parts (x + y) = UnpackedFloat.unpack Format.binary64
      (UnpackedFloat.pack Format.binary64
        (UnpackedFloat.add Format.binary64 (parts x) (parts y))) := rfl

theorem le_unpack_pack_infinity {u : UnpackedFloat} (hu : NotNegative u) :
    u.le (UnpackedFloat.unpack Format.binary64
      (UnpackedFloat.pack Format.binary64 (.infinity .positive))) = true := by
  rw [show UnpackedFloat.pack Format.binary64 (.infinity .positive) = packedInfinity _ _ from rfl,
    unpack_packedInfinity]
  cases hu <;> rfl

/-- A canonical number is not above what a number at least as great is packed into. -/
theorem le_unpack_pack {m m' : ℕ} {e e' : ℤ} {h h'} (hc : Canonical m' e')
    (hle : e < e' ∨ e = e' ∧ m ≤ m') :
    (UnpackedFloat.finite .positive m e h).le
      (UnpackedFloat.unpack Format.binary64
        (UnpackedFloat.pack Format.binary64 (.finite .positive m' e' h'))) = true := by
  rcases unpack_pack (s := .positive) h' hc with heq | heq
  · rw [heq]
    exact (isLE_then_iff e e' m m').2 hle
  · rw [heq]
    rfl

theorem units_shiftLeft {m : ℕ} {e e' : ℤ} (hle : e' ≤ e) (hge : -1074 ≤ e') :
    units (m <<< (e - e').toNat) e' = units m e := by
  have hexp : (e + 1074).toNat = (e - e').toNat + (e' + 1074).toNat := by omega
  rw [units, units, hexp, Nat.shiftLeft_eq, pow_add, mul_assoc]

theorem normalize_natCast {n : ℕ} (hn : 0 < n) (e : ℤ) (s : Sign) :
    normalize Format.binary64 n e s = round Format.binary64 .positive n e := by
  have hgt : compare (n : ℤ) 0 = .gt := Int.compare_eq_gt.2 (by omega)
  unfold UnpackedFloat.normalize
  rw [hgt]
  rfl

/-- Two positive numbers add up to what their exact sum is rounded to. -/
theorem add_positive {m m' : ℕ} {e e' : ℤ} (h : 0 < m) (h' : 0 < m') (hc : Canonical m e)
    (hc' : Canonical m' e') :
    ∃ r q hr, UnpackedFloat.add Format.binary64 (.finite .positive m e h)
        (.finite .positive m' e' h') = .finite .positive r q hr
      ∧ Canonical r q ∧ (e < q ∨ e = q ∧ m ≤ r) := by
  have hge : -1074 ≤ min e e' := le_min hc.ge hc'.ge
  generalize hs : m <<< (e - min e e').toNat + m' <<< (e' - min e e').toNat = sum
  have hsum : 0 < sum := by
    rw [← hs, Nat.shiftLeft_eq]
    exact Nat.add_pos_left (Nat.mul_pos h (Nat.two_pow_pos _)) _
  have hadd : UnpackedFloat.add Format.binary64 (.finite .positive m e h)
      (.finite .positive m' e' h') = round Format.binary64 .positive sum (min e e') := by
    rw [← normalize_natCast hsum, ← hs]
    rfl
  have hunits : units m e ≤ units sum (min e e') := by
    rw [← units_shiftLeft (min_le_left e e') hge, ← hs]
    exact Nat.mul_le_mul_right _ (Nat.le_add_right _ _)
  obtain ⟨r, q, hr, hround, hcanonical, hbelow⟩ := round_spec .positive hsum hge
  exact ⟨r, q, hr, hadd.trans hround, hcanonical, hbelow hc hunits⟩

/-- Adding what is not negative to what is not negative never makes it smaller. -/
theorem le_add {x d : Float} (hx : 0 ≤ x) (hd : 0 ≤ d) : x ≤ x + d := by
  have hcx : ∀ {s m e h}, parts x = .finite s m e h → Canonical m e := canonical_of_unpack
  have hcd : ∀ {s m e h}, parts d = .finite s m e h → Canonical m e := canonical_of_unpack
  rw [zero_le_iff] at hx hd
  rw [le_iff_parts, parts_add]
  generalize parts x = u at hx hcx
  generalize parts d = v at hd hcd
  cases hd with
  | infinity => cases hx <;> exact le_unpack_pack_infinity (by constructor)
  | zero s' =>
      cases hx with
      | infinity => exact le_unpack_pack_infinity .infinity
      | zero s => cases s <;> cases s' <;> rfl
      | finite m e h => exact le_unpack_pack (hcx rfl) (Or.inr ⟨rfl, le_rfl⟩)
  | finite m' e' h' =>
      cases hx with
      | infinity => exact le_unpack_pack_infinity .infinity
      | zero s =>
          change UnpackedFloat.le _ (UnpackedFloat.unpack _ (UnpackedFloat.pack _ (.finite _ _ _ _)))
            = true
          rcases unpack_pack (s := .positive) h' (hcd rfl) with heq | heq <;> rw [heq] <;> rfl
      | finite m e h =>
          obtain ⟨r, q, hr, hadd, hcanonical, hle⟩ :=
            add_positive h h' (hcx rfl) (hcd rfl)
          rw [hadd]
          exact le_unpack_pack hcanonical hle

theorem zero_le_add {x d : Float} (hx : 0 ≤ x) (hd : 0 ≤ d) : 0 ≤ x + d :=
  le_trans hx (le_add hx hd)

theorem isInf_iff_parts {x : Float} : x.isInf = true ↔ ∃ s, parts x = .infinity s := by
  change (parts x).isInf = true ↔ _
  cases parts x with
  | infinity s => exact iff_of_true rfl ⟨s, rfl⟩
  | notANumber | zero | finite => exact iff_of_false nofun fun ⟨_, h⟩ => nomatch h

/-- A number that is not negative and any other add up to a number, unless opposite infinities
meet. -/
theorem isNaN_add_iff {x y : Float} (hx : 0 ≤ x) (hy : y.isNaN = false) :
    (x + y).isNaN = true ↔ x.isInf = true ∧ y.isInf = true ∧ y < 0 := by
  have hy' := parts_ne_of_not_isNaN hy
  rw [zero_le_iff] at hx
  rw [isNaN_iff_parts, parts_add, unpack_pack_eq_notANumber, isInf_iff_parts, isInf_iff_parts,
    lt_iff_parts, parts_zero]
  generalize parts x = u at hx
  generalize parts y = v at hy'
  rcases v with s' | _ | s' | ⟨s', m', e', h'⟩
  case notANumber => exact absurd rfl hy'
  case infinity =>
    -- Only here can the sum be none: the infinities meet if the signs differ.
    cases hx with
    | infinity =>
        cases s' with
        | negative => exact iff_of_true rfl ⟨⟨_, rfl⟩, ⟨_, rfl⟩, rfl⟩
        | positive => exact iff_of_false nofun fun h => nomatch h.2.2
    | zero | finite => exact iff_of_false nofun fun ⟨⟨_, h⟩, _⟩ => nomatch h
  case zero =>
    cases hx with
    | infinity => exact iff_of_false nofun fun ⟨_, ⟨_, h⟩, _⟩ => nomatch h
    | zero s =>
        refine iff_of_false ?_ fun ⟨⟨_, h⟩, _⟩ => nomatch h
        cases s <;> cases s' <;> exact nofun
    | finite m e h => exact iff_of_false nofun fun ⟨⟨_, h⟩, _⟩ => nomatch h
  case finite =>
    cases hx with
    | infinity => exact iff_of_false nofun fun ⟨_, ⟨_, h⟩, _⟩ => nomatch h
    | zero s => exact iff_of_false nofun fun ⟨⟨_, h⟩, _⟩ => nomatch h
    | finite m e h =>
        exact iff_of_false (normalize_ne_notANumber _ _ _) fun ⟨⟨_, h⟩, _⟩ => nomatch h

end StoryMix.Numeral
