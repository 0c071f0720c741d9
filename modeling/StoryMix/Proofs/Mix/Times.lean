import StoryMix.Proofs.Mix.Chains
import StoryMix.Proofs.Numeral.Places

/-!
# Times as arguments of filters

Two times go into the texts of filters: an effect's start, in milliseconds, and the length of the
narration, in seconds. `delays_spelled` says what is written for every start that is not negative and
finite: a whole number of milliseconds below `10 ^ 18` seconds, later for a later start, and no run of
digits from there on. `bounds_spelled` says the same for the length that the beds are cut to: it is within
half a microsecond below `10 ^ 21` seconds, and from there on the zeros that are cut off are those of an
exponent.
-/

namespace StoryMix.Mix

open Numeral

variable {s u : Float} {m : ℕ} {q : ℤ}

/-! ## Milliseconds -/

theorem parts_thousand : parts 1000 = .finite .positive (1000 * 2 ^ 43) (-43) (by decide) := rfl

theorem canonical_thousand : Canonical (1000 * 2 ^ 43) (-43) :=
  ⟨by decide, by decide, .inl (by decide)⟩

theorem binary_thousand : binary (1000 * 2 ^ 43) (-43) = 1000 := by
  norm_num [binary]

/-- A later time has no lesser delay. -/
theorem delayMs_mono (hs : 0 ≤ s) (hsu : s ≤ u) : delayMs s ≤ delayMs u :=
  nearestWhole_mono (zero_le_mul parts_thousand hs) (mul_le_mul_right parts_thousand hs hsu)

/-- `10 ^ 18` as a float. -/
theorem canonical_last : Canonical (5 ^ 18 * 2 ^ 11) 7 :=
  ⟨by decide, by decide, .inl (by decide)⟩

theorem binary_last : binary (5 ^ 18 * 2 ^ 11) 7 = 10 ^ 18 := by
  norm_num [binary]

/-- The float before `10 ^ 18`. -/
theorem canonical_before : Canonical (5 ^ 18 * 2 ^ 11 - 1) 7 :=
  ⟨by decide, by decide, .inl (by decide)⟩

theorem rounded_before : rounded ((5 ^ 18 * 2 ^ 11 - 1) * (1000 * 2 ^ 43)) (7 + -43) = 10 ^ 21 - 2 ^ 17 := by
  have htarget : target ((5 ^ 18 * 2 ^ 11 - 1) * (1000 * 2 ^ 43)) (7 + -43) = 17 := by decide +kernel
  have hdigits : roundedDigits ((5 ^ 18 * 2 ^ 11 - 1) * (1000 * 2 ^ 43)) (7 + -43) = 5 ^ 21 * 2 ^ 4 - 1 := by
    decide +kernel
  rw [rounded, htarget, hdigits]
  norm_num [binary]

/-- Before `10 ^ 18` seconds there are fewer than `10 ^ 21` milliseconds. -/
theorem holds_product (hs : Holds s m q) (h : value s < 10 ^ 18) :
    ∃ m' q', Holds (s * 1000) m' q' ∧ binary m' q' ≤ 10 ^ 21 - 2 ^ 17 := by
  rcases Nat.eq_zero_or_pos m with rfl | hm
  · obtain ⟨m', q', hp, hvalue⟩ := (stored_mul_of_zero parts_thousand hs).holds (by positivity)
    refine ⟨m', q', hp, ?_⟩
    rw [hvalue]
    norm_num
  have hc := hs.canonical
  rw [hs.value_eq, ← binary_last] at h
  have hbefore : binary m q ≤ binary (5 ^ 18 * 2 ^ 11 - 1) 7 := by
    have hnot : ¬ (7 < q ∨ 7 = q ∧ 5 ^ 18 * 2 ^ 11 ≤ m) :=
      fun hle => h.not_ge ((canonical_last.le_iff hc).1 hle)
    rw [← hc.le_iff canonical_before]
    omega
  have hle : rounded (m * (1000 * 2 ^ 43)) (q + -43) ≤ 10 ^ 21 - 2 ^ 17 := by
    rw [← rounded_before]
    refine rounded_mono (by positivity) (by decide) (hc.le_target_mul hm (by decide) canonical_thousand)
      (canonical_before.le_target_mul (by decide) (by decide) canonical_thousand) ?_
    rw [binary_mul_binary, binary_mul_binary]
    exact mul_le_mul_of_nonneg_right hbefore (binary_nonneg _ _)
  have hsmall : (10 ^ 21 - 2 ^ 17 : ℚ) < 2 ^ 1024 :=
    (by norm_num : (10 ^ 21 - 2 ^ 17 : ℚ) < 2 ^ 70).trans (pow_lt_pow_right₀ one_lt_two (by norm_num))
  obtain ⟨m', q', hp, hvalue⟩ := (stored_mul_of_pos parts_thousand hm hs).holds (hle.trans_lt hsmall)
  exact ⟨m', q', hp, by rwa [hvalue]⟩

/-- From then on there are no fewer, or they are infinite. -/
theorem large_product (hs : Holds s m q) (h : 10 ^ 18 ≤ value s) :
    parts (s * 1000) = .infinity .positive ∨ ∃ m' q', Holds (s * 1000) m' q' ∧ 10 ^ 21 ≤ binary m' q' := by
  have hc := hs.canonical
  rw [hs.value_eq] at h
  have hm : 0 < m := pos_of_binary_pos ((by norm_num : (0 : ℚ) < 10 ^ 18).trans_le h)
  have hle : 10 ^ 21 ≤ rounded (m * (1000 * 2 ^ 43)) (q + -43) := by
    rw [← binary_limit, ← rounded_of_canonical (by decide) canonical_limit]
    refine rounded_mono (by decide) (by positivity) (target_of_canonical (by decide) canonical_limit).ge
      (hc.le_target_mul hm (by decide) canonical_thousand) ?_
    rw [binary_mul_binary, binary_thousand, binary_limit]
    linarith
  have hstored := stored_mul_of_pos parts_thousand hm hs
  rcases holds_or_infinity (zero_le_mul parts_thousand hs.zero_le) with ⟨m', q', hp⟩ | hp
  · refine .inr ⟨m', q', hp, ?_⟩
    rwa [← hstored.eq_binary hp]
  · exact .inl hp

/-- What is written for the delay of an effect that starts at `s`. -/
structure Delayed (s : Float) : Prop where
  /-- It is a run of digits just below `10 ^ 18` seconds. -/
  digits : Digits (text (delayMs s)).toList ↔ value s < 10 ^ 18
  /-- These are the digits of a whole number, and of the one nearest to the product itself as long as every
  whole number of that size is a float. -/
  whole : value s < 10 ^ 18 → ∃ n, text (delayMs s) = natText n
    ∧ (⌊value (s * 1000) + 1 / 2⌋₊ < 2 ^ 53 → n = ⌊value (s * 1000) + 1 / 2⌋₊)

theorem exists_holds_delayMs (hs : Holds s m q) (h : value s < 10 ^ 18) :
    ∃ m' q' n, Holds (delayMs s) m' q' ∧ binary m' q' = (n : ℕ) ∧ n < 10 ^ 21
      ∧ n = ⌊value (s * 1000) + 1 / 2⌋₊ := by
  obtain ⟨m', q', hp, hle⟩ := holds_product hs h
  obtain ⟨m'', q'', hwhole, hvalue⟩ := holds_nearestWhole hp
  refine ⟨m'', q'', _, hwhole, hvalue, ?_, by rw [hp.value_eq]⟩
  have hnonneg := binary_nonneg m' q'
  rw [Nat.floor_lt (by positivity)]
  push_cast
  linarith

theorem not_digits_infinity : ¬ Digits "Infinity".toList := by
  intro h
  have hletter := h 'I' (by decide)
  revert hletter
  decide

theorem not_digits_exponent (mantissa digits : List Char) : ¬ Digits (mantissa ++ 'e' :: '+' :: digits) := by
  intro h
  have hletter := h 'e' (by simp)
  revert hletter
  decide

theorem delayed_of_holds (hs : Holds s m q) : Delayed s := by
  refine ⟨⟨fun h => ?_, fun h => ?_⟩, fun h => ?_⟩
  · by_contra hlarge
    rcases large_product hs (not_lt.1 hlarge) with hp | ⟨m', q', hp, hbig⟩
    · have htext : text (delayMs s) = "Infinity" := by
        rw [delayMs, nearestWhole_of_infinity hp]
        unfold text
        rw [ofFloat_eq, hp]
        rfl
      rw [htext] at h
      exact not_digits_infinity h
    · obtain ⟨m'', q'', hwhole, hvalue⟩ := holds_nearestWhole hp
      have hbig' : 10 ^ 21 ≤ binary m'' q'' := by
        have hle : 10 ^ 21 ≤ ⌊binary m' q' + 1 / 2⌋₊ := Nat.le_floor (by push_cast; linarith)
        rw [hvalue]
        exact_mod_cast hle
      obtain ⟨_, _, mantissa, n, -, htext, -⟩ := hwhole.large_text hbig'
      rw [delayMs, htext] at h
      exact not_digits_exponent _ _ h
  · obtain ⟨m', q', n, hd, hn, hlt, -⟩ := exists_holds_delayMs hs h
    obtain ⟨d, htext, -⟩ := exists_natText hd hn hlt
    rw [htext, natText, String.toList_ofList]
    exact digits_digitsOf d
  · obtain ⟨m', q', n, hd, hn, hlt, hnearest⟩ := exists_holds_delayMs hs h
    rw [← hnearest]
    obtain ⟨d, htext, -⟩ := exists_natText hd hn hlt
    refine ⟨d, htext, fun hsmall => ?_⟩
    exact natText_inj (htext.symm.trans (text_of_lt hd hn hsmall))

/-- Of two starts the later has no lesser digits. -/
theorem digits_mono {n n' : ℕ} (hs : 0 ≤ s) (hfinite : s.isFinite = true) (hu : u.isFinite = true) (hsu : s ≤ u)
    (hn : text (delayMs s) = natText n) (hn' : text (delayMs u) = natText n') : n ≤ n' := by
  obtain ⟨m, q, hs'⟩ := exists_holds hs hfinite
  obtain ⟨m', q', hu'⟩ := exists_holds (le_trans hs hsu) hu
  have hdigits : ∀ {v : Float} {k : ℕ}, text (delayMs v) = natText k → Digits (text (delayMs v)).toList := by
    intro v k hk
    rw [hk, natText, String.toList_ofList]
    exact digits_digitsOf k
  obtain ⟨_, _, k, hd, hk, -, -⟩ := exists_holds_delayMs hs' ((delayed_of_holds hs').digits.1 (hdigits hn))
  obtain ⟨_, _, k', hd', hk', hlt, -⟩ := exists_holds_delayMs hu' ((delayed_of_holds hu').digits.1 (hdigits hn'))
  refine natText_mono hd hd' hk hk' hlt ?_ hn hn'
  have hle := (hd.le_iff hd').1 (delayMs_mono hs hsu)
  rw [hd.value_eq, hd'.value_eq, hk, hk'] at hle
  exact_mod_cast hle

/-! ## Seconds -/

/-- What is written for `x` seconds, compared with the text that has all six places. -/
structure Bounded (x : Float) : Prop where
  /-- There is no zero at the end after a point, and no point at the end. -/
  tidy : Tidy (seconds x).toList
  /-- Below `10 ^ 21` both texts write one number, which is within half a microsecond. -/
  near : value x < 10 ^ 21 → ∃ r, written (fixed 6 x).toList = some r ∧ written (seconds x).toList = some r
    ∧ |r - value x| ≤ 1 / 2 / 10 ^ 6
  /-- From there on they do so only if the longer one does not end with a zero of its exponent. -/
  far : 10 ^ 21 ≤ value x → ∃ r r', written (fixed 6 x).toList = some r
    ∧ written (seconds x).toList = some r' ∧ (r' = r ↔ (fixed 6 x).toList.getLast? ≠ some '0')

theorem toList_seconds (x : Float) : (seconds x).toList = withoutTrailingZeros (fixed 6 x).toList :=
  String.toList_ofList

theorem bounded_of_lt (hs : Holds s m q) (h : value s < 10 ^ 21) : Bounded s := by
  have hvalue := hs.value_eq
  obtain ⟨whole, frac, hpointed, hspelled, hlength, -⟩ := pointed_eq 6 (scaled 6 m q)
  have hfixed : (fixed 6 s).toList = pointed 6 (scaled 6 m q) := by
    rw [hs.fixed_eq, if_neg (by rw [← hvalue]; exact h.not_ge), String.toList_ofList]
  obtain ⟨hsame, htidy⟩ :=
    written_withoutTrailingZeros hspelled (List.ne_nil_of_length_eq_add_one hlength)
  rw [← hpointed, ← hfixed, ← toList_seconds] at hsame htidy
  have hwritten := hfixed ▸ written_pointed 6 (scaled 6 m q)
  refine ⟨htidy, fun _ => ⟨_, hwritten, hsame.trans hwritten, ?_⟩, fun hfar => absurd h hfar.not_gt⟩
  rw [hvalue]
  exact abs_scaled_sub_le 6 m q

theorem bounded_of_le (hs : Holds s m q) (h : 10 ^ 21 ≤ value s) : Bounded s := by
  have hvalue := hs.value_eq
  obtain ⟨whole, places, mantissa, n, hspelled, htext, hn, hpos⟩ := hs.large_text (hvalue ▸ h)
  have hfixed : (fixed 6 s).toList = mantissa ++ 'e' :: '+' :: digitsOf n := by
    rw [hs.fixed_eq, if_pos (hvalue ▸ h), htext]
  have hlast : (fixed 6 s).toList.getLast? = (digitsOf n).getLast? := by
    rw [hfixed, getLast?_exponent (digitsOf_ne_nil n)]
  obtain ⟨htidy, r, r', hr, hr', hiff⟩ :=
    written_withoutTrailingZeros_exponent hspelled (by omega) hpos
  rw [← hfixed, ← toList_seconds] at htidy hr'
  rw [← hfixed] at hr
  rw [← hlast] at hiff
  exact ⟨htidy, fun hnear => absurd hnear h.not_gt, fun _ => ⟨r, r', hr, hr', hiff⟩⟩

/-! ## The filters of a timeline -/

section

variable {t : Timeline} {config : ProducerConfig} {g : Graph}

theorem filters_of_compile (h : compile t config = .ok g) : g.filters = (chainsOf t config).map Chain.text := by
  unfold compile at h
  split at h
  · cases h
  · cases h
    rfl

theorem filter_of_stands (h : compile t config = .ok g) {j : ℕ} {c : Chain} (hc : Stands t config j c) :
    g.filters[j]? = some c.text := by
  rw [filters_of_compile h, List.getElem?_map, stands_iff.2 hc]
  rfl

theorem effectChain_text (i number : ℕ) (s : Float) :
    (effectChain i number s).text = "[" ++ natText i ++ ":a]adelay=delays=" ++ text (delayMs s) ++ ":all=1[sfx"
      ++ natText (number + 1) ++ "]" := by
  rw [← String.toList_inj]
  simp [effectChain, Chain.text, Source.text, Filter.text, Label.text]

theorem bedChain_text (duration : Float) (i : ℕ) (bed : Bed) :
    (bedChain duration i bed).text = "[" ++ natText i ++ ":a]aloop=loop=-1:size=2e+09,volume=" ++ text bed.gain
      ++ "dB,atrim=0:" ++ seconds duration ++ "[" ++ bed.label.text ++ "]" := by
  rw [← String.toList_inj]
  simp [bedChain, Chain.text, Source.text, Filter.text]

/-- A delay stands in the chain of an effect only. -/
theorem Stands.effect_of_delay {j : ℕ} {c : Chain} (hc : Stands t config j c) (hs : .delay s ∈ c.filters) :
    ∃ i e, t.effects[i]? = some e ∧ s = e.startTime
      ∧ j = t.segments.length + 1 + (bedsOf t.beds config).length + i := by
  cases hc with
  | segment | narration | bed | total =>
      simp [segmentChain, narrationChain, bedChain, totalChain] at hs
  | @effect i e he =>
      simp only [effectChain, List.mem_singleton, Filter.delay.injEq] at hs
      exact ⟨i, e, he, hs, rfl⟩

/-- A bound stands in the chain of a bed only, and is the length of the timeline. -/
theorem Stands.bed_of_trim {j : ℕ} {c : Chain} (hc : Stands t config j c) (hs : .trim s ∈ c.filters) :
    s = t.duration ∧ ∃ i bed, (bedsOf t.beds config)[i]? = some bed ∧ j = t.segments.length + 1 + i := by
  cases hc with
  | segment | narration | effect | total =>
      simp [segmentChain, narrationChain, effectChain, totalChain] at hs
  | @bed i bed hbed =>
      refine ⟨by simpa [bedChain] using hs, i, bed, hbed, rfl⟩

/-- For starts that are not negative and finite: what stands in a filter is a delay just for the effects, each
has its own, with what is written for its start, and a later start has no lesser delay. -/
theorem delays_spelled (h : compile t config = .ok g)
    (hstart : ∀ e ∈ t.effects, 0 ≤ e.startTime ∧ e.startTime.isFinite = true) :
    g.filters = (chainsOf t config).map Chain.text
      ∧ (∀ j c s, (chainsOf t config)[j]? = some c → .delay s ∈ c.filters →
          ∃ i e, t.effects[i]? = some e ∧ s = e.startTime
            ∧ j = t.segments.length + 1 + (bedsOf t.beds config).length + i)
      ∧ (∀ i e, t.effects[i]? = some e → Delayed e.startTime
          ∧ g.filters[t.segments.length + 1 + (bedsOf t.beds config).length + i]?
            = some ("[" ++ natText (t.segments.length + (bedsOf t.beds config).length + i)
              ++ ":a]adelay=delays=" ++ text (delayMs e.startTime) ++ ":all=1[sfx" ++ natText (i + 1) ++ "]"))
      ∧ ∀ e ∈ t.effects, ∀ e' ∈ t.effects, e.startTime ≤ e'.startTime →
          delayMs e.startTime ≤ delayMs e'.startTime
            ∧ ∀ n n', text (delayMs e.startTime) = natText n → text (delayMs e'.startTime) = natText n' → n ≤ n' := by
  refine ⟨filters_of_compile h, fun j c s hc hs => ?_, fun i e he => ⟨?_, ?_⟩, fun e he e' he' hle => ⟨?_, ?_⟩⟩
  · exact (stands_iff.1 hc).effect_of_delay hs
  · obtain ⟨hzero, hfinite⟩ := hstart e (List.mem_of_getElem? he)
    obtain ⟨m, q, hs⟩ := exists_holds hzero hfinite
    exact delayed_of_holds hs
  · rw [filter_of_stands h (.effect he), effectChain_text]
  · exact delayMs_mono (hstart e he).1 hle
  · exact fun n n' => digits_mono (hstart e he).1 (hstart e he).2 (hstart e' he').2 hle

/-- A timeline with an effect and a length that are too far away for plain digits. -/
def faraway : Timeline where
  title := "Faraway"
  segments := [⟨.speech "A", "/w/seg_0001_A.wav", 0, 1⟩]
  effects := [⟨"star", "/sfx/star.wav", 1e18⟩, ⟨"owl", "/sfx/owl.wav", 2.5⟩]
  beds := ⟨some "/music/calm.mp3", none⟩
  duration := 1e30

def farawayConfig : ProducerConfig := ⟨"/assets", "/out", ⟨[]⟩, 0, -18, -22⟩

theorem starts_faraway : ∀ e ∈ faraway.effects, 0 ≤ e.startTime ∧ e.startTime.isFinite = true := by
  intro e he
  simp only [faraway, List.mem_cons, List.not_mem_nil, or_false] at he
  rcases he with rfl | rfl <;> decide

theorem delays_spelled_faraway : ∃ g, compile faraway farawayConfig = .ok g ∧ Delayed 2.5 ∧ Delayed 1e18
    ∧ g.filters[4]? = some "[3:a]adelay=delays=2500:all=1[sfx2]"
    ∧ g.filters[3]? = some "[2:a]adelay=delays=1e+21:all=1[sfx1]" ∧ delayMs 2.5 ≤ delayMs 1e18 := by
  obtain ⟨-, -, hfilters, hordered⟩ := @delays_spelled faraway farawayConfig _ rfl starts_faraway
  obtain ⟨howl, howl'⟩ := hfilters 1 _ rfl
  obtain ⟨hstar, hstar'⟩ := hfilters 0 _ rfl
  have htext : text (delayMs 2.5) = "2500" := by decide +kernel
  have htext' : text (delayMs 1e18) = "1e+21" := by decide +kernel
  refine ⟨_, rfl, howl, hstar, howl'.trans ?_, hstar'.trans ?_, ?_⟩
  · exact htext ▸ rfl
  · exact htext' ▸ rfl
  · exact (hordered ⟨"owl", "/sfx/owl.wav", 2.5⟩ (by simp [faraway]) ⟨"star", "/sfx/star.wav", 1e18⟩
      (by simp [faraway]) (by decide)).1

example : text (delayMs (-0)) = "0" := by decide +kernel

/-- For a length that is not negative and finite: what is written for it, and that it stands in the filter of
each bed, and of nothing else, for the length of the timeline. -/
theorem bounds_spelled {x : Float} (hx : 0 ≤ x) (hfinite : x.isFinite = true) :
    Bounded x ∧ ∀ {t config g}, compile t config = .ok g → t.duration = x →
      g.filters = (chainsOf t config).map Chain.text
        ∧ (∀ j c s, (chainsOf t config)[j]? = some c → .trim s ∈ c.filters →
            s = x ∧ ∃ i bed, (bedsOf t.beds config)[i]? = some bed ∧ j = t.segments.length + 1 + i)
        ∧ ∀ i bed, (bedsOf t.beds config)[i]? = some bed →
            g.filters[t.segments.length + 1 + i]?
              = some ("[" ++ natText (t.segments.length + i) ++ ":a]aloop=loop=-1:size=2e+09,volume="
                ++ text bed.gain ++ "dB,atrim=0:" ++ seconds x ++ "[" ++ bed.label.text ++ "]") := by
  refine ⟨?_, ?_⟩
  · obtain ⟨m, q, hs⟩ := exists_holds hx hfinite
    exact (lt_or_ge (value x) (10 ^ 21)).elim (bounded_of_lt hs) (bounded_of_le hs)
  · rintro t config g h rfl
    refine ⟨filters_of_compile h, fun j c s hc hs => ?_, fun i bed hbed => ?_⟩
    · exact (stands_iff.1 hc).bed_of_trim hs
    · rw [filter_of_stands h (.bed hbed), bedChain_text]

theorem bounds_spelled_faraway : Bounded 1e30 ∧ ∃ g, compile faraway farawayConfig = .ok g
    ∧ g.filters[2]? = some "[1:a]aloop=loop=-1:size=2e+09,volume=-18dB,atrim=0:1e+3[music]" := by
  obtain ⟨hbounded, hfilters⟩ := @bounds_spelled 1e30 (by decide +kernel) (by decide +kernel)
  obtain ⟨-, -, hbed⟩ := @hfilters faraway farawayConfig _ rfl rfl
  have hmusic := hbed 0 ⟨.music, "/music/calm.mp3", -18⟩ rfl
  have hgain : text (-18) = "-18" := by decide +kernel
  have hseconds : seconds 1e30 = "1e+3" := by decide +kernel
  rw [hgain, hseconds] at hmusic
  exact ⟨hbounded, _, rfl, hmusic⟩

example : seconds 1.1234567 = "1.123457" := by decide +kernel

end

end StoryMix.Mix
