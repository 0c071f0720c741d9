import StoryMix.Proofs.Numeral.Order
import StoryMix.Proofs.Numeral.Reader
import StoryMix.Script.Parse

/-!
# What a script is read as

A reading that is not refused has read every line, and its events are those of the lines that say
something, in the order of the lines. What holds of every event that a line can be read as therefore
holds of every event of a script: pauses are not negative, and offsets are numbers or infinities. There
are infinities because a numeral may have any exponent.
-/

namespace StoryMix.Script

open Text (trim splitFirst)

variable {strict : Bool}

/-! ## Lines one after the other -/

theorem readLines_cons_eq_ok {n : Nat} {raw : List Char} {rest : List (List Char)}
    {events : List Event} :
    readLines strict n (raw :: rest) = .ok events ↔
      ∃ said later, readLine strict raw = .ok said ∧ readLines strict (n + 1) rest = .ok later
        ∧ events = said.toList ++ later := by
  rw [readLines]
  constructor
  · intro h
    split at h
    · cases h
    · split at h
      · cases h
      · cases h
        exact ⟨_, _, ‹_›, ‹_›, rfl⟩
  · rintro ⟨said, later, hsaid, hlater, rfl⟩
    simp only [hsaid, hlater]

/-- A reading gives the events of its lines, wherever the counting of the lines begins. -/
theorem readLines_eq_ok {n : Nat} {lines : List (List Char)} {events : List Event} :
    readLines strict n lines = .ok events ↔
      ∃ said : List (Option Event), lines.map (readLine strict) = said.map .ok
        ∧ events = said.filterMap id := by
  induction lines generalizing n events with
  | nil =>
      constructor
      · rintro ⟨⟩
        exact ⟨[], rfl, rfl⟩
      · rintro ⟨said, hsaid, rfl⟩
        obtain rfl := List.map_eq_nil_iff.1 hsaid.symm
        rfl
  | cons raw rest ih =>
      rw [readLines_cons_eq_ok]
      constructor
      · rintro ⟨first, later, hfirst, hlater, rfl⟩
        obtain ⟨said, hsaid, rfl⟩ := ih.1 hlater
        refine ⟨first :: said, by rw [List.map_cons, List.map_cons, hfirst, hsaid], ?_⟩
        cases first <;> rfl
      · rintro ⟨said, hsaid, rfl⟩
        obtain ⟨first, later, rfl, hfirst, hlater⟩ := List.map_eq_cons_iff.1 hsaid.symm
        refine ⟨first, later.filterMap id, hfirst.symm, ih.2 ⟨later, hlater.symm, rfl⟩, ?_⟩
        cases first <;> rfl

theorem parse_eq_ok {script : String} {events : List Event} :
    parse strict script = .ok events ↔
      ∃ said : List (Option Event),
        (Text.lines script.toList).map (readLine strict) = said.map .ok
          ∧ events = said.filterMap id :=
  readLines_eq_ok

theorem exists_line_of_mem {script : String} {events : List Event}
    (h : parse strict script = .ok events) {e : Event} (he : e ∈ events) :
    ∃ raw ∈ Text.lines script.toList, readLine strict raw = .ok (some e) := by
  obtain ⟨said, hsaid, rfl⟩ := parse_eq_ok.1 h
  obtain ⟨said₁, hmem, rfl⟩ := List.mem_filterMap.1 he
  have hread : .ok (some e) ∈ (Text.lines script.toList).map (readLine strict) := by
    rw [hsaid]
    exact List.mem_map_of_mem hmem
  exact List.mem_map.1 hread

/-! ## One line -/

/-- A line that says something is of one of four classes. -/
theorem readTrimmed_eq_some {line : List Char} {e : Event}
    (h : readTrimmed strict line = .ok (some e)) :
    (∃ rest, line = '@' :: rest ∧ readDirective rest = .ok e)
      ∨ readPause (afterColon line) = .ok e
      ∨ readEffect strict (afterColon line) = .ok e
      ∨ readUtterance line = .ok e := by
  have some_inj {x : Except LineFault Event} (hx : some <$> x = .ok (some e)) : x = .ok e := by
    cases x with
    | error fault => cases hx
    | ok e' =>
        cases hx
        rfl
  unfold readTrimmed at h
  split at h
  · cases h
  · cases h
  · exact .inl ⟨_, rfl, some_inj h⟩
  · have hline := some_inj h
    split at hline
    · exact .inr (.inl hline)
    · split at hline
      · exact .inr (.inr (.inl hline))
      · exact .inr (.inr (.inr hline))

theorem readDirective_eq_ok {line : List Char} {e : Event} (h : readDirective line = .ok e) :
    ∃ key value, splitFirst ':' line = some (key, value)
      ∧ e = .directive (textOf key) (textOf value) := by
  unfold readDirective at h
  split at h
  · cases h
  · cases h
    exact ⟨_, _, ‹_›, rfl⟩

theorem readPause_eq_ok {value : List Char} {e : Event} (h : readPause value = .ok e) :
    ∃ seconds, Numeral.readDecimal (trim value) = some seconds ∧ ¬ seconds < 0
      ∧ e = .pause seconds := by
  unfold readPause at h
  split at h
  · cases h
  · split at h
    · cases h
    · cases h
      exact ⟨_, ‹_›, ‹_›, rfl⟩

theorem readEffect_eq_ok {value : List Char} {e : Event} (h : readEffect strict value = .ok e) :
    ∃ asset tokens p, Text.words value = asset :: tokens
      ∧ Placing.default.readAll strict tokens = .ok p
      ∧ e = .cue (String.ofList asset) p.anchor p.offset := by
  unfold readEffect at h
  split at h
  · cases h
  · split at h
    · cases h
    · cases h
      exact ⟨_, _, _, ‹_›, ‹_›, rfl⟩

theorem readUtterance_eq_ok {line : List Char} {e : Event} (h : readUtterance line = .ok e) :
    ∃ speaker spoken, splitFirst ':' line = some (speaker, spoken)
      ∧ trim speaker ≠ [] ∧ trim spoken ≠ []
      ∧ e = .utterance (textOf speaker) (textOf spoken) := by
  unfold readUtterance at h
  split at h
  · cases h
  · split at h
    · cases h
    · cases h
      rename_i hnone
      exact ⟨_, _, ‹_›, fun hs => hnone (.inl hs), fun hs => hnone (.inr hs), rfl⟩

/-- The event stands in the line, blanks around its parts aside: a speaker before the first colon and
what is spoken after it, a number of seconds, an asset. -/
inductive Writes (raw : List Char) : Event → Prop
  | directive {key value} :
      trim raw = '@' :: (key ++ ':' :: value) → ':' ∉ key →
      Writes raw (.directive (textOf key) (textOf value))
  | pause {seconds} :
      Numeral.readDecimal (trim (afterColon (trim raw))) = some seconds → Writes raw (.pause seconds)
  | cue {asset tokens anchor offset} :
      Text.words (afterColon (trim raw)) = asset :: tokens →
      Writes raw (.cue (String.ofList asset) anchor offset)
  | utterance {speaker spoken} :
      trim raw = speaker ++ ':' :: spoken → ':' ∉ speaker →
      Writes raw (.utterance (textOf speaker) (textOf spoken))

theorem writes_of_readLine {raw : List Char} {e : Event} (h : readLine strict raw = .ok (some e)) :
    Writes raw e := by
  rcases readTrimmed_eq_some h with ⟨rest, hline, h⟩ | h | h | h
  · obtain ⟨key, value, hsplit, rfl⟩ := readDirective_eq_ok h
    obtain ⟨hkey, rfl⟩ := Text.splitFirst_eq_some.1 hsplit
    exact .directive hline hkey
  · obtain ⟨seconds, hread, -, rfl⟩ := readPause_eq_ok h
    exact .pause hread
  · obtain ⟨asset, tokens, p, hwords, -, rfl⟩ := readEffect_eq_ok h
    exact .cue hwords
  · obtain ⟨speaker, spoken, hsplit, -, -, rfl⟩ := readUtterance_eq_ok h
    obtain ⟨hspeaker, hline⟩ := Text.splitFirst_eq_some.1 hsplit
    exact .utterance hline hspeaker

/-! ## The numbers of a script -/

/-- The numbers of the event are such as a script can hold. -/
def Scripted : Event → Prop
  | .pause seconds => 0 ≤ seconds
  | .cue _ _ offset => offset.isNaN = false
  | _ => True

theorem offset_read {p q : Placing} {token : List Char} (h : p.read strict token = .ok q)
    (hp : p.offset.isNaN = false) : q.offset.isNaN = false := by
  unfold Placing.read at h
  split at h
  · split at h
    · cases h
    · cases h
      exact hp
  · split at h
    · split at h
      · cases h
      · cases h
        exact Numeral.readDecimal_not_isNaN ‹_›
    · split at h
      · cases h
      · cases h
        exact hp

theorem offset_readAll {p q : Placing} {tokens : List (List Char)}
    (h : p.readAll strict tokens = .ok q) (hp : p.offset.isNaN = false) :
    q.offset.isNaN = false := by
  induction tokens generalizing p with
  | nil =>
      cases h
      exact hp
  | cons token tokens ih =>
      unfold Placing.readAll at h
      split at h
      · cases h
      · exact ih h (offset_read ‹_› hp)

theorem scripted_of_readTrimmed {line : List Char} {e : Event}
    (h : readTrimmed strict line = .ok (some e)) : Scripted e := by
  rcases readTrimmed_eq_some h with ⟨_, -, h⟩ | h | h | h
  · obtain ⟨_, _, -, rfl⟩ := readDirective_eq_ok h
    trivial
  · obtain ⟨seconds, hread, hnonneg, rfl⟩ := readPause_eq_ok h
    exact Numeral.zero_le_of_not_lt (Numeral.readDecimal_not_isNaN hread) hnonneg
  · obtain ⟨_, _, p, -, hplacing, rfl⟩ := readEffect_eq_ok h
    exact offset_readAll hplacing (by decide)
  · obtain ⟨_, _, -, -, -, rfl⟩ := readUtterance_eq_ok h
    trivial

theorem scripted_of_parse {script : String} {events : List Event}
    (h : parse strict script = .ok events) : ∀ e ∈ events, Scripted e := by
  intro e he
  obtain ⟨raw, -, hread⟩ := exists_line_of_mem h he
  exact scripted_of_readTrimmed hread

end StoryMix.Script
