import StoryMix.Proofs.Script.Parse
import StoryMix.Proofs.Timeline.Effects
import StoryMix.Proofs.Timeline.Narration

/-!
# The clamp at zero

An effect stands at the greater of zero and its anchor's time plus its offset. That is a time from
zero on unless the sum is not a number. In a script that happens in one way only: the narration before
the anchor goes on for ever, and the offset is minus infinity. Both can be written down, since a numeral
with a large exponent is read as an infinity.
-/

namespace StoryMix.Timeline

theorem exists_cut_of_lt_countP {α : Type} {p : α → Bool} {xs : List α} {i : Nat}
    (h : i < xs.countP p) :
    ∃ before x after, xs = before ++ x :: after ∧ p x = true ∧ before.countP p = i := by
  induction xs generalizing i with
  | nil => cases h
  | cons x xs ih =>
      by_cases hx : p x = true
      · cases i with
        | zero => exact ⟨[], x, xs, rfl, hx, rfl⟩
        | succ i =>
            rw [List.countP_cons_of_pos hx] at h
            obtain ⟨before, y, after, rfl, hy, hcount⟩ := ih (Nat.lt_of_succ_lt_succ h)
            refine ⟨x :: before, y, after, rfl, hy, ?_⟩
            rw [List.countP_cons_of_pos hx, hcount]
      · rw [List.countP_cons_of_neg hx] at h
        obtain ⟨before, y, after, rfl, hy, hcount⟩ := ih h
        refine ⟨x :: before, y, after, rfl, hy, ?_⟩
        rw [List.countP_cons_of_neg hx, hcount]

theorem zero_le_lookBack {segments : List Segment} {anchor : Anchor} {time : Float}
    (hsegments : ∀ a ∈ segments, 0 ≤ a.startTime ∧ a.startTime ≤ a.endTime)
    (h : lookBack segments anchor = some time) : 0 ≤ time := by
  have hend : 0 ≤ endOf segments := by
    unfold endOf
    cases hlast : segments.getLast? with
    | none => decide
    | some a =>
        obtain ⟨hstart, hle⟩ := hsegments a (List.mem_of_getLast? hlast)
        exact Numeral.le_trans hstart hle
  have hstart : 0 ≤ lastSpeechStart segments := by
    unfold lastSpeechStart
    cases hlast : (segments.filter Segment.isSpeech).getLast? with
    | none => decide
    | some a => exact (hsegments a (List.mem_filter.1 (List.mem_of_getLast? hlast)).1).1
  cases anchor with
  | now | lastEnd | lastStart => cases h; assumption
  | other name => cases h

variable {tools : Tools} {config : ProducerConfig} {workDir : String} {events : List Event}
  {s s' : Studio}

/-- Where an effect of a script stands: not before the beginning, unless its anchor is infinitely late
and its offset infinitely early. -/
theorem zero_le_startTime_iff {script : String} {strict : Bool} {t : Timeline}
    (hparse : Script.parse strict script = .ok events)
    (hprobe : ∀ file s₁ duration s₂, tools.probe file s₁ = .ok duration s₂ → 0 ≤ duration)
    (h : build tools config workDir events s = .ok t s') :
    ∀ (i : Nat) (hi : i < t.effects.length), ∃ before asset anchor offset after time,
      events = before ++ .cue asset anchor offset :: after
        ∧ before.countP Event.isCue = i
        ∧ lookBack (t.segments.take (before.countP Event.isNarrated)) anchor = some time
        ∧ (0 ≤ t.effects[i].startTime
            ↔ ¬ (time.isInf = true ∧ offset.isInf = true ∧ offset < 0)) := by
  intro i hi
  have hscripted := Script.scripted_of_parse hparse
  have hsegments : ∀ a ∈ t.segments, 0 ≤ a.startTime ∧ a.startTime ≤ a.endTime := by
    obtain ⟨r, rfl, -, hruns, rfl⟩ := build_eq_ok_iff.1 h
    exact zero_le_startTime (zero_le_of_mem_lengths hprobe (fun _ => hscripted _) hruns)
  obtain ⟨-, -, beds, track, s₁, s₂, -, hwalk, rfl, -⟩ := build_eq_ok.1 h
  rw [length_effects_of_walk hwalk] at hi
  obtain ⟨before, e, after, rfl, hcue, rfl⟩ := exists_cut_of_lt_countP hi
  cases e with
  | cue asset anchor offset =>
      obtain ⟨first, _, _, time, file, -, hfirst, htime, -, heffect⟩ := effect_of_walk hwalk
      have hoffset : offset.isNaN = false :=
        hscripted (.cue asset anchor offset) (List.mem_append_right _ (List.mem_cons_self ..))
      rw [hfirst] at htime
      refine ⟨before, asset, anchor, offset, after, time, rfl, rfl, htime, ?_⟩
      have htime_nonneg : 0 ≤ time :=
        zero_le_lookBack (fun a ha => hsegments a (List.mem_of_mem_take ha)) htime
      rw [(List.getElem_eq_iff _).2 heffect, Numeral.zero_le_atLeastZero, Bool.eq_false_iff]
      exact not_congr (Numeral.isNaN_add_iff htime_nonneg hoffset)
  | directive | utterance | pause | other => cases hcue

/-- After a pause without end an effect can be asked for infinitely much earlier. It then stands
nowhere. -/
theorem zero_le_startTime_iff_endless_pause :
    ∃ (events : List Event) (t : Timeline) (s' : Studio),
      Script.parse false "Ruby: Hello\nPAUSE: 1e400\nSFX: chime offset=-1e400" = .ok events
        ∧ build .prompt (.soloist "Ruby" "/ruby.wav") "/tmp/w" events .empty = .ok t s'
        ∧ ∃ hi : 0 < t.effects.length, ¬ (0 : Float) ≤ t.effects[0].startTime := by
  have hparse : Script.parse false "Ruby: Hello\nPAUSE: 1e400\nSFX: chime offset=-1e400"
      = .ok [.utterance "Ruby" "Hello", .pause (1 / 0), .cue "chime" .lastEnd (-(1 / 0))] := by
    decide +kernel
  have hprobe : ∀ file s₁ d s₂, Tools.prompt.probe file s₁ = .ok d s₂ → 0 ≤ d := by
    rintro _ _ _ _ ⟨⟩
    decide
  obtain ⟨t, s', h, hi, hsegments⟩ : ∃ t s', build .prompt (.soloist "Ruby" "/ruby.wav") "/tmp/w"
        [.utterance "Ruby" "Hello", .pause (1 / 0), .cue "chime" .lastEnd (-(1 / 0))] .empty
          = .ok t s'
      ∧ 0 < t.effects.length ∧ endOf (t.segments.take 2) = 0 + 1 + 1 / 0 :=
    ⟨_, _, rfl, Nat.zero_lt_one, rfl⟩
  refine ⟨_, t, s', hparse, h, hi, ?_⟩
  obtain ⟨before, asset, anchor, offset, after, time, hevents, hcount, htime, hiff⟩ :=
    zero_le_startTime_iff hparse hprobe h 0 hi
  rcases before with _ | ⟨_, _ | ⟨_, _ | ⟨_, before⟩⟩⟩
  · cases hevents
  · cases hevents
  · obtain ⟨⟩ := hevents
    obtain rfl : endOf (t.segments.take 2) = time := Option.some.inj htime
    rw [hiff, hsegments]
    decide
  · cases before <;> cases hevents

end StoryMix.Timeline
