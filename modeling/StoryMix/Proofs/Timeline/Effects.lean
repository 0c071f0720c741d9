import StoryMix.Proofs.Timeline.Track

/-!
# The effects of a timeline

An effect is placed by a clock that goes along with the events. What the clock says can be read off
the segments made so far as well: `now` and `last_end` are the end of the last segment, `last_start`
is the start of the last segment that is spoken, and both are zero where there is no such segment.
The invariant is that the clock is `clockOf` the segments; pauses, directives and other effects may
stand between.
-/

namespace StoryMix

def Segment.isSpeech (segment : Segment) : Bool :=
  segment.kind ≠ .silence

namespace Timeline

/-- The end of the last segment. -/
def endOf (segments : List Segment) : Float :=
  (segments.getLast?.map Segment.endTime).getD 0

/-- The start of the last segment that is spoken. -/
def lastSpeechStart (segments : List Segment) : Float :=
  ((segments.filter Segment.isSpeech).getLast?.map Segment.startTime).getD 0

/-- The time that an anchor has after these segments. -/
def lookBack (segments : List Segment) : Anchor → Option Float
  | .now => some (endOf segments)
  | .lastEnd => some (endOf segments)
  | .lastStart => some (lastSpeechStart segments)
  | .other _ => none

def clockOf (segments : List Segment) : Clock :=
  ⟨endOf segments, lastSpeechStart segments, endOf segments⟩

theorem endOf_concat (segments : List Segment) (a : Segment) :
    endOf (segments ++ [a]) = a.endTime := by
  simp [endOf]

theorem lastSpeechStart_concat (segments : List Segment) (a : Segment) :
    lastSpeechStart (segments ++ [a])
      = if a.isSpeech then a.startTime else lastSpeechStart segments := by
  unfold lastSpeechStart
  by_cases ha : a.isSpeech <;> simp [ha]

/-- One event later the clock is read off one segment more, if the event makes one. -/
theorem after_clockOf (segments : List Segment) (t : Take) :
    t.after (clockOf segments)
      = clockOf (segments ++ (t.segment? (clockOf segments)).toList) := by
  cases t with
  | speech | silence =>
      simp only [Take.segment?, Option.toList_some, clockOf, endOf_concat, lastSpeechStart_concat]
      rfl
  | effect | directive | other => exact congrArg clockOf (List.append_nil segments).symm

theorem clock_trackOf (segments : List Segment) (takes : List Take) :
    (trackOf (clockOf segments) takes).clock
      = clockOf (segments ++ (trackOf (clockOf segments) takes).segments) := by
  induction takes generalizing segments with
  | nil => exact congrArg clockOf (List.append_nil segments).symm
  | cons t ts ih => simp only [trackOf, Take.onto, after_clockOf, ih, List.append_assoc]

theorem place_clockOf_eq_ok {segments : List Segment} {anchor : Anchor} {offset startTime : Float} :
    (clockOf segments).place anchor offset = .ok startTime ↔
      ∃ time, lookBack segments anchor = some time
        ∧ startTime = Numeral.atLeastZero (time + offset) := by
  cases anchor with
  | now | lastStart | lastEnd =>
      constructor
      · rintro ⟨⟩
        exact ⟨_, rfl, rfl⟩
      · rintro ⟨_, ⟨⟩, rfl⟩
        rfl
  | other name => exact iff_of_false nofun nofun

section Walk

variable {tools : Tools} {config : ProducerConfig} {workDir : String} {events : List Event}
  {track : Track} {s s' : Studio}

theorem clock_of_walk (h : walk tools config workDir .start 0 events s = .ok track s') :
    track.clock = clockOf track.segments := by
  obtain ⟨takes, -, -, -, rfl⟩ := walk_eq_ok_iff.1 h
  exact clock_trackOf [] takes

theorem length_segments_of_walk {c : Clock} {n : Nat}
    (h : walk tools config workDir c n events s = .ok track s') :
    track.segments.length = events.countP Event.isNarrated := by
  obtain ⟨takes, rfl, -, -, rfl⟩ := walk_eq_ok_iff.1 h
  exact length_segments c takes

theorem length_effects_of_walk {c : Clock} {n : Nat}
    (h : walk tools config workDir c n events s = .ok track s') :
    track.effects.length = events.countP Event.isCue := by
  obtain ⟨takes, rfl, -, -, rfl⟩ := walk_eq_ok_iff.1 h
  rw [effects_trackOf, length_filterMap_placement?]

theorem effect_of_walk {before after : List Event} {asset : String} {anchor : Anchor}
    {offset : Float}
    (h : walk tools config workDir .start 0 (before ++ .cue asset anchor offset :: after) s
      = .ok track s') :
    ∃ (first : Track) (s₁ s₂ : Studio) (time : Float) (file : String),
      walk tools config workDir .start 0 before s = .ok first s₁
        ∧ first.segments = track.segments.take (before.countP Event.isNarrated)
        ∧ lookBack first.segments anchor = some time
        ∧ tools.asset config.assetsDir asset s₁ = .ok file s₂
        ∧ track.effects[before.countP Event.isCue]?
            = some ⟨asset, file, Numeral.atLeastZero (time + offset)⟩ := by
  obtain ⟨first, rest, s₁, hfirst, hrest, rfl⟩ := walk_append_eq_ok.1 h
  obtain ⟨t, _, tail, hevent, hfits, hruns, -, rfl⟩ := walk_cons_eq_ok.1 hrest
  obtain ⟨startTime, file, rfl⟩ := Take.eq_effect hevent
  obtain ⟨s₂, hasset, -⟩ := hruns
  rw [clock_of_walk hfirst] at hfits
  obtain ⟨time, htime, rfl⟩ := place_clockOf_eq_ok.1 hfits
  refine ⟨first, s₁, s₂, time, file, hfirst, ?_, htime, hasset, ?_⟩
  · rw [← length_segments_of_walk hfirst]
    exact (List.take_left ..).symm
  · rw [← length_effects_of_walk hfirst]
    simp [Track.append, Take.onto, Take.placement?]

/-- A timeline has one effect for each cue, in the order of the cues. Where it stands is told by the
anchor and the segments that the events before the cue have made, and its file is what was found when
these had been walked. -/
theorem effects_of_build {t : Timeline}
    (h : build tools config workDir events s = .ok t s') :
    t.effects.length = events.countP Event.isCue
      ∧ ∀ before asset anchor offset after, events = before ++ .cue asset anchor offset :: after →
          ∃ (first : Track) (s₀ s₁ s₂ : Studio) (time : Float) (file : String),
            resolveBeds tools config events s = .ok t.beds s₀
              ∧ walk tools config workDir .start 0 before s₀ = .ok first s₁
              ∧ first.segments = t.segments.take (before.countP Event.isNarrated)
              ∧ lookBack first.segments anchor = some time
              ∧ tools.asset config.assetsDir asset s₁ = .ok file s₂
              ∧ t.effects[before.countP Event.isCue]?
                  = some ⟨asset, file, Numeral.atLeastZero (time + offset)⟩ := by
  obtain ⟨-, -, beds, track, s₀, s₁, hbeds, hwalk, rfl, -⟩ := build_eq_ok.1 h
  refine ⟨length_effects_of_walk hwalk, ?_⟩
  rintro before asset anchor offset after rfl
  obtain ⟨first, s₂, s₃, time, file, hfirst⟩ := effect_of_walk hwalk
  exact ⟨first, s₀, s₂, s₃, time, file, hbeds, hfirst⟩

/-- The chime stands at the start of what was spoken before the pause, plus its offset. -/
theorem effects_of_build_across_pause :
    ∃ t s', build .prompt (.soloist "Ruby" "/ruby.wav") "/tmp/w"
        [.utterance "Ruby" "One", .utterance "Ruby" "Two", .pause 2, .cue "chime" .lastStart 3]
        .empty = .ok t s'
      ∧ t.effects.length = 1
      ∧ ∃ time file, lookBack (t.segments.take 3) .lastStart = some time
          ∧ t.effects[0]? = some ⟨"chime", file, Numeral.atLeastZero (time + 3)⟩ := by
  obtain ⟨t, s', h⟩ : ∃ t s', build .prompt (.soloist "Ruby" "/ruby.wav") "/tmp/w"
        [.utterance "Ruby" "One", .utterance "Ruby" "Two", .pause 2, .cue "chime" .lastStart 3]
        .empty = .ok t s' := ⟨_, _, rfl⟩
  obtain ⟨hlength, hcues⟩ := effects_of_build h
  obtain ⟨first, -, -, -, time, file, -, -, hfirst, htime, -, heffect⟩ :=
    hcues [.utterance "Ruby" "One", .utterance "Ruby" "Two", .pause 2] "chime" .lastStart 3 [] rfl
  exact ⟨t, s', h, hlength, time, file, hfirst ▸ htime, heffect⟩

end Walk

end Timeline

end StoryMix
