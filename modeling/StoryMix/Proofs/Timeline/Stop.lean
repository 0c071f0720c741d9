import StoryMix.Proofs.Studio.Calls
import StoryMix.Proofs.Timeline.Take

/-!
# Where a build stops

A walk that gives no answer has walked the events before some event and stopped at that one, at a
check or at a call that failed. `Stops` lists how that can be, one case for each check and each call
of the work on an event; `WalkStops` puts the takes of the events before in front of it and
`BuildStops` what a build does before it walks. `build_eq_error` says that a build which fails has run
the steps named there and then stopped as named there, so that every failure of a build can be told by
cases.
-/

namespace StoryMix

namespace Timeline

/-- How the work on an event stops, when `n` segments have been made: the tools used for it till then,
the call that fails, if it is one, and what is raised. -/
inductive Stops (config : ProducerConfig) (workDir : String) (c : Clock) (n : Nat) :
    Event → List Use → Option Call → Thrown → Prop where
  | reference {speaker text : String} {f : Failure} :
      config.voiceReference speaker = .error f →
      Stops config workDir c n (.utterance speaker text) [] none (.failure f)
  | voice {speaker text reference : String} {e : Thrown} :
      config.voiceReference speaker = .ok reference →
      Stops config workDir c n (.utterance speaker text) []
        (some (.voice ⟨reference, text, speechFile workDir (n + 1) speaker⟩)) e
  | probe {speaker text reference file : String} {e : Thrown} :
      config.voiceReference speaker = .ok reference →
      Stops config workDir c n (.utterance speaker text)
        [.voice ⟨reference, text, speechFile workDir (n + 1) speaker⟩ file] (some (.probe file)) e
  | silence {seconds : Float} {e : Thrown} :
      Stops config workDir c n (.pause seconds) []
        (some (.silence ⟨seconds, silenceRate, "mono", silenceFile workDir (n + 1)⟩)) e
  | anchor {asset : String} {anchor : Anchor} {offset : Float} {f : Failure} :
      c.place anchor offset = .error f →
      Stops config workDir c n (.cue asset anchor offset) [] none (.failure f)
  | asset {asset : String} {anchor : Anchor} {offset startTime : Float} {e : Thrown} :
      c.place anchor offset = .ok startTime →
      Stops config workDir c n (.cue asset anchor offset) []
        (some (.asset config.assetsDir asset)) e

/-- How a walk stops: at its first event, or after a take of that. -/
inductive WalkStops (config : ProducerConfig) (workDir : String) :
    Clock → Nat → List Event → List Step → Option Call → Thrown → Prop where
  | here {c : Clock} {n : Nat} {event : Event} {events : List Event} {uses : List Use}
      {halt : Option Call} {e : Thrown} :
      Stops config workDir c n event uses halt e →
      WalkStops config workDir c n (event :: events) (uses.map .use) halt e
  | later {c : Clock} {n : Nat} {t : Take} {events : List Event} {steps : List Step}
      {halt : Option Call} {e : Thrown} :
      t.Fits config workDir c n →
      WalkStops config workDir (t.after c) (n + t.count) events steps halt e →
      WalkStops config workDir c n (t.event :: events) (t.steps config.assetsDir c ++ steps) halt e

/-- There is narration, and every speaker has a voice reference. -/
structure Checked (config : ProducerConfig) (events : List Event) : Prop where
  narrated : countUtterances events ≠ 0
  speakers : checkSpeakers config events = .ok ()

/-- How a build stops: at the checks that come first, at a bed, or in the walk. -/
inductive BuildStops (config : ProducerConfig) (workDir : String) (events : List Event) :
    List Step → Option Call → Thrown → Prop where
  | narration :
      countUtterances events = 0 →
      BuildStops config workDir events [] none (.failure .emptyDocument)
  | speakers {f : Failure} :
      countUtterances events ≠ 0 →
      checkSpeakers config events = .error f →
      BuildStops config workDir events [] none (.failure f)
  | music {id : String} {e : Thrown} :
      Checked config events →
      nonEmptyDirective? events "music" = some id →
      BuildStops config workDir events [] (some (.asset config.assetsDir id)) e
  | ambience {music : Option String} {id : String} {e : Thrown} :
      Checked config events →
      music.isSome = (nonEmptyDirective? events "music").isSome →
      nonEmptyDirective? events "ambience" = some id →
      BuildStops config workDir events
        ((bedUses config.assetsDir (nonEmptyDirective? events "music") music).map .use)
        (some (.asset config.assetsDir id)) e
  | walk {music ambience : Option String} {steps : List Step} {halt : Option Call} {e : Thrown} :
      Checked config events →
      music.isSome = (nonEmptyDirective? events "music").isSome →
      ambience.isSome = (nonEmptyDirective? events "ambience").isSome →
      WalkStops config workDir .start 0 events steps halt e →
      BuildStops config workDir events
        ((bedUses config.assetsDir (nonEmptyDirective? events "music") music ++
          bedUses config.assetsDir (nonEmptyDirective? events "ambience") ambience).map .use ++ steps)
        halt e

open StoryMix.Action

variable {tools : Tools} {config : ProducerConfig} {workDir : String} {c : Clock} {n : Nat}
  {s s' : Studio} {e : Thrown}

/-! ## One event -/

theorem stops_of_speak {speaker text : String}
    (h : speak tools config workDir c (n + 1) speaker text s = .error e s') :
    ∃ uses halt s₁, Stops config workDir c n (.utterance speaker text) uses halt e ∧
      Runs tools (uses.map .use) s s₁ ∧ Halts tools s₁ halt e s' := by
  rcases bind_eq_error h with h | ⟨reference, s₁, hcheck, h⟩
  · obtain ⟨f, href, rfl, rfl⟩ := exists_failure_of_ofExcept h
    exact ⟨[], none, _, .reference href, rfl, .check f⟩
  obtain ⟨href, rfl⟩ := ofExcept_eq_ok.1 hcheck
  rcases bind_eq_error h with h | ⟨file, s₁, hvoice, h⟩
  · exact ⟨[], _, s, .voice href, rfl, .call h⟩
  rcases bind_eq_error h with h | ⟨duration, s₂, -, h⟩
  · exact ⟨[_], _, s₁, .probe href, ⟨s₁, hvoice, rfl⟩, .call h⟩
  rcases bind_eq_error h with h | ⟨_, s₃, -, h⟩
  · cases h
  · cases h

theorem stops_of_rest {seconds : Float}
    (h : rest tools workDir c (n + 1) seconds s = .error e s') :
    ∃ uses halt s₁, Stops config workDir c n (.pause seconds) uses halt e ∧
      Runs tools (uses.map .use) s s₁ ∧ Halts tools s₁ halt e s' := by
  rcases bind_eq_error h with h | ⟨file, s₁, -, h⟩
  · exact ⟨[], _, s, .silence, rfl, .call h⟩
  · cases h

theorem stops_of_cue {asset : String} {anchor : Anchor} {offset : Float}
    (h : cue tools config c asset anchor offset s = .error e s') :
    ∃ uses halt s₁, Stops config workDir c n (.cue asset anchor offset) uses halt e ∧
      Runs tools (uses.map .use) s s₁ ∧ Halts tools s₁ halt e s' := by
  rcases bind_eq_error h with h | ⟨startTime, s₁, hcheck, h⟩
  · obtain ⟨f, hplace, rfl, rfl⟩ := exists_failure_of_ofExcept h
    exact ⟨[], none, _, .anchor hplace, rfl, .check f⟩
  obtain ⟨hplace, rfl⟩ := ofExcept_eq_ok.1 hcheck
  rcases bind_eq_error h with h | ⟨file, s₁, -, h⟩
  · exact ⟨[], _, s, .asset hplace, rfl, .call h⟩
  rcases bind_eq_error h with h | ⟨_, s₂, -, h⟩
  · cases h
  · cases h

/-! ## The walk -/

/-- The work on the first event fails, or there is a take of it and the walk of the others fails. One
case per kind of event, as in `walk_cons_eq_ok`. -/
theorem walk_cons_eq_error {event : Event} {events : List Event}
    (h : walk tools config workDir c n (event :: events) s = .error e s') :
    (∃ uses halt s₁, Stops config workDir c n event uses halt e ∧
      Runs tools (uses.map .use) s s₁ ∧ Halts tools s₁ halt e s') ∨
    ∃ (t : Take) (s₁ : Studio), t.event = event ∧ t.Fits config workDir c n ∧
      Runs tools (t.steps config.assetsDir c) s s₁ ∧
      walk tools config workDir (t.after c) (n + t.count) events s₁ = .error e s' := by
  cases event with
  | utterance speaker text =>
      rcases bind_eq_error h with h | ⟨⟨segment, next⟩, s₁, hspeak, h⟩
      · exact .inl (stops_of_speak h)
      obtain ⟨reference, file, duration, href, hruns, -, rfl⟩ := speak_eq_ok.1 hspeak
      rcases bind_eq_error h with h | ⟨track, s₂, -, h⟩
      · exact .inr ⟨.speech speaker ⟨reference, text, _⟩ file duration, s₁, rfl, ⟨href, rfl⟩, hruns, h⟩
      · cases h
  | pause seconds =>
      rcases bind_eq_error h with h | ⟨⟨segment, next⟩, s₁, hrest, h⟩
      · exact .inl (stops_of_rest h)
      obtain ⟨file, hruns, -, rfl⟩ := (rest_eq_ok config.assetsDir).1 hrest
      rcases bind_eq_error h with h | ⟨track, s₂, -, h⟩
      · exact .inr ⟨.silence ⟨seconds, _, _, _⟩ file, s₁, rfl, rfl, hruns, h⟩
      · cases h
  | cue asset anchor offset =>
      rcases bind_eq_error h with h | ⟨effect, s₁, hcue, h⟩
      · exact .inl (stops_of_cue h)
      obtain ⟨startTime, file, hplace, hruns, -⟩ := cue_eq_ok.1 hcue
      rcases bind_eq_error h with h | ⟨track, s₂, -, h⟩
      · exact .inr ⟨.effect asset anchor offset startTime file, s₁, rfl, hplace, hruns, h⟩
      · cases h
  | directive key value => exact .inr ⟨.directive key value, s, rfl, trivial, rfl, h⟩
  | other kind => exact .inr ⟨.other kind, s, rfl, trivial, rfl, h⟩

theorem walk_eq_error {events : List Event}
    (h : walk tools config workDir c n events s = .error e s') :
    ∃ steps halt s₁, WalkStops config workDir c n events steps halt e ∧
      Runs tools steps s s₁ ∧ Halts tools s₁ halt e s' := by
  induction events generalizing c n s with
  | nil => cases h
  | cons event events ih =>
      rcases walk_cons_eq_error h with ⟨uses, halt, s₁, hstops, hruns, hhalts⟩ |
        ⟨t, s₁, rfl, hfits, hruns, h⟩
      · exact ⟨_, halt, s₁, .here hstops, hruns, hhalts⟩
      · obtain ⟨steps, halt, s₂, hstops, hrest, hhalts⟩ := ih h
        exact ⟨_, halt, s₂, .later hfits hstops, runs_append.2 ⟨s₁, hruns, hrest⟩, hhalts⟩

/-! ## The build -/

theorem resolveBed_eq_error {events : List Event} {key : String}
    (h : resolveBed tools config events key s = .error e s') :
    ∃ id, nonEmptyDirective? events key = some id ∧
      (Call.asset config.assetsDir id).Fails tools e s s' := by
  unfold resolveBed at h
  cases hkey : nonEmptyDirective? events key with
  | none =>
      rw [hkey] at h
      cases h
  | some id =>
      rw [hkey] at h
      refine ⟨id, rfl, ?_⟩
      change EStateM.map some (tools.asset config.assetsDir id) s = _ at h
      unfold EStateM.map at h
      show tools.asset config.assetsDir id s = .error e s'
      cases hasset : tools.asset config.assetsDir id s with
      | ok file s₁ =>
          rw [hasset] at h
          cases h
      | error e₁ s₁ =>
          rw [hasset] at h
          cases h
          rfl

/-- A build that fails has run some steps and then stopped, as told by one case of `BuildStops`. -/
theorem build_eq_error {events : List Event}
    (h : build tools config workDir events s = .error e s') :
    ∃ steps halt s₁, BuildStops config workDir events steps halt e ∧
      Runs tools steps s s₁ ∧ Halts tools s₁ halt e s' := by
  unfold build at h
  dsimp only at h
  split at h
  · rename_i hcount
    cases h
    exact ⟨[], none, s, .narration hcount, rfl, .check _⟩
  rename_i hcount
  rcases bind_eq_error h with h | ⟨_, s₁, hcheck, h⟩
  · obtain ⟨f, hspeakers, rfl, rfl⟩ := exists_failure_of_ofExcept h
    exact ⟨[], none, _, .speakers hcount hspeakers, rfl, .check f⟩
  obtain ⟨hspeakers, rfl⟩ := ofExcept_eq_ok.1 hcheck
  have hchecked : Checked config events := Checked.mk hcount hspeakers
  rcases bind_eq_error h with h | ⟨beds, s₁, hbeds, h⟩
  · rcases bind_eq_error h with h | ⟨music, s₁, hmusic, h⟩
    · obtain ⟨id, hid, hfails⟩ := resolveBed_eq_error h
      exact ⟨[], _, s, .music hchecked hid, rfl, .call hfails⟩
    obtain ⟨hsome, hruns⟩ := resolveBed_eq_ok.1 hmusic
    rcases bind_eq_error h with h | ⟨ambience, s₂, -, h⟩
    · obtain ⟨id, hid, hfails⟩ := resolveBed_eq_error h
      exact ⟨_, _, s₁, .ambience hchecked hsome hid, hruns, .call hfails⟩
    · cases h
  rcases bind_eq_error h with h | ⟨track, s₂, -, h⟩
  · obtain ⟨music, s₂, hmusic, hbeds⟩ := bind_eq_ok.1 hbeds
    obtain ⟨ambience, s₃, hambience, hbeds⟩ := bind_eq_ok.1 hbeds
    obtain ⟨-, rfl⟩ := pure_eq_ok.1 hbeds
    obtain ⟨hmusic, hruns₁⟩ := resolveBed_eq_ok.1 hmusic
    obtain ⟨hambience, hruns₂⟩ := resolveBed_eq_ok.1 hambience
    obtain ⟨steps, halt, s₄, hstops, hruns₃, hhalts⟩ := walk_eq_error h
    refine ⟨_, halt, s₄, .walk hchecked hmusic hambience hstops, ?_, hhalts⟩
    rw [List.map_append]
    exact runs_append.2 ⟨s₃, runs_append.2 ⟨s₂, hruns₁, hruns₂⟩, hruns₃⟩
  · rcases bind_eq_error h with h | ⟨_, _, -, h⟩
    · cases h
    · cases h

end Timeline

end StoryMix
