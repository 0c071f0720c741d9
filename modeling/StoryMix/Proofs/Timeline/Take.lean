import StoryMix.Proofs.Studio.Run
import StoryMix.Timeline.Build

/-!
# Takes

A walk over events with all that depends on the tools set apart. A take is an event together with
what the tools were asked and what they answered for it; from the takes alone follow the steps of the
walk, its segments, its effects and its clock. `walk_eq_ok_iff` and `build_eq_ok_iff` say that a walk
and a build give an answer just when there are takes of their events whose steps can be run, and then
the answer is what the takes say. What is claimed of a timeline is proved of takes.
-/

namespace StoryMix.Timeline

/-- What became of an event: what the tools were asked for it and what they answered. -/
inductive Take where
  | speech (speaker : String) (request : SynthesisRequest) (file : String) (duration : Float)
  | silence (request : SilenceRequest) (file : String)
  | effect (asset : String) (anchor : Anchor) (offset startTime : Float) (file : String)
  | directive (key value : String)
  | other (kind : String)

namespace Take

def event : Take → Event
  | speech speaker request _ _ => .utterance speaker request.text
  | silence request _ => .pause request.seconds
  | effect asset anchor offset _ _ => .cue asset anchor offset
  | directive key value => .directive key value
  | other kind => .other kind

/-- How the tools were used for it. Assets are looked for below `root`. -/
def uses (root : String) : Take → List Use
  | speech _ request file duration => [.voice request file, .probe file duration]
  | silence request file => [.silence request file]
  | effect asset _ _ _ file => [.asset root asset file]
  | _ => []

/-- How long the narration goes on for it, if it is part of the narration. -/
def length? : Take → Option Float
  | speech _ _ _ duration => some duration
  | silence request _ => some request.seconds
  | _ => none

def after (c : Clock) : Take → Clock
  | speech _ _ _ duration => c.afterUtterance duration
  | silence request _ => c.afterPause request.seconds
  | _ => c

def segment? (c : Clock) : Take → Option Segment
  | speech speaker _ file duration =>
    some ⟨.speech speaker, file, c.currentTime, (c.afterUtterance duration).currentTime⟩
  | silence request file =>
    some ⟨.silence, file, c.currentTime, (c.afterPause request.seconds).currentTime⟩
  | _ => none

def placement? : Take → Option Placement
  | effect asset _ _ startTime file => some ⟨asset, file, startTime⟩
  | _ => none

def count (t : Take) : Nat :=
  if t.length?.isSome then 1 else 0

def entries (c : Clock) : Take → List LogEntry
  | speech speaker _ _ duration =>
    [⟨.debug, "Timeline: " ++ speaker ++ " " ++ timeText c.currentTime ++ " -> " ++
      timeText (c.afterUtterance duration).currentTime, []⟩]
  | effect asset anchor offset startTime _ =>
    [⟨.debug, "Timeline: SFX " ++ asset ++ " at " ++ timeText startTime ++ " (" ++ anchor.name ++
      offsetText offset ++ ")", []⟩]
  | _ => []

def steps (root : String) (c : Clock) (t : Take) : List Step :=
  (t.uses root).map .use ++ (t.entries c).map .log

/-- The requests are those of the event: segment `n + 1` is asked for, with the voice that is
configured for the speaker, and an effect stands where the clock places it. -/
def Fits (config : ProducerConfig) (workDir : String) (c : Clock) (n : Nat) : Take → Prop
  | speech speaker request _ _ =>
    config.voiceReference speaker = .ok request.voiceReference
      ∧ request.outputPath = speechFile workDir (n + 1) speaker
  | silence request _ =>
    request = ⟨request.seconds, silenceRate, "mono", silenceFile workDir (n + 1)⟩
  | effect _ anchor offset startTime _ => c.place anchor offset = .ok startTime
  | _ => True

def onto (c : Clock) (t : Take) (rest : Track) : Track :=
  ⟨(t.segment? c).toList ++ rest.segments, t.placement?.toList ++ rest.effects, rest.clock⟩

end Take

/-! ## Takes one after the other -/

def trackOf (c : Clock) : List Take → Track
  | [] => ⟨[], [], c⟩
  | t :: ts => t.onto c (trackOf (t.after c) ts)

def stepsOf (root : String) (c : Clock) : List Take → List Step
  | [] => []
  | t :: ts => t.steps root c ++ stepsOf root (t.after c) ts

/-- The takes fit their events when `n` segments have been made. -/
def AllFit (config : ProducerConfig) (workDir : String) (c : Clock) (n : Nat) : List Take → Prop
  | [] => True
  | t :: ts => t.Fits config workDir c n ∧ AllFit config workDir (t.after c) (n + t.count) ts

section Walk

open StoryMix.Action

variable {tools : Tools} {config : ProducerConfig} {workDir : String} {c : Clock} {n : Nat}
  {s s' : Studio}

theorem speak_eq_ok {speaker text : String} {segment : Segment} {next : Clock} :
    speak tools config workDir c n speaker text s = .ok (segment, next) s' ↔
      ∃ reference file duration, config.voiceReference speaker = .ok reference
        ∧ Runs tools ((Take.speech speaker ⟨reference, text, speechFile workDir n speaker⟩ file
            duration).steps config.assetsDir c) s s'
        ∧ segment = ⟨.speech speaker, file, c.currentTime, (c.afterUtterance duration).currentTime⟩
        ∧ next = c.afterUtterance duration := by
  simp only [speak, bind_eq_ok, ofExcept_eq_ok, debug, say_eq_ok, pure_eq_ok, Prod.mk.injEq]
  constructor
  · rintro ⟨reference, s₁, ⟨href, rfl⟩, file, s₂, hvoice, duration, s₃, hprobe, -, s₄, hlog,
      ⟨rfl, rfl⟩, rfl⟩
    exact ⟨reference, file, duration, href, ⟨s₂, hvoice, s₃, hprobe, s₄, hlog, rfl⟩, rfl, rfl⟩
  · rintro ⟨reference, file, duration, href, ⟨s₂, hvoice, s₃, hprobe, s₄, hlog, rfl⟩, rfl, rfl⟩
    exact ⟨reference, s, ⟨href, rfl⟩, file, s₂, hvoice, duration, s₃, hprobe, (), s₄, hlog,
      ⟨rfl, rfl⟩, rfl⟩

theorem rest_eq_ok (root : String) {seconds : Float} {segment : Segment} {next : Clock} :
    rest tools workDir c n seconds s = .ok (segment, next) s' ↔
      ∃ file, Runs tools ((Take.silence ⟨seconds, silenceRate, "mono", silenceFile workDir n⟩
            file).steps root c) s s'
        ∧ segment = ⟨.silence, file, c.currentTime, (c.afterPause seconds).currentTime⟩
        ∧ next = c.afterPause seconds := by
  simp only [rest, bind_eq_ok, pure_eq_ok, Prod.mk.injEq]
  constructor
  · rintro ⟨file, s₁, hsilence, ⟨rfl, rfl⟩, rfl⟩
    exact ⟨file, ⟨s₁, hsilence, rfl⟩, rfl, rfl⟩
  · rintro ⟨file, ⟨s₁, hsilence, rfl⟩, rfl, rfl⟩
    exact ⟨file, s₁, hsilence, ⟨rfl, rfl⟩, rfl⟩

theorem cue_eq_ok {asset : String} {anchor : Anchor} {offset : Float} {placement : Placement} :
    cue tools config c asset anchor offset s = .ok placement s' ↔
      ∃ startTime file, c.place anchor offset = .ok startTime
        ∧ Runs tools ((Take.effect asset anchor offset startTime file).steps config.assetsDir c) s s'
        ∧ placement = ⟨asset, file, startTime⟩ := by
  simp only [cue, bind_eq_ok, ofExcept_eq_ok, debug, say_eq_ok, pure_eq_ok]
  constructor
  · rintro ⟨startTime, s₁, ⟨hplace, rfl⟩, file, s₂, hasset, -, s₃, hlog, rfl, rfl⟩
    exact ⟨startTime, file, hplace, ⟨s₂, hasset, s₃, hlog, rfl⟩, rfl⟩
  · rintro ⟨startTime, file, hplace, ⟨s₂, hasset, s₃, hlog, rfl⟩, rfl⟩
    exact ⟨startTime, s, ⟨hplace, rfl⟩, file, s₂, hasset, (), s₃, hlog, rfl, rfl⟩

/-- The walk of one event and of those after it: a take of the event, and what follows goes on from
the clock after it. One case per kind of event; every other fact about a walk is an induction over
this one. -/
theorem walk_cons_eq_ok {e : Event} {es : List Event} {track : Track} :
    walk tools config workDir c n (e :: es) s = .ok track s' ↔
      ∃ (t : Take) (s₁ : Studio) (rest : Track), t.event = e ∧ t.Fits config workDir c n
        ∧ Runs tools (t.steps config.assetsDir c) s s₁
        ∧ walk tools config workDir (t.after c) (n + t.count) es s₁ = .ok rest s'
        ∧ track = t.onto c rest := by
  cases e with
  | utterance speaker text =>
      simp only [walk, bind_eq_ok, pure_eq_ok, Prod.exists, speak_eq_ok]
      constructor
      · rintro ⟨segment, next, s₁, ⟨reference, file, duration, href, hruns, rfl, rfl⟩, rest, s₂,
          hrest, rfl, rfl⟩
        exact ⟨.speech speaker ⟨reference, text, _⟩ file duration, s₁, rest, rfl, ⟨href, rfl⟩, hruns,
          hrest, rfl⟩
      · rintro ⟨t, s₁, rest, hevent, hfits, hruns, hrest, rfl⟩
        cases t <;> cases hevent
        rename_i request file duration
        obtain ⟨reference, text, path⟩ := request
        obtain ⟨href, rfl⟩ := hfits
        exact ⟨_, _, s₁, ⟨reference, file, duration, href, hruns, rfl, rfl⟩, rest, s', hrest, rfl,
          rfl⟩
  | pause seconds =>
      simp only [walk, bind_eq_ok, pure_eq_ok, Prod.exists, rest_eq_ok config.assetsDir]
      constructor
      · rintro ⟨segment, next, s₁, ⟨file, hruns, rfl, rfl⟩, rest, s₂, hrest, rfl, rfl⟩
        exact ⟨.silence ⟨seconds, _, _, _⟩ file, s₁, rest, rfl, rfl, hruns, hrest, rfl⟩
      · rintro ⟨t, s₁, rest, hevent, hfits, hruns, hrest, rfl⟩
        cases t <;> cases hevent
        rename_i request file
        obtain ⟨seconds, rate, layout, path⟩ := request
        cases hfits
        exact ⟨_, _, s₁, ⟨file, hruns, rfl, rfl⟩, rest, s', hrest, rfl, rfl⟩
  | cue asset anchor offset =>
      simp only [walk, bind_eq_ok, pure_eq_ok, cue_eq_ok]
      constructor
      · rintro ⟨placement, s₁, ⟨startTime, file, hplace, hruns, rfl⟩, rest, s₂, hrest, rfl, rfl⟩
        exact ⟨.effect asset anchor offset startTime file, s₁, rest, rfl, hplace, hruns, hrest, rfl⟩
      · rintro ⟨t, s₁, rest, hevent, hfits, hruns, hrest, rfl⟩
        cases t <;> cases hevent
        exact ⟨_, s₁, ⟨_, _, hfits, hruns, rfl⟩, rest, s', hrest, rfl, rfl⟩
  | directive key value =>
      simp only [walk]
      constructor
      · intro h
        exact ⟨.directive key value, s, track, rfl, trivial, rfl, h, rfl⟩
      · rintro ⟨t, s₁, rest, hevent, -, hruns, hrest, rfl⟩
        cases t <;> cases hevent
        cases hruns
        exact hrest
  | other kind =>
      simp only [walk]
      constructor
      · intro h
        exact ⟨.other kind, s, track, rfl, trivial, rfl, h, rfl⟩
      · rintro ⟨t, s₁, rest, hevent, -, hruns, hrest, rfl⟩
        cases t <;> cases hevent
        cases hruns
        exact hrest

/-- A walk gives an answer just when there are takes of its events that fit and whose steps can be
run, and then it is what the takes say. -/
theorem walk_eq_ok_iff {events : List Event} {track : Track} :
    walk tools config workDir c n events s = .ok track s' ↔
      ∃ takes : List Take, takes.map Take.event = events ∧ AllFit config workDir c n takes
        ∧ Runs tools (stepsOf config.assetsDir c takes) s s' ∧ track = trackOf c takes := by
  induction events generalizing c n s track with
  | nil =>
      simp only [walk, pure_eq_ok]
      constructor
      · rintro ⟨rfl, rfl⟩
        exact ⟨[], rfl, trivial, rfl, rfl⟩
      · rintro ⟨takes, hevents, -, hruns, rfl⟩
        obtain rfl := List.map_eq_nil_iff.1 hevents
        exact ⟨rfl, hruns⟩
  | cons e es ih =>
      rw [walk_cons_eq_ok]
      constructor
      · rintro ⟨t, s₁, rest, rfl, hfits, hruns, hrest, rfl⟩
        obtain ⟨ts, rfl, hall, hruns', rfl⟩ := ih.1 hrest
        exact ⟨t :: ts, rfl, ⟨hfits, hall⟩, runs_append.2 ⟨s₁, hruns, hruns'⟩, rfl⟩
      · rintro ⟨takes, hevents, hall, hruns, rfl⟩
        obtain ⟨t, ts, rfl, rfl, hts⟩ := List.map_eq_cons_iff.1 hevents
        obtain ⟨s₁, hruns, hruns'⟩ := runs_append.1 hruns
        exact ⟨t, s₁, _, rfl, hall.1, hruns, ih.2 ⟨ts, hts, hall.2, hruns', rfl⟩, rfl⟩

end Walk

/-! ## Recordings -/

def builtEntry (t : Timeline) : LogEntry :=
  ⟨.info, "Timeline built",
    [.record
      [("title", .text t.title),
       ("segments", .ofNat t.segments.length),
       ("sfx", .ofNat t.effects.length),
       ("music", t.beds.music.elim .null .text),
       ("ambience", t.beds.ambience.elim .null .text),
       ("totalDuration", .text (Numeral.fixed 3 t.duration))]]⟩

/-- The use of the asset tool for a bed that has an id and a file. -/
def bedUses (root : String) : Option String → Option String → List Use
  | some id, some file => [.asset root id file]
  | _, _ => []

/-- All that the tools gave for a script: the files of its beds and the takes of its events. -/
structure Recording where
  music : Option String
  ambience : Option String
  takes : List Take

namespace Recording

def events (r : Recording) : List Event :=
  r.takes.map Take.event

def timeline (r : Recording) : Timeline :=
  let track := trackOf .start r.takes
  ⟨titleOf r.events, track.segments, track.effects, ⟨r.music, r.ambience⟩, track.clock.currentTime⟩

/-- The uses of the asset tool for the beds, the music first. -/
def lookups (root : String) (r : Recording) : List Use :=
  bedUses root (nonEmptyDirective? r.events "music") r.music ++
    bedUses root (nonEmptyDirective? r.events "ambience") r.ambience

def steps (root : String) (r : Recording) : List Step :=
  (r.lookups root).map .use ++ (stepsOf root .start r.takes ++ [.log (builtEntry r.timeline)])

/-- The checks that come first are passed, the beds are those of the directives, and the takes fit. -/
structure Fits (config : ProducerConfig) (workDir : String) (r : Recording) : Prop where
  narrated : countUtterances r.events ≠ 0
  speakers : checkSpeakers config r.events = .ok ()
  music : r.music.isSome = (nonEmptyDirective? r.events "music").isSome
  ambience : r.ambience.isSome = (nonEmptyDirective? r.events "ambience").isSome
  takes : AllFit config workDir .start 0 r.takes

end Recording

section Build

open StoryMix.Action

variable {tools : Tools} {config : ProducerConfig} {workDir : String} {events : List Event}
  {s s' : Studio}

theorem resolveBed_eq_ok {key : String} {file : Option String} :
    resolveBed tools config events key s = .ok file s' ↔
      file.isSome = (nonEmptyDirective? events key).isSome
        ∧ Runs tools ((bedUses config.assetsDir (nonEmptyDirective? events key) file).map .use)
            s s' := by
  unfold resolveBed
  cases nonEmptyDirective? events key with
  | none =>
      cases file with
      | none => simp [pure_eq_ok, bedUses, Runs]
      | some path => simp [pure_eq_ok]
  | some id =>
      cases file with
      | none => simp [map_eq_ok]
      | some path => simp [map_eq_ok, bedUses, Runs, Step.Runs, Use.Runs]

theorem build_eq_ok {t : Timeline} :
    build tools config workDir events s = .ok t s' ↔
      countUtterances events ≠ 0 ∧ checkSpeakers config events = .ok ()
        ∧ ∃ (beds : Beds) (track : Track) (s₁ s₂ : Studio),
            resolveBeds tools config events s = .ok beds s₁
              ∧ walk tools config workDir .start 0 events s₁ = .ok track s₂
              ∧ t = ⟨titleOf events, track.segments, track.effects, beds, track.clock.currentTime⟩
              ∧ (Step.log (builtEntry t)).Runs tools s₂ s' := by
  unfold build
  by_cases hcount : countUtterances events = 0
  · rw [if_pos hcount]
    refine iff_of_false (fun h => ?_) fun h => h.1 hcount
    obtain ⟨_, _, hfail, -⟩ := bind_eq_ok.1 h
    exact nomatch hfail
  · rw [if_neg hcount]
    simp only [bind_eq_ok, ofExcept_eq_ok, inform, say_eq_ok, pure_eq_ok]
    constructor
    · rintro ⟨_, s₀, ⟨hspeakers, rfl⟩, beds, s₁, hbeds, track, s₂, hwalk, _, s₃, hlog, rfl, rfl⟩
      exact ⟨hcount, hspeakers, beds, track, s₁, s₂, hbeds, hwalk, rfl, hlog⟩
    · rintro ⟨-, hspeakers, beds, track, s₁, s₂, hbeds, hwalk, rfl, hlog⟩
      exact ⟨(), s, ⟨hspeakers, rfl⟩, beds, s₁, hbeds, track, s₂, hwalk, (), s', hlog, rfl, rfl⟩

/-- A build gives a timeline just when there is a recording of its events that fits and whose steps
can be run, and then it is the timeline of the recording. -/
theorem build_eq_ok_iff {t : Timeline} :
    build tools config workDir events s = .ok t s' ↔
      ∃ r : Recording, r.events = events ∧ r.Fits config workDir
        ∧ Runs tools (r.steps config.assetsDir) s s' ∧ t = r.timeline := by
  simp only [build_eq_ok, resolveBeds, bind_eq_ok, resolveBed_eq_ok, walk_eq_ok_iff, pure_eq_ok]
  constructor
  · rintro ⟨hcount, hspeakers, _, _, _, s₃, ⟨music, s₁, ⟨hmusic, hruns₁⟩, ambience, s₂,
      ⟨hambience, hruns₂⟩, rfl, rfl⟩, ⟨takes, rfl, hall, hruns₃, rfl⟩, rfl, hlog⟩
    refine ⟨⟨music, ambience, takes⟩, rfl, ⟨hcount, hspeakers, hmusic, hambience, hall⟩, ?_, rfl⟩
    simp only [Recording.steps, Recording.lookups, List.map_append, List.append_assoc, runs_append]
    exact ⟨s₁, hruns₁, s₂, hruns₂, s₃, hruns₃, runs_singleton.2 hlog⟩
  · rintro ⟨⟨music, ambience, takes⟩, rfl, ⟨hcount, hspeakers, hmusic, hambience, hall⟩, hruns, rfl⟩
    simp only [Recording.steps, Recording.lookups, List.map_append, List.append_assoc,
      runs_append] at hruns
    obtain ⟨s₁, hruns₁, s₂, hruns₂, s₃, hruns₃, hlog⟩ := hruns
    exact ⟨hcount, hspeakers, _, _, s₂, s₃, ⟨music, s₁, ⟨hmusic, hruns₁⟩, ambience, s₂,
      ⟨hambience, hruns₂⟩, rfl, rfl⟩, ⟨takes, rfl, hall, hruns₃, rfl⟩, rfl, runs_singleton.1 hlog⟩

end Build

end StoryMix.Timeline
