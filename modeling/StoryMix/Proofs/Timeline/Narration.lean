import Mathlib.Data.List.Chain
import Mathlib.Data.List.Forall2
import StoryMix.Proofs.Numeral.Sum
import StoryMix.Proofs.Timeline.Track

/-!
# The narration bed

The segments of a timeline are those of its utterances and pauses, one each and in their order, and
they lie end to end from zero on:

    0 = start₁    end₁ = start₂    end₂ = start₃    …    endₙ = duration

The invariant is `Laid`: from the time of one clock to the time of another without a gap. Nothing is
used of the addition of numbers but that adding what is not negative gives no less.
-/

namespace StoryMix.Timeline

open Numeral (le_add le_trans zero_le_add)

/-- The segments lie end to end from one time to the other. -/
def Laid : Float → List Segment → Float → Prop
  | x, [], y => x = y
  | x, segment :: segments, y => segment.startTime = x ∧ Laid segment.endTime segments y

namespace Take

/-- The segment is that of the take: of its kind, with its file and as long as it. -/
def Makes : Take → Segment → Prop
  | speech speaker _ file duration, segment =>
    segment.kind = .speech speaker ∧ segment.file = file
      ∧ segment.endTime = segment.startTime + duration
  | silence request file, segment =>
    segment.kind = .silence ∧ segment.file = file
      ∧ segment.endTime = segment.startTime + request.seconds
  | _, _ => False

/-- What a take does to the narration. Either it is passed over, or it makes a segment that starts
at the clock, and the clock is set to the end of the segment. -/
theorem passed_or_makes (c : Clock) (t : Take) :
    (t.isNarrated = false ∧ t.length? = none ∧ t.segment? c = none ∧ t.after c = c)
      ∨ ∃ segment duration, t.isNarrated = true ∧ t.length? = some duration
          ∧ t.segment? c = some segment ∧ t.Makes segment ∧ segment.startTime = c.currentTime
          ∧ segment.endTime = c.currentTime + duration
          ∧ (t.after c).currentTime = segment.endTime := by
  cases t with
  | speech | silence => exact .inr ⟨_, _, rfl, rfl, rfl, ⟨rfl, rfl, rfl⟩, rfl, rfl, rfl⟩
  | effect | directive | other => exact .inl ⟨rfl, rfl, rfl, rfl⟩

end Take

/-! ## End to end -/

theorem laid_trackOf (c : Clock) (takes : List Take) :
    Laid c.currentTime (trackOf c takes).segments (trackOf c takes).clock.currentTime := by
  induction takes generalizing c with
  | nil => rfl
  | cons t ts ih =>
      have hrest := ih (t.after c)
      rw [trackOf, Take.onto]
      obtain ⟨-, -, hsegment, hafter⟩ | ⟨segment, _, -, -, hsegment, -, hstart, -, hclock⟩ :=
        t.passed_or_makes c
      · rw [hafter] at hrest ⊢
        rw [hsegment]
        exact hrest
      · rw [hclock] at hrest
        rw [hsegment]
        exact ⟨hstart, hrest⟩

theorem makes_trackOf (c : Clock) (takes : List Take) :
    List.Forall₂ Take.Makes (takes.filter Take.isNarrated) (trackOf c takes).segments := by
  induction takes generalizing c with
  | nil => exact .nil
  | cons t ts ih =>
      have hrest := ih (t.after c)
      rw [trackOf, Take.onto, List.filter_cons]
      obtain ⟨hquiet, -, hsegment, -⟩ | ⟨segment, _, hnarrated, -, hsegment, hmakes, -⟩ :=
        t.passed_or_makes c
      · rw [if_neg (by simp [hquiet]), hsegment]
        exact hrest
      · rw [if_pos hnarrated, hsegment]
        exact .cons hmakes hrest

theorem currentTime_trackOf (c : Clock) (takes : List Take) :
    (trackOf c takes).clock.currentTime
      = (takes.filterMap Take.length?).foldl (· + ·) c.currentTime := by
  induction takes generalizing c with
  | nil => rfl
  | cons t ts ih =>
      rw [trackOf, Take.onto, ih]
      obtain ⟨-, hlength, -, hafter⟩ | ⟨_, duration, -, hlength, -, -, -, hend, hclock⟩ :=
        t.passed_or_makes c
      · rw [hafter, List.filterMap_cons_none hlength]
      · rw [hclock, hend, List.filterMap_cons_some hlength, List.foldl_cons]

theorem startTime_le_endTime {c : Clock} {takes : List Take} (hc : 0 ≤ c.currentTime)
    (hlength : ∀ d ∈ takes.filterMap Take.length?, 0 ≤ d) :
    ∀ segment ∈ (trackOf c takes).segments, segment.startTime ≤ segment.endTime := by
  induction takes generalizing c with
  | nil => exact nofun
  | cons t ts ih =>
      intro segment hmem
      rw [trackOf, Take.onto] at hmem
      obtain ⟨-, hnone, hsegment, hafter⟩ | ⟨own, d, -, hsome, hsegment, -, hstart, hend, hclock⟩ :=
        t.passed_or_makes c
      · rw [List.filterMap_cons_none hnone] at hlength
        rw [hsegment, hafter] at hmem
        exact ih hc hlength segment hmem
      · rw [List.filterMap_cons_some hsome, List.forall_mem_cons] at hlength
        obtain ⟨hd, hrest⟩ := hlength
        rw [hsegment] at hmem
        rcases List.mem_cons.1 hmem with rfl | hmem
        · rw [hstart, hend]
          exact le_add hc hd
        · refine ih ?_ hrest segment hmem
          rw [hclock, hend]
          exact zero_le_add hc hd

namespace Laid

variable {x y : Float} {segments : List Segment}

theorem isChain (h : Laid x segments y) :
    segments.IsChain fun a b => b.startTime = a.endTime := by
  induction segments generalizing x with
  | nil => exact .nil
  | cons a rest ih =>
      cases rest with
      | nil => exact .singleton a
      | cons b rest => exact .cons_cons h.2.1 (ih h.2)

theorem endTime_getLast (h : Laid x segments y) (hne : segments ≠ []) :
    (segments.getLast hne).endTime = y := by
  induction segments generalizing x with
  | nil => exact absurd rfl hne
  | cons a rest ih =>
      cases rest with
      | nil => exact h.2
      | cons b rest => exact ih h.2 (List.cons_ne_nil b rest)

theorem startTime_head (h : Laid x segments y) (hne : segments ≠ []) :
    (segments.head hne).startTime = x := by
  cases segments with
  | nil => exact absurd rfl hne
  | cons a rest => exact h.1

theorem le_startTime (h : Laid x segments y) (hx : 0 ≤ x)
    (hmono : ∀ a ∈ segments, a.startTime ≤ a.endTime) : ∀ a ∈ segments, x ≤ a.startTime := by
  induction segments generalizing x with
  | nil => exact nofun
  | cons a rest ih =>
      obtain ⟨rfl, hrest⟩ := h
      obtain ⟨ha, hmono⟩ := List.forall_mem_cons.1 hmono
      intro b hb
      rcases List.mem_cons.1 hb with rfl | hb
      · exact Numeral.le_refl_of_zero_le hx
      · exact le_trans ha (ih hrest (le_trans hx ha) hmono b hb)

theorem pairwise_le (h : Laid x segments y) (hx : 0 ≤ x)
    (hmono : ∀ a ∈ segments, a.startTime ≤ a.endTime) :
    segments.Pairwise fun a b => a.startTime ≤ b.startTime ∧ a.endTime ≤ b.endTime := by
  induction segments generalizing x with
  | nil => exact .nil
  | cons a rest ih =>
      obtain ⟨rfl, hrest⟩ := h
      obtain ⟨ha, hmono⟩ := List.forall_mem_cons.1 hmono
      have hend : 0 ≤ a.endTime := le_trans hx ha
      refine .cons (fun b hb => ?_) (ih hrest hend hmono)
      have hab : a.endTime ≤ b.startTime := hrest.le_startTime hend hmono b hb
      exact ⟨le_trans ha hab, le_trans hab (hmono b hb)⟩

end Laid

/-! ## The bed of a timeline -/

/-- The narration bed of a timeline follows from a recording. -/
structure Narrates (r : Recording) (t : Timeline) : Prop where
  /-- The narrated takes are those of the utterances and pauses, in their order. -/
  events : (r.takes.filter Take.isNarrated).map Take.event = r.events.filter Event.isNarrated
  /-- There is one segment for each, in the same order. -/
  segments : List.Forall₂ Take.Makes (r.takes.filter Take.isNarrated) t.segments
  nonempty : t.segments ≠ []
  first : (t.segments.head nonempty).startTime = 0
  contiguous : t.segments.IsChain fun a b => b.startTime = a.endTime
  ascending : t.segments.Pairwise fun a b => a.startTime ≤ b.startTime ∧ a.endTime ≤ b.endTime
  last : (t.segments.getLast nonempty).endTime = t.duration
  /-- The whole is the sum of the parts, added up from left to right. -/
  total : t.duration = (r.takes.filterMap Take.length?).foldl (· + ·) 0

theorem segments_ne_nil {r : Recording} (h : countUtterances r.events ≠ 0) :
    r.timeline.segments ≠ [] := by
  intro hnil
  have hle : countUtterances r.events ≤ r.events.countP Event.isNarrated := by
    refine List.countP_mono_left fun e _ he => ?_
    cases e <;> first | rfl | cases he
  have hlength : r.timeline.segments.length = r.events.countP Event.isNarrated :=
    length_segments .start r.takes
  rw [hnil] at hlength
  exact h (Nat.le_zero.1 (hle.trans hlength.ge))

variable {tools : Tools} {config : ProducerConfig} {workDir : String} {events : List Event}
  {s s' : Studio}

/-- What was measured and what was written down as a pause is not negative, and so is no take of a
run. -/
theorem zero_le_of_mem_lengths {r : Recording}
    (hprobe : ∀ file s₁ duration s₂, tools.probe file s₁ = .ok duration s₂ → 0 ≤ duration)
    (hpause : ∀ seconds, Event.pause seconds ∈ r.events → 0 ≤ seconds)
    (hruns : Runs tools (r.steps config.assetsDir) s s') :
    ∀ d ∈ r.takes.filterMap Take.length?, 0 ≤ d := by
  intro d hd
  obtain ⟨t, ht, hlength⟩ := List.mem_filterMap.1 hd
  cases t with
  | speech speaker request file duration =>
      cases hlength
      obtain ⟨s₁, s₂, hrun⟩ := use_runs_of_mem hruns (u := .probe file d)
        (Recording.mem_steps ht (by simp [Take.uses]))
      exact hprobe file s₁ d s₂ hrun
  | silence request file =>
      cases hlength
      exact hpause _ (List.mem_map.2 ⟨_, ht, rfl⟩)
  | effect | directive | other => cases hlength

theorem zero_le_startTime {r : Recording}
    (hlengths : ∀ d ∈ r.takes.filterMap Take.length?, 0 ≤ d) :
    ∀ a ∈ r.timeline.segments, 0 ≤ a.startTime ∧ a.startTime ≤ a.endTime := by
  intro a ha
  have hzero : (0 : Float) ≤ 0 := by decide
  have hmono := startTime_le_endTime (c := .start) hzero hlengths
  exact ⟨(laid_trackOf .start r.takes).le_startTime hzero hmono a ha, hmono a ha⟩

/-- Every timeline that a build gives has its narration bed end to end: the segments are those of the
events, each as long as it was measured or written down. -/
theorem narrates_of_build {t : Timeline}
    (hprobe : ∀ file s₁ duration s₂, tools.probe file s₁ = .ok duration s₂ → 0 ≤ duration)
    (hpause : ∀ seconds, Event.pause seconds ∈ events → 0 ≤ seconds)
    (h : build tools config workDir events s = .ok t s') :
    ∃ r : Recording, r.events = events ∧ Runs tools (r.steps config.assetsDir) s s'
      ∧ Narrates r t := by
  obtain ⟨r, rfl, hfits, hruns, rfl⟩ := build_eq_ok_iff.1 h
  have hlengths := zero_le_of_mem_lengths hprobe hpause hruns
  have hlaid : Laid 0 r.timeline.segments r.timeline.duration := laid_trackOf .start r.takes
  have hne := segments_ne_nil hfits.narrated
  exact ⟨r, rfl, hruns, {
    events := List.filter_map.symm
    segments := makes_trackOf .start r.takes
    nonempty := hne
    first := hlaid.startTime_head hne
    contiguous := hlaid.isChain
    ascending := hlaid.pairwise_le (by decide) fun a ha => (zero_le_startTime hlengths a ha).2
    last := hlaid.endTime_getLast hne
    total := currentTime_trackOf .start r.takes }⟩

theorem narrates_of_build_greeting :
    ∃ r t s', build .prompt (.soloist "Ruby" "/ruby.wav") "/tmp/w"
        [.utterance "Ruby" "Hello", .pause 2, .cue "chime" .now 0, .utterance "Ruby" "Bye"]
        .empty = .ok t s' ∧ Narrates r t := by
  have hprobe : ∀ file s₁ d s₂, Tools.prompt.probe file s₁ = .ok d s₂ → 0 ≤ d := by
    rintro _ _ _ _ ⟨⟩
    decide
  obtain ⟨t, s', h⟩ : ∃ t s', build .prompt (.soloist "Ruby" "/ruby.wav") "/tmp/w"
        [.utterance "Ruby" "Hello", .pause 2, .cue "chime" .now 0, .utterance "Ruby" "Bye"]
        .empty = .ok t s' := ⟨_, _, rfl⟩
  obtain ⟨r, -, -, hr⟩ := narrates_of_build hprobe (by simp; decide) h
  exact ⟨r, t, s', h, hr⟩

end StoryMix.Timeline
