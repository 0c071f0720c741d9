import Mathlib.Data.List.Forall2
import StoryMix.Proofs.Numeral.Sum
import StoryMix.Proofs.Rehearsal.Answers
import StoryMix.Proofs.Studio.Unlogged
import StoryMix.Proofs.Timeline.Directives
import StoryMix.Proofs.Timeline.Take

/-!
# Now and the end of what came last

A clock keeps the end of the last utterance or pause and its own time apart, and moves both at once. So
they are always the same (`Clock.Settled`), and a cue stands at the same time whether it is placed
against the one or against the other. A script in which some cues name the other of the two is built
alike: only what is logged of these cues tells the scripts apart.
-/

namespace StoryMix

open Action (Alike)
open Numeral (le_add le_trans zero_le_add le_refl_of_zero_le)

/-! ## Clocks -/

namespace Clock

/-- The end of what came last is now. -/
def Settled (c : Clock) : Prop :=
  c.lastEnd = c.currentTime

theorem settled_afterUtterance (c : Clock) (duration : Float) :
    (c.afterUtterance duration).Settled :=
  rfl

theorem settled_afterPause (c : Clock) (seconds : Float) : (c.afterPause seconds).Settled :=
  rfl

/-- The clocks that utterances and pauses can lead to, none of which takes less than no time. -/
inductive Reached : Clock → Prop
  | start : Reached start
  | afterUtterance {c duration} : Reached c → 0 ≤ duration → Reached (c.afterUtterance duration)
  | afterPause {c seconds} : Reached c → 0 ≤ seconds → Reached (c.afterPause seconds)

theorem Reached.settled {c : Clock} (h : Reached c) : c.Settled := by
  cases h with
  | start => rfl
  | afterUtterance => exact settled_afterUtterance _ _
  | afterPause => exact settled_afterPause _ _

/-- The last utterance did not start before zero, and what came last did not end before it. -/
theorem Reached.ordered {c : Clock} (h : Reached c) : 0 ≤ c.lastStart ∧ c.lastStart ≤ c.lastEnd := by
  induction h with
  | start => exact ⟨by decide, by decide⟩
  | @afterUtterance c duration hc hduration ih =>
      have hnow : 0 ≤ c.currentTime := hc.settled ▸ le_trans ih.1 ih.2
      exact ⟨hnow, le_add hnow hduration⟩
  | @afterPause c seconds hc hseconds ih =>
      have hnow : 0 ≤ c.currentTime := hc.settled ▸ le_trans ih.1 ih.2
      have hbefore : c.lastStart ≤ c.currentTime := hc.settled ▸ ih.2
      exact ⟨ih.1, le_trans hbefore (le_add hnow hseconds)⟩

theorem Settled.place_now {c : Clock} (h : c.Settled) (offset : Float) :
    c.place .now offset = c.place .lastEnd offset := by
  unfold place anchorTime
  rw [h]

end Clock

/-! ## Cues -/

/-- The second event is the first one, or it is the same cue with `now` in place of `last_end` or the
other way round. -/
inductive Event.Swaps : Event → Event → Prop
  | same (event) : Swaps event event
  | toLastEnd {asset offset} : Swaps (.cue asset .now offset) (.cue asset .lastEnd offset)
  | toNow {asset offset} : Swaps (.cue asset .lastEnd offset) (.cue asset .now offset)

/-- The second script is the first one with some of its cues swapped. -/
def Swapped : List Event → List Event → Prop :=
  List.Forall₂ Event.Swaps

theorem countUtterances_swapped {xs ys : List Event} (h : Swapped xs ys) :
    countUtterances xs = countUtterances ys := by
  unfold countUtterances
  induction h with
  | nil => rfl
  | cons hswaps _ ih =>
      rw [List.countP_cons, List.countP_cons, ih]
      cases hswaps <;> rfl

theorem directive?_swapped {xs ys : List Event} (h : Swapped xs ys) (key : String) :
    directive? xs key = directive? ys key := by
  unfold directive?
  induction h with
  | nil => rfl
  | cons hswaps _ ih =>
      rw [List.findSome?_cons, List.findSome?_cons, ih]
      cases hswaps <;> rfl

namespace Timeline

variable {tools : Tools} {config : ProducerConfig} {workDir : String}

theorem checkSpeakers_swapped {xs ys : List Event} (h : Swapped xs ys) :
    checkSpeakers config xs = checkSpeakers config ys := by
  induction h with
  | nil => rfl
  | @cons event _ _ _ hswaps _ ih =>
      cases hswaps with
      | same =>
          cases event with
          | utterance speaker text => rw [checkSpeakers, checkSpeakers, ih]
          | pause | cue | directive | other => exact ih
      | toLastEnd | toNow => exact ih

section Alike

variable (htools : tools.BlindToLog)
include htools

theorem alike_resolveBed (events : List Event) (key : String) :
    Alike (resolveBed tools config events key) (resolveBed tools config events key) := by
  unfold resolveBed
  cases nonEmptyDirective? events key with
  | none => exact .pure none
  | some id => exact (htools.asset _ id).map some

theorem alike_resolveBeds (events : List Event) :
    Alike (resolveBeds tools config events) (resolveBeds tools config events) :=
  (alike_resolveBed htools events _).bind fun _ _ _ _ =>
    (alike_resolveBed htools events _).bind fun _ _ _ _ => .pure _

theorem alike_speak (clock : Clock) (n : Nat) (speaker text : String) :
    Alike (speak tools config workDir clock n speaker text)
      (speak tools config workDir clock n speaker text) :=
  (Alike.ofExcept _).bind fun _ _ _ _ => (htools.voice _).bind fun _ _ _ _ =>
    (htools.probe _).bind fun _ _ _ _ => (Alike.say _ _ _ _ _ _).bind fun _ _ _ _ => .pure _

theorem alike_rest (clock : Clock) (n : Nat) (seconds : Float) :
    Alike (rest tools workDir clock n seconds) (rest tools workDir clock n seconds) :=
  (htools.silence _).bind fun _ _ _ _ => .pure _

/-- Cues that are placed at the same time differ in what is logged of them. -/
theorem alike_cue {clock : Clock} {asset : String} {anchor anchor' : Anchor} {offset : Float}
    (h : clock.place anchor offset = clock.place anchor' offset) :
    Alike (cue tools config clock asset anchor offset)
      (cue tools config clock asset anchor' offset) := by
  unfold cue
  rw [h]
  exact (Alike.ofExcept _).bind fun _ _ _ _ => (htools.asset _ _).bind fun _ _ _ _ =>
    (Alike.say _ _ _ _ _ _).bind fun _ _ _ _ => .pure _

/-- The clock is settled before every event, so it does not matter which of the two a cue names. -/
theorem alike_walk {xs ys : List Event} (h : Swapped xs ys) {clock : Clock} (hclock : clock.Settled)
    (made : Nat) :
    Alike (walk tools config workDir clock made xs) (walk tools config workDir clock made ys) := by
  induction h generalizing clock made with
  | nil => exact .pure _
  | @cons event _ _ _ hswaps _ ih =>
      cases hswaps with
      | same =>
          cases event with
          | utterance speaker text =>
              refine (alike_speak htools clock (made + 1) speaker text).bind ?_
              rintro ⟨segment, next⟩ s s' hspoken
              obtain ⟨_, _, _, -, -, -, rfl⟩ := speak_eq_ok.1 hspoken
              exact (ih (clock.settled_afterUtterance _) _).bind fun _ _ _ _ => .pure _
          | pause seconds =>
              refine (alike_rest htools clock (made + 1) seconds).bind ?_
              rintro ⟨segment, next⟩ s s' hrested
              obtain ⟨_, -, -, rfl⟩ := (rest_eq_ok config.assetsDir).1 hrested
              exact (ih (clock.settled_afterPause _) _).bind fun _ _ _ _ => .pure _
          | cue asset anchor offset =>
              exact (alike_cue htools rfl).bind fun _ _ _ _ =>
                (ih hclock made).bind fun _ _ _ _ => .pure _
          | directive | other => exact ih hclock made
      | toLastEnd =>
          exact (alike_cue htools (hclock.place_now _)).bind fun _ _ _ _ =>
            (ih hclock made).bind fun _ _ _ _ => .pure _
      | toNow =>
          exact (alike_cue htools (hclock.place_now _).symm).bind fun _ _ _ _ =>
            (ih hclock made).bind fun _ _ _ _ => .pure _

theorem alike_build {xs ys : List Event} (h : Swapped xs ys) :
    Alike (build tools config workDir xs) (build tools config workDir ys) := by
  have hheadings : ∀ heading ∈ headings, directive? xs heading = directive? ys heading :=
    fun heading _ => directive?_swapped h heading
  unfold build
  rw [countUtterances_swapped h, checkSpeakers_swapped h, titleOf_congr hheadings,
    resolveBeds_congr hheadings]
  by_cases hcount : countUtterances ys = 0
  · rw [if_pos hcount, if_pos hcount]
    exact (Alike.fail _).bind fun _ _ _ hfails => nomatch hfails
  · rw [if_neg hcount, if_neg hcount]
    exact (Alike.ofExcept _).bind fun _ _ _ _ => (alike_resolveBeds htools ys).bind fun _ _ _ _ =>
      (alike_walk htools h Clock.Reached.start.settled 0).bind fun _ _ _ _ =>
        (Alike.say _ _ _ _ _ _).bind fun _ _ _ _ => .pure _

end Alike

/-- Wherever utterances and pauses lead a clock, its marks are in order and the end of what came last is
now. So a script with `now` in place of `last_end` in some of its cues, or the other way round, is built
with the same calls to the same timeline, or fails after the same calls in the same way. -/
theorem now_or_lastEnd (htools : tools.BlindToLog) (config : ProducerConfig) (workDir : String) :
    (∀ c : Clock, c.Reached →
      0 ≤ c.lastStart ∧ c.lastStart ≤ c.lastEnd ∧ c.lastEnd = c.currentTime) ∧
    ∀ xs ys, Swapped xs ys → ∀ s,
      (build tools.recorded config workDir xs).answer s =
          (build tools.recorded config workDir ys).answer s ∧
        ((build tools.recorded config workDir xs).after s).calls =
          ((build tools.recorded config workDir ys).after s).calls := by
  constructor
  · intro c hc
    exact ⟨hc.ordered.1, hc.ordered.2, hc.settled⟩
  · intro xs ys hswapped s
    obtain ⟨hanswer, hview⟩ := alike_build htools.recorded hswapped s s rfl
    have hcalls := congrArg Studio.calls hview
    exact ⟨hanswer, hcalls⟩

def tolling : Rehearsal :=
  { Rehearsal.plain with assets := [("bell", "/assets/bell.wav")] }

/-- The bells toll at the same times. -/
theorem now_or_lastEnd_tolling :
    (((Clock.start.afterUtterance 2).afterPause 1).Reached ∧
      0 ≤ ((Clock.start.afterUtterance 2).afterPause 1).lastStart ∧
      ((Clock.start.afterUtterance 2).afterPause 1).lastStart ≤
        ((Clock.start.afterUtterance 2).afterPause 1).lastEnd ∧
      ((Clock.start.afterUtterance 2).afterPause 1).lastEnd =
        ((Clock.start.afterUtterance 2).afterPause 1).currentTime) ∧
    Swapped [.utterance "Ruby" "Hello", .cue "bell" .now 0, .pause 1, .cue "bell" .lastEnd 1]
      [.utterance "Ruby" "Hello", .cue "bell" .lastEnd 0, .pause 1, .cue "bell" .now 1] ∧
    ∃ t s', build tolling.tools.recorded (.soloist "Ruby" "/ruby.wav") "/w"
          [.utterance "Ruby" "Hello", .cue "bell" .now 0, .pause 1, .cue "bell" .lastEnd 1] .empty =
        .ok t s' ∧
      (build tolling.tools.recorded (.soloist "Ruby" "/ruby.wav") "/w"
        [.utterance "Ruby" "Hello", .cue "bell" .lastEnd 0, .pause 1, .cue "bell" .now 1]).answer
          .empty = .ok t := by
  have hreached : ((Clock.start.afterUtterance 2).afterPause 1).Reached :=
    .afterPause (.afterUtterance .start (by decide)) (by decide)
  have hswapped :
      Swapped [.utterance "Ruby" "Hello", .cue "bell" .now 0, .pause 1, .cue "bell" .lastEnd 1]
        [.utterance "Ruby" "Hello", .cue "bell" .lastEnd 0, .pause 1, .cue "bell" .now 1] :=
    .cons (.same _) (.cons .toLastEnd (.cons (.same _) (.cons .toNow .nil)))
  obtain ⟨hclocks, hbuilds⟩ :=
    now_or_lastEnd tolling.blindToLog_tools (.soloist "Ruby" "/ruby.wav") "/w"
  have hbuild : (build tolling.tools.recorded (.soloist "Ruby" "/ruby.wav") "/w"
      [.utterance "Ruby" "Hello", .cue "bell" .now 0, .pause 1, .cue "bell" .lastEnd 1]).succeeds
        .empty = true := by decide +kernel
  obtain ⟨t, s', hbuild⟩ := Action.eq_ok_of_succeeds hbuild
  have hanswer := (hbuilds _ _ hswapped .empty).1
  rw [Action.answer_of_ok hbuild] at hanswer
  exact ⟨⟨hreached, hclocks _ hreached⟩, hswapped, t, s', hbuild, hanswer.symm⟩

end Timeline

end StoryMix
