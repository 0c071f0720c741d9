import StoryMix.Proofs.Rehearsal.Answers
import StoryMix.Proofs.Timeline.Track

/-!
# Sound effects lie over the narration

A cue takes no time and makes no segment. So any of the cues of a script can be left out: what is built
then is the same timeline with just the placements of those cues missing, and the tools are asked the
same for the narration. It is proved of takes: the takes that are left fit as they are, since the clock
and the number of segments are the same before each of them, and their steps are those of all takes but
for some look-ups (`Spares`).
-/

namespace StoryMix

section Thinning

variable {α β : Type}

/-- A list without some of those elements that count: the `i`th of them is left if `keep i`, and `k` of
them have come before. -/
def thin (counts : α → Bool) (keep : Nat → Bool) : Nat → List α → List α
  | _, [] => []
  | k, x :: xs =>
    if counts x then
      if keep k then x :: thin counts keep (k + 1) xs else thin counts keep (k + 1) xs
    else x :: thin counts keep k xs

/-- The elements with these numbers. -/
def chosen (keep : Nat → Bool) (xs : List α) : List α :=
  thin (fun _ => true) keep 0 xs

variable {counts : α → Bool} {keep : Nat → Bool} {k : Nat} {xs : List α}

theorem map_thin (f : α → β) {counts' : β → Bool} (h : ∀ x, counts x = counts' (f x)) :
    (thin counts keep k xs).map f = thin counts' keep k (xs.map f) := by
  fun_induction thin counts keep k xs with
  | case1 => rfl
  | case2 k x xs hx hkeep ih =>
      rw [h] at hx
      rw [List.map_cons, List.map_cons, thin, if_pos hx, if_pos hkeep, ih]
  | case3 k x xs hx hkeep ih =>
      rw [h] at hx
      rw [List.map_cons, thin, if_pos hx, if_neg hkeep, ih]
  | case4 k x xs hx ih =>
      rw [h] at hx
      rw [List.map_cons, List.map_cons, thin, if_neg hx, ih]

/-- If those that count are those that give something, what is given is thinned the same way. -/
theorem filterMap_thin {f : α → Option β} (h : ∀ x, counts x = (f x).isSome) :
    (thin counts keep k xs).filterMap f = thin (fun _ => true) keep k (xs.filterMap f) := by
  fun_induction thin counts keep k xs with
  | case1 => rfl
  | case2 k x xs hx hkeep ih =>
      rw [h] at hx
      obtain ⟨y, hy⟩ := Option.isSome_iff_exists.1 hx
      rw [List.filterMap_cons_some hy, List.filterMap_cons_some hy, thin, if_pos rfl, if_pos hkeep, ih]
  | case3 k x xs hx hkeep ih =>
      rw [h] at hx
      obtain ⟨y, hy⟩ := Option.isSome_iff_exists.1 hx
      rw [List.filterMap_cons_some hy, thin, if_pos rfl, if_neg hkeep, ih]
  | case4 k x xs hx ih =>
      rw [h, Bool.not_eq_true, Option.isSome_eq_false_iff, Option.isNone_iff_eq_none] at hx
      rw [List.filterMap_cons_none hx, List.filterMap_cons_none hx, ih]

/-- What is looked for is found without those that do not have it. -/
theorem findSome?_thin {f : α → Option β} (h : ∀ x, counts x = true → f x = none) :
    (thin counts keep k xs).findSome? f = xs.findSome? f := by
  fun_induction thin counts keep k xs with
  | case1 => rfl
  | case2 k x xs hx hkeep ih => rw [List.findSome?_cons, List.findSome?_cons, ih]
  | case3 k x xs hx hkeep ih => rw [List.findSome?_cons, h x hx, ih]
  | case4 k x xs hx ih => rw [List.findSome?_cons, List.findSome?_cons, ih]

theorem countP_thin {p : α → Bool} (h : ∀ x, counts x = true → p x = false) :
    (thin counts keep k xs).countP p = xs.countP p := by
  fun_induction thin counts keep k xs with
  | case1 => rfl
  | case2 k x xs hx hkeep ih => rw [List.countP_cons, List.countP_cons, ih]
  | case3 k x xs hx hkeep ih => rw [List.countP_cons_of_neg (by simp [h x hx]), ih]
  | case4 k x xs hx ih => rw [List.countP_cons, List.countP_cons, ih]

end Thinning

/-- A script without some of its cues. -/
def thinned (keep : Nat → Bool) (events : List Event) : List Event :=
  thin Event.isCue keep 0 events

theorem directive?_thinned (keep : Nat → Bool) (events : List Event) (key : String) :
    directive? (thinned keep events) key = directive? events key := by
  refine findSome?_thin fun event hcue => ?_
  cases event with
  | cue => rfl
  | utterance | pause | directive | other => cases hcue

theorem countUtterances_thinned (keep : Nat → Bool) (events : List Event) :
    countUtterances (thinned keep events) = countUtterances events := by
  refine countP_thin fun event hcue => ?_
  cases event with
  | cue => rfl
  | utterance | pause | directive | other => cases hcue

namespace Timeline

variable {config : ProducerConfig} {workDir : String} {keep : Nat → Bool} {k n : Nat} {c : Clock}
  {takes : List Take}

theorem checkSpeakers_cue {event : Event} (h : event.isCue = true) (events : List Event) :
    checkSpeakers config (event :: events) = checkSpeakers config events := by
  cases event with
  | cue => rfl
  | utterance | pause | directive | other => cases h

theorem checkSpeakers_thin (events : List Event) :
    checkSpeakers config (thin Event.isCue keep k events) = checkSpeakers config events := by
  fun_induction thin Event.isCue keep k events with
  | case1 => rfl
  | case2 k event events hcue hkeep ih => rw [checkSpeakers_cue hcue, checkSpeakers_cue hcue, ih]
  | case3 k event events hcue hkeep ih => rw [checkSpeakers_cue hcue, ih]
  | case4 k event events hcue ih =>
      cases event with
      | utterance speaker text => rw [checkSpeakers, checkSpeakers, ih]
      | pause | directive | other => exact ih
      | cue => exact absurd rfl hcue

/-! ## Takes -/

namespace Take

def isCue (t : Take) : Bool :=
  t.event.isCue

variable {t : Take} (h : t.isCue = true)

include h

theorem after_of_isCue (c : Clock) : t.after c = c := by
  cases t with
  | effect => rfl
  | speech | silence | directive | other => cases h

theorem count_of_isCue : t.count = 0 := by
  cases t with
  | effect => rfl
  | speech | silence | directive | other => cases h

theorem segment?_of_isCue (c : Clock) : t.segment? c = none := by
  cases t with
  | effect => rfl
  | speech | silence | directive | other => cases h

/-- All that is done for a cue is a look-up. -/
theorem spares_of_isCue (root : String) (c : Clock) : Spares (t.steps root c) [] := by
  cases t with
  | effect => exact .lookup (.logged .nil)
  | speech | silence | directive | other => cases h

end Take

theorem gathers_uses (root : String) (t : Take) :
    (t.uses root).all (·.call.gathers) = true := by
  cases t <;> rfl

theorem spares_steps (root : String) (c : Clock) (t : Take) :
    Spares (t.steps root c) (t.steps root c) :=
  .append (.map_use (gathers_uses root t)) (.map_log _ _)

/-- The takes that are left fit, since no other take depends on those of the cues. -/
theorem allFit_thin (h : AllFit config workDir c n takes) :
    AllFit config workDir c n (thin Take.isCue keep k takes) := by
  fun_induction thin Take.isCue keep k takes generalizing c n with
  | case1 => exact trivial
  | case2 k t takes hcue hkeep ih => exact ⟨h.1, ih h.2⟩
  | case3 k t takes hcue hkeep ih =>
      have hrest := h.2
      rw [Take.after_of_isCue hcue, Take.count_of_isCue hcue] at hrest
      exact ih hrest
  | case4 k t takes hcue ih => exact ⟨h.1, ih h.2⟩

theorem segments_thin (c : Clock) (k : Nat) (takes : List Take) :
    (trackOf c (thin Take.isCue keep k takes)).segments = (trackOf c takes).segments := by
  fun_induction thin Take.isCue keep k takes generalizing c with
  | case1 => rfl
  | case2 k t takes hcue hkeep ih => rw [trackOf, trackOf, Take.onto, Take.onto, ih]
  | case3 k t takes hcue hkeep ih =>
      rw [trackOf, Take.onto, Take.after_of_isCue hcue, Take.segment?_of_isCue hcue, ih]
      rfl
  | case4 k t takes hcue ih => rw [trackOf, trackOf, Take.onto, Take.onto, ih]

theorem clock_thin (c : Clock) (k : Nat) (takes : List Take) :
    (trackOf c (thin Take.isCue keep k takes)).clock = (trackOf c takes).clock := by
  fun_induction thin Take.isCue keep k takes generalizing c with
  | case1 => rfl
  | case2 k t takes hcue hkeep ih => exact ih _
  | case3 k t takes hcue hkeep ih =>
      rw [trackOf, Take.onto, Take.after_of_isCue hcue]
      exact ih c
  | case4 k t takes hcue ih => exact ih _

theorem effects_thin (c : Clock) (takes : List Take) :
    (trackOf c (thin Take.isCue keep 0 takes)).effects = chosen keep (trackOf c takes).effects := by
  rw [effects_trackOf, effects_trackOf]
  exact filterMap_thin fun t => t.isSome_placement?.symm

/-- What is spared are the look-ups for the cues that are left out. -/
theorem spares_thin (root : String) (c : Clock) (k : Nat) (takes : List Take) :
    Spares (stepsOf root c takes) (stepsOf root c (thin Take.isCue keep k takes)) := by
  fun_induction thin Take.isCue keep k takes generalizing c with
  | case1 => exact .nil
  | case2 k t takes hcue hkeep ih => exact (spares_steps root c t).append (ih _)
  | case3 k t takes hcue hkeep ih =>
      have hrest := (Take.spares_of_isCue hcue root c).append (ih (t.after c))
      rw [List.nil_append, Take.after_of_isCue hcue] at hrest
      rw [stepsOf, Take.after_of_isCue hcue]
      exact hrest
  | case4 k t takes hcue ih => exact (spares_steps root c t).append (ih _)

/-! ## Recordings -/

namespace Recording

/-- The recording without what was made for some of the cues. -/
def thinned (keep : Nat → Bool) (r : Recording) : Recording :=
  { r with takes := thin Take.isCue keep 0 r.takes }

variable (keep) (r : Recording)

theorem events_thinned : (r.thinned keep).events = StoryMix.thinned keep r.events :=
  map_thin Take.event fun _ => rfl

theorem nonEmptyDirective?_thinned (key : String) :
    nonEmptyDirective? (r.thinned keep).events key = nonEmptyDirective? r.events key := by
  rw [nonEmptyDirective?, events_thinned, directive?_thinned, ← nonEmptyDirective?]

theorem timeline_thinned :
    (r.thinned keep).timeline = { r.timeline with effects := chosen keep r.timeline.effects } := by
  have htitle : titleOf (r.thinned keep).events = titleOf r.events := by
    rw [titleOf, nonEmptyDirective?_thinned, ← titleOf]
  simp only [timeline, htitle]
  simp only [thinned, segments_thin, effects_thin, clock_thin]

theorem lookups_thinned (root : String) : (r.thinned keep).lookups root = r.lookups root := by
  simp only [lookups, nonEmptyDirective?_thinned]
  rfl

variable {r}

theorem fits_thinned (h : r.Fits config workDir) : (r.thinned keep).Fits config workDir where
  narrated := by
    rw [events_thinned, countUtterances_thinned]
    exact h.narrated
  speakers := by
    rw [events_thinned, StoryMix.thinned, checkSpeakers_thin]
    exact h.speakers
  music := by
    rw [nonEmptyDirective?_thinned]
    exact h.music
  ambience := by
    rw [nonEmptyDirective?_thinned]
    exact h.ambience
  takes := allFit_thin h.takes

variable (r)

theorem gathers_lookups (root : String) : (r.lookups root).all (·.call.gathers) = true := by
  have hbed (id file : Option String) : (bedUses root id file).all (·.call.gathers) = true := by
    cases id with
    | none => rfl
    | some id => cases file <;> rfl
  rw [lookups, List.all_append, hbed, hbed]
  rfl

theorem spares_thinned (root : String) : Spares (r.steps root) ((r.thinned keep).steps root) := by
  rw [steps, steps, lookups_thinned]
  exact .append (.map_use (r.gathers_lookups root))
    (.append (spares_thin root .start 0 r.takes) (.map_log [_] [_]))

end Recording

/-! ## Builds -/

variable {V : Type} {view : Studio → V} {tools : Tools} {events : List Event} {s s' t : Studio}
  {timeline : Timeline}

/-- Whatever cues are left out, the timeline is the same without their placements, and the same calls
are made for the narration. -/
theorem build_thinned (htools : tools.DependOn view) (hquiet : tools.Quiet) (hst : view s = view t)
    (hbuild : build tools.recorded config workDir events s = .ok timeline s') (keep : Nat → Bool) :
    ∃ t', build tools.recorded config workDir (thinned keep events) t =
        .ok { timeline with effects := chosen keep timeline.effects } t' ∧
      ∃ calls calls', Adds calls s s' ∧ Adds calls' t t' ∧
        calls'.filter Call.narrates = calls.filter Call.narrates := by
  obtain ⟨r, rfl, hfits, hruns, rfl⟩ := build_eq_ok_iff.1 hbuild
  have hspares := r.spares_thinned keep config.assetsDir
  obtain ⟨t', hruns', -⟩ := runs_of_spares htools.recorded hspares hst hruns
  refine ⟨t', ?_, _, _, adds_of_runs hquiet hruns, adds_of_runs hquiet hruns',
    hspares.filter_narrates⟩
  rw [← r.events_thinned keep, ← r.timeline_thinned keep]
  exact build_eq_ok_iff.2 ⟨_, rfl, Recording.fits_thinned keep hfits, hruns', rfl⟩

/-- A bell before the narration and twice after it. -/
def belfry : List Event :=
  [.cue "bell" .now 0, .utterance "Ruby" "Hello", .cue "bell" .lastStart 0, .cue "bell" .lastEnd 1]

def ringing : Rehearsal :=
  { Rehearsal.plain with durations := [("Hello", 2)], assets := [("bell", "/assets/bell.wav")] }

theorem build_thinned_belfry :
    ∃ timeline s', build ringing.tools.recorded (.soloist "Ruby" "/ruby.wav") "/tmp/work" belfry
        .empty = .ok timeline s' ∧
      ∃ t', build ringing.tools.recorded (.soloist "Ruby" "/ruby.wav") "/tmp/work"
          (thinned (· != 1) belfry) .empty =
        .ok { timeline with effects := chosen (· != 1) timeline.effects } t' := by
  have hbuild : (build ringing.tools.recorded (.soloist "Ruby" "/ruby.wav") "/tmp/work"
      belfry).succeeds .empty = true := by decide +kernel
  obtain ⟨timeline, s', hbuild⟩ := Action.eq_ok_of_succeeds hbuild
  obtain ⟨t', hthinned, -⟩ := build_thinned ringing.dependOn_tools ringing.quiet_tools rfl hbuild
    (· != 1)
  exact ⟨timeline, s', hbuild, t', hthinned⟩

/-- Of the three bells the second is left out. -/
example : thinned (· != 1) belfry =
    [.cue "bell" .now 0, .utterance "Ruby" "Hello", .cue "bell" .lastEnd 1] := by decide +kernel

end Timeline

end StoryMix
