import StoryMix.Proofs.Timeline.Take

/-!
# Tracks

A track follows its takes: the segments are those of the narrated takes, the effects those of the
cues, and cutting the takes in two cuts the track in two. Here are the counts and the cuts that what
is claimed of a timeline is read off by.
-/

namespace StoryMix

namespace Event

def isNarrated : Event → Bool
  | utterance .. => true
  | pause _ => true
  | _ => false

def isCue : Event → Bool
  | cue .. => true
  | _ => false

end Event

namespace Timeline

namespace Take

def isNarrated (t : Take) : Bool :=
  t.event.isNarrated

theorem countP_event_cons (t : Take) (es : List Event) :
    (t.event :: es).countP Event.isNarrated = t.count + es.countP Event.isNarrated := by
  rw [List.countP_cons, Nat.add_comm]
  cases t <;> rfl

theorem length_segment? (c : Clock) (t : Take) : (t.segment? c).toList.length = t.count := by
  cases t <;> rfl

theorem isSome_placement? (t : Take) : t.placement?.isSome = t.event.isCue := by
  cases t <;> rfl

theorem eq_effect {t : Take} {asset : String} {anchor : Anchor} {offset : Float}
    (h : t.event = .cue asset anchor offset) :
    ∃ startTime file, t = .effect asset anchor offset startTime file := by
  cases t <;> cases h
  exact ⟨_, _, rfl⟩

end Take

def Track.append (first rest : Track) : Track :=
  ⟨first.segments ++ rest.segments, first.effects ++ rest.effects, rest.clock⟩

variable {tools : Tools} {config : ProducerConfig} {workDir : String}

/-! ## Counts -/

theorem length_segments (c : Clock) (takes : List Take) :
    (trackOf c takes).segments.length = (takes.map Take.event).countP Event.isNarrated := by
  induction takes generalizing c with
  | nil => rfl
  | cons t ts ih =>
      rw [trackOf, Take.onto, List.length_append, ih, List.map_cons, t.countP_event_cons,
        t.length_segment?]

theorem effects_trackOf (c : Clock) (takes : List Take) :
    (trackOf c takes).effects = takes.filterMap Take.placement? := by
  induction takes generalizing c with
  | nil => rfl
  | cons t ts ih =>
      rw [trackOf, Take.onto, ih, List.filterMap_cons]
      cases t.placement? <;> rfl

theorem length_filterMap_placement? (takes : List Take) :
    (takes.filterMap Take.placement?).length = (takes.map Take.event).countP Event.isCue := by
  induction takes with
  | nil => rfl
  | cons t ts ih =>
      rw [List.map_cons, List.countP_cons, ← ih, ← t.isSome_placement?, List.filterMap_cons]
      cases t.placement? <;> rfl

/-! ## Steps -/

theorem mem_stepsOf {root : String} {c : Clock} {takes : List Take} {t : Take} {u : Use}
    (ht : t ∈ takes) (hu : u ∈ t.uses root) : .use u ∈ stepsOf root c takes := by
  induction takes generalizing c with
  | nil => cases ht
  | cons t' ts ih =>
      rw [stepsOf, List.mem_append]
      rcases List.mem_cons.1 ht with rfl | ht
      · exact .inl (List.mem_append_left _ (List.mem_map_of_mem hu))
      · exact .inr (ih ht)

theorem Recording.mem_steps {root : String} {r : Recording} {t : Take} {u : Use}
    (ht : t ∈ r.takes) (hu : u ∈ t.uses root) : .use u ∈ r.steps root :=
  List.mem_append_right _ (List.mem_append_left _ (mem_stepsOf ht hu))

theorem usesOf_stepsOf (root : String) (c : Clock) (takes : List Take) :
    usesOf (stepsOf root c takes) = takes.flatMap (Take.uses root) := by
  induction takes generalizing c with
  | nil => rfl
  | cons t ts ih => simp [stepsOf, Take.steps, ih]

/-- How the tools were used for a recording. -/
def Recording.uses (root : String) (r : Recording) : List Use :=
  r.lookups root ++ r.takes.flatMap (Take.uses root)

theorem Recording.usesOf_steps (root : String) (r : Recording) :
    usesOf (r.steps root) = r.uses root := by
  simp only [Recording.steps, usesOf_append, usesOf_map_use, usesOf_stepsOf, Recording.uses]
  exact congrArg _ (List.append_nil _)

/-! ## Cuts -/

theorem Track.append_onto (c : Clock) (t : Take) (x y : Track) :
    (t.onto c x).append y = t.onto c (x.append y) := by
  simp only [Take.onto, Track.append, List.append_assoc]

/-- A walk cut in two: the second part goes on from where the first has come to. -/
theorem walk_append_eq_ok {c : Clock} {n : Nat} {xs ys : List Event} {track : Track}
    {s s' : Studio} :
    walk tools config workDir c n (xs ++ ys) s = .ok track s' ↔
      ∃ (first rest : Track) (s₁ : Studio), walk tools config workDir c n xs s = .ok first s₁
        ∧ walk tools config workDir first.clock (n + xs.countP Event.isNarrated) ys s₁ = .ok rest s'
        ∧ track = first.append rest := by
  induction xs generalizing c n s track with
  | nil =>
      constructor
      · intro h
        exact ⟨⟨[], [], c⟩, track, s, rfl, h, rfl⟩
      · rintro ⟨first, rest, s₁, hfirst, hrest, rfl⟩
        obtain ⟨rfl, rfl⟩ := Action.pure_eq_ok.1 hfirst
        exact hrest
  | cons e es ih =>
      simp only [List.cons_append, walk_cons_eq_ok, ih]
      constructor
      · rintro ⟨t, s₁, _, rfl, hfits, hruns, ⟨first, rest, s₂, hfirst, hrest, rfl⟩, rfl⟩
        refine ⟨t.onto c first, rest, s₂, ⟨t, s₁, first, rfl, hfits, hruns, hfirst, rfl⟩, ?_,
          (Track.append_onto ..).symm⟩
        rw [Take.countP_event_cons, ← Nat.add_assoc]
        exact hrest
      · rintro ⟨_, rest, s₂, ⟨t, s₁, first, rfl, hfits, hruns, hfirst, rfl⟩, hrest, rfl⟩
        rw [Take.countP_event_cons, ← Nat.add_assoc] at hrest
        exact ⟨t, s₁, _, rfl, hfits, hruns, ⟨first, rest, s₂, hfirst, hrest, rfl⟩,
          Track.append_onto ..⟩

end Timeline

end StoryMix
