import StoryMix.Proofs.Timeline.Stop

/-!
# The calls planned for a script

Which calls a build makes is settled by the script but for one thing: what is measured after a line
has been spoken is the file that the voice answered with. `plannedFor` therefore goes through the
events with the files that the voice gives. A build that gives a timeline has made the planned calls
and no others (`callsOf_recording`); one that fails has made some of them from the first on, the last
of which may be the one that failed (`planned_of_buildStops`).
-/

namespace StoryMix

/-- What the voice answered, if that is what the step was. -/
def Step.voiced? : Step → Option String
  | use (.voice _ file) => some file
  | _ => none

def voicedIn (steps : List Step) : List String :=
  steps.filterMap Step.voiced?

@[simp] theorem voicedIn_append (xs ys : List Step) :
    voicedIn (xs ++ ys) = voicedIn xs ++ voicedIn ys :=
  List.filterMap_append

namespace Timeline

section

variable (config : ProducerConfig) (workDir : String)

/-- The calls for events when `n` segments have been made and the voice is going to answer with these
files. A line is measured as soon as it is spoken. -/
def plannedFor (n : Nat) (files : List String) : List Event → List Call
  | [] => []
  | .utterance speaker text :: events =>
    let path := speechFile workDir (n + 1) speaker
    .voice ⟨(config.voiceReference speaker).toOption.getD "", text, path⟩ ::
      .probe (files.headD path) :: plannedFor (n + 1) files.tail events
  | .pause seconds :: events =>
    .silence ⟨seconds, silenceRate, "mono", silenceFile workDir (n + 1)⟩ ::
      plannedFor (n + 1) files events
  | .cue asset _ _ :: events => .asset config.assetsDir asset :: plannedFor n files events
  | .directive _ _ :: events => plannedFor n files events
  | .other _ :: events => plannedFor n files events

/-- The music is looked up before the ambience, each if a directive names it. -/
def bedCalls (events : List Event) : List Call :=
  ((nonEmptyDirective? events "music").toList ++
    (nonEmptyDirective? events "ambience").toList).map (.asset config.assetsDir)

/-- The calls of a build. -/
def buildCalls (events : List Event) (files : List String) : List Call :=
  bedCalls config events ++ plannedFor config workDir 0 files events

end

variable {config : ProducerConfig} {workDir : String} {c : Clock} {n : Nat} {events : List Event}
  {steps : List Step} {halt : Option Call} {e : Thrown}

theorem gathers_of_mem_plannedFor {call : Call} {files : List String}
    (h : call ∈ plannedFor config workDir n files events) : call.gathers = true := by
  induction events generalizing n files with
  | nil => cases h
  | cons event events ih =>
      cases event with
      | utterance speaker text =>
          rcases List.mem_cons.1 h with rfl | h
          · rfl
          rcases List.mem_cons.1 h with rfl | h
          · rfl
          · exact ih h
      | pause seconds =>
          rcases List.mem_cons.1 h with rfl | h
          · rfl
          · exact ih h
      | cue asset anchor offset =>
          rcases List.mem_cons.1 h with rfl | h
          · rfl
          · exact ih h
      | directive key value => exact ih h
      | other kind => exact ih h

theorem gathers_of_mem_buildCalls {call : Call} {files : List String}
    (h : call ∈ buildCalls config workDir events files) : call.gathers = true := by
  rcases List.mem_append.1 h with h | h
  · obtain ⟨id, -, rfl⟩ := List.mem_map.1 h
    rfl
  · exact gathers_of_mem_plannedFor h

/-! ## The walk -/

theorem callsOf_take (root : String) (c : Clock) (t : Take) :
    callsOf (t.steps root c) = (t.uses root).map Use.call := by
  simp [Take.steps]

/-- A take of the first event is what is planned for it. -/
theorem plannedFor_take {t : Take} (h : t.Fits config workDir c n) (files : List String) :
    plannedFor config workDir n (voicedIn (t.steps config.assetsDir c) ++ files)
        (t.event :: events) =
      callsOf (t.steps config.assetsDir c) ++
        plannedFor config workDir (n + t.count) files events := by
  rw [callsOf_take]
  cases t with
  | speech speaker request file duration =>
      obtain ⟨reference, text, path⟩ := request
      obtain ⟨href, hpath⟩ := h
      dsimp only at href hpath
      subst hpath
      simp only [Take.event, plannedFor, href]
      rfl
  | silence request file =>
      obtain ⟨seconds, rate, layout, path⟩ := request
      cases h
      rfl
  | effect asset anchor offset startTime file => rfl
  | directive key value => rfl
  | other kind => rfl

theorem callsOf_stepsOf {takes : List Take} (h : AllFit config workDir c n takes) :
    callsOf (stepsOf config.assetsDir c takes) =
      plannedFor config workDir n (voicedIn (stepsOf config.assetsDir c takes))
        (takes.map Take.event) := by
  induction takes generalizing c n with
  | nil => rfl
  | cons t ts ih =>
      obtain ⟨hfits, hall⟩ := h
      simp only [stepsOf, callsOf_append, voicedIn_append, List.map_cons]
      rw [plannedFor_take hfits, ih hall]

/-- The work on an event stops within what is planned for it. -/
theorem planned_of_stops {event : Event} {uses : List Use}
    (h : Stops config workDir c n event uses halt e) :
    uses.map Use.call ++ halt.toList <+:
      plannedFor config workDir n (voicedIn (uses.map .use)) (event :: events) := by
  cases h with
  | reference | anchor => exact List.nil_prefix
  | voice href =>
      simp only [plannedFor, href]
      exact List.prefix_append [_] _
  | probe href =>
      simp only [plannedFor, href]
      exact List.prefix_append [_, _] _
  | silence => exact List.prefix_append [_] _
  | asset => exact List.prefix_append [_] _

theorem planned_of_walkStops (h : WalkStops config workDir c n events steps halt e) :
    callsOf steps ++ halt.toList <+: plannedFor config workDir n (voicedIn steps) events := by
  induction h with
  | here h =>
      rw [callsOf_map_use]
      exact planned_of_stops h
  | later hfits _ ih =>
      rw [callsOf_append, voicedIn_append, List.append_assoc, plannedFor_take hfits]
      exact (List.prefix_append_right_inj _).2 ih

/-! ## The build -/

theorem map_call_bedUses {root : String} {id file : Option String} (h : file.isSome = id.isSome) :
    (bedUses root id file).map Use.call = id.toList.map (.asset root) := by
  cases id with
  | none => rfl
  | some id =>
      obtain ⟨file, rfl⟩ := Option.isSome_iff_exists.1 h
      rfl

theorem voicedIn_bedUses (root : String) (id file : Option String) :
    voicedIn ((bedUses root id file).map .use) = [] := by
  cases id with
  | none => rfl
  | some id => cases file <;> rfl

/-- A recording is all that was planned, in its order. -/
theorem callsOf_recording {r : Recording} (h : r.Fits config workDir) :
    callsOf (r.steps config.assetsDir) =
      buildCalls config workDir r.events (voicedIn (r.steps config.assetsDir)) := by
  have hbeds : callsOf ((r.lookups config.assetsDir).map .use) = bedCalls config r.events := by
    rw [callsOf_map_use, Recording.lookups, List.map_append, map_call_bedUses h.music,
      map_call_bedUses h.ambience, ← List.map_append]
    rfl
  have hquiet : voicedIn ((r.lookups config.assetsDir).map .use) = [] := by
    simp only [Recording.lookups, List.map_append, voicedIn_append, voicedIn_bedUses,
      List.append_nil]
  have hlog : voicedIn [.log (builtEntry r.timeline)] = [] := rfl
  have hlog' : callsOf [.log (builtEntry r.timeline)] = [] := rfl
  simp only [Recording.steps, callsOf_append, voicedIn_append, hbeds, hquiet, hlog, hlog',
    List.append_nil, List.nil_append, buildCalls, callsOf_stepsOf h.takes]
  rfl

/-- A build that stops has kept to the plan till then. -/
theorem planned_of_buildStops (h : BuildStops config workDir events steps halt e) :
    callsOf steps ++ halt.toList <+: buildCalls config workDir events (voicedIn steps) := by
  unfold buildCalls bedCalls
  cases h with
  | narration => exact List.nil_prefix
  | speakers => exact List.nil_prefix
  | music _ hid =>
      rw [hid]
      exact List.prefix_append [_] _
  | ambience _ hmusic hid =>
      rw [callsOf_map_use, map_call_bedUses hmusic, hid, List.map_append, List.append_assoc]
      exact (List.prefix_append_right_inj _).2 (List.prefix_append [_] _)
  | walk _ hmusic hambience hstops =>
      simp only [List.map_append, callsOf_append, callsOf_map_use, voicedIn_append,
        map_call_bedUses hmusic, map_call_bedUses hambience, voicedIn_bedUses, List.nil_append,
        List.append_assoc]
      exact (List.prefix_append_right_inj _).2
        ((List.prefix_append_right_inj _).2 (planned_of_walkStops hstops))

end Timeline

end StoryMix
