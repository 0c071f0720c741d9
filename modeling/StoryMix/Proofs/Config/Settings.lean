import StoryMix.Config.Settings
import StoryMix.Proofs.Config.Schema

/-!
# What is asked for

Directories and references that are asked for, beside what the environment says. The order in which
references are asked for does not count, but for the order in which names other than places come, so
references that are put in order ask for the same (`load_ordered`). And if the settings can be loaded,
no text that is asked for is empty.
-/

namespace StoryMix

namespace SpeakerRefs

variable {refs : SpeakerRefs} {source : String}

/-- Each speaker once, and none of the name that none can have. -/
structure Sound (refs : SpeakerRefs) : Prop where
  distinct : Entries.Distinct refs.entries
  unreserved : ∀ e ∈ refs.entries, e.1 ≠ reserved

theorem sound_empty : empty.Sound :=
  ⟨List.nodup_nil, nofun⟩

theorem sound_put (h : refs.Sound) (speaker ref : String) : (refs.put speaker ref).Sound := by
  unfold put
  split
  · exact h
  · rename_i hspeaker
    refine ⟨Entries.distinct_put h.distinct speaker ref, fun e he => ?_⟩
    rcases Entries.mem_put he with he | rfl
    · exact h.unreserved e he
    · exact hspeaker

theorem sound_addItems {items : List String} {refs' : SpeakerRefs} (h : refs.Sound)
    (hitems : refs.addItems source items = .ok refs') : refs'.Sound := by
  induction items generalizing refs with
  | nil =>
      cases hitems
      exact h
  | cons item items ih =>
      unfold addItems at hitems
      split at hitems
      · cases hitems
      · exact ih (sound_put h _ _) hitems

theorem sound_ofItems {items : List String} (h : ofItems source items = .ok refs) : refs.Sound :=
  sound_addItems sound_empty h

/-- The same references in the order in which they are gone through. -/
def ordered (refs : SpeakerRefs) : SpeakerRefs :=
  ⟨Entries.inOrder refs.entries⟩

end SpeakerRefs

namespace ProducerConfig

variable {env : Environment} {cwd : String} {assetsDir outDir : Option String} {refs : SpeakerRefs}

theorem sound_refsOfEnvironment (h : refsOfEnvironment env = .ok refs) : refs.Sound := by
  unfold refsOfEnvironment at h
  split at h
  · cases h
    exact SpeakerRefs.sound_empty
  · exact SpeakerRefs.sound_ofItems h

/-- What is asked for. -/
def overriding (assetsDir outDir : Option String) (refs : SpeakerRefs) : Value :=
  .record [("assetsDir", .ofText? assetsDir), ("outDir", .ofText? outDir),
    ("speakerRefs", refs.toValue)]

theorem distinct_written {entries : List (String × String)} (h : Entries.Distinct entries) :
    Entries.Distinct (Check.written entries) :=
  Entries.distinct_map h Value.text

theorem overlaid_eq (env refs : SpeakerRefs) :
    overlaid env refs.toValue = Entries.putAll (Check.written env.entries) (Check.written refs.entries) :=
  rfl

theorem inOrder_overlaid_ordered {env : SpeakerRefs} (henv : env.Sound) (hrefs : refs.Sound) :
    Entries.inOrder (overlaid env refs.ordered.toValue) = Entries.inOrder (overlaid env refs.toValue) := by
  have hwritten : Check.written refs.ordered.entries = Entries.inOrder (Check.written refs.entries) :=
    (Entries.inOrder_map _ _).symm
  rw [overlaid_eq, overlaid_eq, hwritten]
  exact Entries.inOrder_putAll_inOrder (distinct_written henv.distinct) (distinct_written hrefs.distinct)

/-- References count in the order in which they are gone through. -/
theorem check_chosen_congr {env' refs' : SpeakerRefs}
    (h : Entries.inOrder (overlaid env' refs'.toValue) = Entries.inOrder (overlaid env' refs.toValue)) :
    check (chosen env (overriding assetsDir outDir refs') env') =
      check (chosen env (overriding assetsDir outDir refs) env') := by
  have hrefs : Check.refs (.record (overlaid env' refs'.toValue)) =
      Check.refs (.record (overlaid env' refs.toValue)) := by
    rw [Check.refs, Check.refs, h]
  have hfield : Check.field "speakerRefs" (.orDefault .empty .refs)
        (chosen env (overriding assetsDir outDir refs') env') =
      Check.field "speakerRefs" (.orDefault .empty .refs)
        (chosen env (overriding assetsDir outDir refs) env') :=
    congrArg (Checked.within "speakerRefs") hrefs
  exact congrArg (fun refs => ProducerConfig.mk
    <$> Check.field "assetsDir" (.orDefault "assets" .text) _
    <*> Check.field "outDir" (.orDefault "out" .text) _
    <*> refs
    <*> Check.field "narrationGainDb" (.orDefault 0 .number) _
    <*> Check.field "musicGainDb" (.orDefault (-18) .number) _
    <*> Check.field "ambienceGainDb" (.orDefault (-22) .number) _) hfield

theorem load_ordered (hrefs : refs.Sound) :
    load env cwd (overriding assetsDir outDir refs.ordered) =
      load env cwd (overriding assetsDir outDir refs) := by
  unfold load
  split
  · rfl
  · rename_i env' henv
    rw [check_chosen_congr (inOrder_overlaid_ordered (sound_refsOfEnvironment henv) hrefs)]

/-- A text that passes was not asked for as an empty one. -/
theorem ne_empty_of_chosenText {name variableName default given : String} {o : Option String}
    {overrides : Value} (hname : overrides.field name = .ofText? o)
    (h : Check.orDefault default .text (chosenText env overrides name variableName) = .ok given) :
    o ≠ some "" := by
  rintro rfl
  rw [chosenText, hname] at h
  obtain ⟨htext, hgiven⟩ := Check.text_eq_ok.1 (show Check.text (.text "") = .ok given from h)
  exact hgiven (Value.text.inj htext).symm

/-- All references that are asked for are among those that pass. -/
theorem ne_empty_of_overlaid {env refs passed : SpeakerRefs} (henv : env.Sound) (hrefs : refs.Sound)
    (h : Check.refs (.record (overlaid env refs.toValue)) = .ok passed) :
    ∀ e ∈ refs.entries, e.2 ≠ "" := by
  obtain ⟨es, hes, hne, -⟩ := Check.refs_eq_ok.1 h
  intro e he
  have hasked : (e.1, Value.text e.2) ∈ Check.written refs.entries :=
    List.mem_map.2 ⟨e, he, rfl⟩
  have hoverlaid : (e.1, Value.text e.2) ∈ overlaid env refs.toValue := by
    rw [overlaid_eq, Entries.mem_iff_lookup (Entries.distinct_putAll (distinct_written henv.distinct) _),
      Entries.lookup_putAll (distinct_written hrefs.distinct),
      (Entries.mem_iff_lookup (distinct_written hrefs.distinct)).1 hasked]
    rfl
  have hpassed : (e.1, Value.text e.2) ∈ Check.written es := by
    rw [← hes]
    exact (Entries.inOrder_perm _).mem_iff.2 hoverlaid
  obtain ⟨e', he', heq⟩ := List.mem_map.1 hpassed
  have href : e'.2 = e.2 := Value.text.inj (Prod.mk.inj heq).2
  exact href ▸ hne e' he'

/-- No text that was asked for was empty. -/
theorem texts_of_load (hrefs : refs.Sound) {config : ProducerConfig}
    (h : load env cwd (overriding assetsDir outDir refs) = .ok config) :
    assetsDir ≠ some "" ∧ outDir ≠ some "" ∧ ∀ e ∈ refs.entries, e.2 ≠ "" := by
  unfold load at h
  split at h
  · cases h
  · rename_i env' henv
    split at h
    · rename_i config' hcheck
      obtain ⟨_, _, hconfig, -⟩ := Checked.seq_eq_ok.1 hcheck
      obtain ⟨_, _, hconfig, -⟩ := Checked.seq_eq_ok.1 hconfig
      obtain ⟨_, _, hconfig, -⟩ := Checked.seq_eq_ok.1 hconfig
      obtain ⟨_, _, hconfig, hpassed, -⟩ := Checked.seq_eq_ok.1 hconfig
      obtain ⟨_, _, hconfig, hout, -⟩ := Checked.seq_eq_ok.1 hconfig
      obtain ⟨_, hassets, -⟩ := Checked.map_eq_ok.1 hconfig
      exact ⟨ne_empty_of_chosenText rfl (Check.field_eq_ok.1 hassets),
        ne_empty_of_chosenText rfl (Check.field_eq_ok.1 hout),
        ne_empty_of_overlaid (sound_refsOfEnvironment henv) hrefs (Check.field_eq_ok.1 hpassed)⟩
    · cases h

end ProducerConfig

end StoryMix
