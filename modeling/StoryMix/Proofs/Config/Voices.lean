import StoryMix.Proofs.Config.Choice

/-!
# Voices from items

What a list of items comes to: the speakers that have an entry are those that some item is for, each has
the reference of its last item, and so has its voice, with the path resolved once the settings are loaded.
All of this is so but for the one name that an entry is lost for.
-/

namespace StoryMix

namespace ProducerConfig

variable {env : Environment} {cwd speaker path : String} {assetsDir outDir : Option String}
  {refs : SpeakerRefs} {config : ProducerConfig}

/-- Directories and references are asked for, and no gains. -/
def Overrides.ofRefs (assetsDir outDir : Option String) (refs : SpeakerRefs)
    (h : Entries.Distinct refs.entries) : Overrides where
  assetsDir := assetsDir
  outDir := outDir
  speakerRefs := some refs.entries
  narrationGainDb := none
  musicGainDb := none
  ambienceGainDb := none
  distinct given hgiven := by
    obtain rfl := Option.some.inj hgiven
    exact h

theorem load_overriding (h : Entries.Distinct refs.entries) :
    load env cwd (overriding assetsDir outDir refs) =
      load env cwd (Overrides.ofRefs assetsDir outDir refs h).toValue :=
  rfl

/-- A speaker that a reference is asked for has it resolved. -/
theorem find?_of_load (h : refs.Sound)
    (hload : load env cwd (overriding assetsDir outDir refs) = .ok config) {ref : String}
    (hfind : refs.find? speaker = some ref) :
    config.speakerRefs.find? speaker = some (Path.resolve cwd ref) := by
  have hspeaker : speaker ≠ SpeakerRefs.reserved :=
    h.unreserved _ ((Entries.mem_iff_lookup h.distinct).2 hfind)
  rw [load_overriding h.distinct] at hload
  obtain ⟨given, hgiven⟩ := given_of_load hload
  exact ((settles_of_load hgiven hload).refs speaker _).2 ⟨hspeaker, ref, .inl hfind, rfl⟩

/-- The one name has no entry, whatever is asked for. -/
theorem find?_reserved_of_load (h : refs.Sound)
    (hload : load env cwd (overriding assetsDir outDir refs) = .ok config) :
    config.speakerRefs.find? SpeakerRefs.reserved ≠ some path := by
  rw [load_overriding h.distinct] at hload
  obtain ⟨given, hgiven⟩ := given_of_load hload
  intro hfind
  exact (((settles_of_load hgiven hload).refs SpeakerRefs.reserved path).1 hfind).1 rfl

end ProducerConfig

namespace SpeakerRefs

variable {source item speaker ref : String} {items : List String} {refs : SpeakerRefs}

/-- The references that the last items give, but for the one name. -/
structure Collects (items : List String) (refs : SpeakerRefs) : Prop where
  distinct : Entries.Distinct refs.entries
  speakers : ∀ speaker, speaker ∈ refs.entries.map Prod.fst ↔
    speaker ≠ reserved ∧ ∃ item ∈ items, ∃ ref, Gives item speaker ref
  references : ∀ speaker ref, refs.find? speaker = some ref ↔
    speaker ≠ reserved ∧ LastGives items speaker ref
  /-- Settings with just these references. -/
  voices : ∀ config : ProducerConfig, config.speakerRefs = refs → ∀ speaker ref,
    config.voiceReference speaker = .ok ref ↔ speaker ≠ reserved ∧ LastGives items speaker ref ∧ ref ≠ ""
  /-- Settings that these references are asked for, beside what the variables say. -/
  loaded : ∀ env cwd assetsDir outDir config,
    ProducerConfig.load env cwd (ProducerConfig.overriding assetsDir outDir refs) = .ok config →
    ∀ speaker ref, LastGives items speaker ref →
      (config.voiceReference speaker = .ok (Path.resolve cwd ref) ↔ speaker ≠ reserved)

theorem mem_speakers_iff (h : ofItems source items = .ok refs) :
    speaker ∈ refs.entries.map Prod.fst ↔
      speaker ≠ reserved ∧ ∃ item ∈ items, ∃ ref, Gives item speaker ref := by
  have hdistinct := (sound_ofItems h).distinct
  calc speaker ∈ refs.entries.map Prod.fst
    _ ↔ ∃ ref, refs.find? speaker = some ref := by
        simp only [List.mem_map, Prod.exists, exists_and_right, exists_eq_right]
        exact exists_congr fun ref => Entries.mem_iff_lookup hdistinct
    _ ↔ ∃ ref, speaker ≠ reserved ∧ LastGives items speaker ref :=
        exists_congr fun ref => find?_ofItems h
    _ ↔ _ := by rw [exists_and_left, exists_lastGives_iff]

theorem collects_ofItems (h : ofItems source items = .ok refs) : Collects items refs where
  distinct := (sound_ofItems h).distinct
  speakers speaker := mem_speakers_iff h
  references speaker ref := find?_ofItems h
  voices config hconfig speaker ref := by
    rw [ProducerConfig.voiceReference_eq_ok, hconfig, find?_ofItems h, and_assoc]
  loaded env cwd assetsDir outDir config hload speaker ref hlast := by
    have hsound := sound_ofItems h
    rw [ProducerConfig.voiceReference_eq_ok]
    constructor
    · rintro ⟨hfind, -⟩ rfl
      exact ProducerConfig.find?_reserved_of_load hsound hload hfind
    · intro hspeaker
      have hfind : refs.find? speaker = some ref := (find?_ofItems h).2 ⟨hspeaker, hlast⟩
      exact ⟨ProducerConfig.find?_of_load hsound hload hfind, Path.resolve_ne_empty cwd ref⟩

/-- Items give each speaker what the last item for it says, but to the one name they give nothing. They
fail just when there is an item without a sign between speaker and reference, and the first is named. -/
theorem ofItems_collects (source : String) (items : List String) :
    ((∃ f, ofItems source items = .error f) ↔ ∃ item ∈ items, '=' ∉ item.toList) ∧
    (∀ before item after, items = before ++ item :: after →
      (∀ other ∈ before, '=' ∈ other.toList) → '=' ∉ item.toList →
      ofItems source items = .error (.configuration (itemMessage source item))) ∧
    ∀ refs, ofItems source items = .ok refs → Collects items refs := by
  refine ⟨?_, ?_, fun refs h => collects_ofItems h⟩
  · rcases mem_or_first items with hall | ⟨before, item, after, rfl, hbefore, hitem⟩
    · obtain ⟨refs, hrefs⟩ := exists_addItems hall source empty
      refine iff_of_false ?_ ?_
      · rintro ⟨f, hfails⟩
        cases hrefs.symm.trans hfails
      · rintro ⟨item, hmem, hitem⟩
        exact hitem (hall item hmem)
    · exact iff_of_true ⟨_, addItems_of_not_mem hbefore hitem source empty⟩ ⟨item, by simp, hitem⟩
  · rintro before item after rfl hbefore hitem
    exact addItems_of_not_mem hbefore hitem source empty

/-- Two items for one speaker, and one for the name that has no entry. -/
def lost : List String :=
  ["Ruby=first.wav", "__proto__=lost.wav", "Ruby=last.wav"]

/-- An item for no speaker is named. The last item counts, and an item for the one name does not. -/
theorem ofItems_collects_lost :
    ofItems "--ref" ("Ruby" :: lost) =
        .error (.configuration "--ref expects SPEAKER=/path/to/ref.wav, got: Ruby") ∧
    ∃ refs, ofItems "--ref" lost = .ok refs ∧ refs.find? "Ruby" = some "last.wav" ∧
      LastGives lost reserved "lost.wav" ∧ reserved ∉ refs.entries.map Prod.fst := by
  refine ⟨(ofItems_collects "--ref" ("Ruby" :: lost)).2.1 [] "Ruby" lost rfl nofun (by simp), ?_⟩
  obtain ⟨hfails, -, hcollects⟩ := ofItems_collects "--ref" lost
  have hsigns : ∀ item ∈ lost, '=' ∈ item.toList := by simp [lost]
  cases hrefs : ofItems "--ref" lost with
  | error f =>
      obtain ⟨item, hmem, hitem⟩ := hfails.1 ⟨f, hrefs⟩
      exact absurd (hsigns item hmem) hitem
  | ok refs =>
      obtain ⟨-, hspeakers, hreferences, -, -⟩ := hcollects refs hrefs
      refine ⟨refs, rfl, (hreferences _ _).2 ⟨by decide, ?_⟩, ?_, fun hmem => ((hspeakers _).1 hmem).1 rfl⟩
      · exact ⟨["Ruby=first.wav", "__proto__=lost.wav"], "Ruby=last.wav", [], rfl, ⟨by simp, rfl⟩, nofun⟩
      · refine ⟨["Ruby=first.wav"], "__proto__=lost.wav", ["Ruby=last.wav"], rfl, ⟨by decide, rfl⟩, ?_⟩
        rintro other hother ref ⟨-, rfl⟩
        exact absurd (List.mem_singleton.1 hother) (by simp [reserved, String.ext_iff])

end SpeakerRefs

end StoryMix
