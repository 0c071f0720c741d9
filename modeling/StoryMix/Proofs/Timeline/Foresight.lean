import StoryMix.Mix.Compile
import StoryMix.Proofs.Script.Grammar
import StoryMix.Proofs.Timeline.Narration
import StoryMix.Proofs.Timeline.Stop

/-!
# What a build can know beforehand

Some of what can be wrong with a script does not depend on the tools: that nobody speaks, that a
speaker has no voice reference, that an anchor is unknown. A build looks for the first two before it
calls a tool, so what the walk checks again cannot fail there (`Foreseen`). The third is for the
reading of the script: the anchors of a script that could be read are known (`anchored_of_parse`).

The tools are taken to raise errors of their own kinds, or plain ones. A tool that raised a configuration
error itself could not be told from the check.
-/

namespace StoryMix

/-! ## What tools raise -/

namespace Thrown

/-- The error of a tool that speaks, measures, is silent or mixes. -/
def OfTool (e : Thrown) : Prop :=
  ∃ tool message cause, e = .failure (.externalTool tool message cause)

/-- What a tool may raise: its own error, or one that is no failure of a render at all. -/
def ByTool (e : Thrown) : Prop :=
  e.OfTool ∨ ∃ error, e = .error error

/-- The error of a search for an asset. -/
def OfAsset (e : Thrown) : Prop :=
  ∃ id tried, e = .failure (.assetResolution id tried)

end Thrown

/-- The tools raise no failures but those of their own kinds. -/
structure Tools.RaisesOwn (tools : Tools) : Prop where
  voice {request e s s'} : tools.voice request s = .error e s' → e.ByTool
  probe {file e s s'} : tools.probe file s = .error e s' → e.ByTool
  silence {request e s s'} : tools.silence request s = .error e s' → e.ByTool
  asset {root id e s s'} : tools.asset root id s = .error e s' → e.OfAsset
  mix {graph path e s s'} : tools.mix graph path s = .error e s' → e.ByTool

/-! ## The anchors of a script -/

namespace Script

variable {strict : Bool}

/-- An effect stands at an anchor that there is. -/
def Anchored : Event → Prop
  | .cue _ anchor _ => anchor.Known
  | _ => True

theorem known_of_read {p q : Placing} {token : List Char} (h : p.read strict token = .ok q)
    (hp : p.anchor.Known) : q.anchor.Known := by
  unfold Placing.read at h
  split at h
  · rename_i written _
    cases hname : Anchor.ofName (String.ofList (Text.lower written)) with
    | now =>
        rw [hname] at h
        cases h
        exact .inl rfl
    | lastStart =>
        rw [hname] at h
        cases h
        exact .inr (.inl rfl)
    | lastEnd =>
        rw [hname] at h
        cases h
        exact .inr (.inr rfl)
    | other name =>
        rw [hname] at h
        cases h
  · split at h
    · split at h
      · cases h
      · cases h
        exact hp
    · split at h
      · cases h
      · cases h
        exact hp

theorem known_of_readAll {p q : Placing} {tokens : List (List Char)}
    (h : p.readAll strict tokens = .ok q) (hp : p.anchor.Known) : q.anchor.Known := by
  induction tokens generalizing p with
  | nil =>
      cases h
      exact hp
  | cons token tokens ih =>
      unfold Placing.readAll at h
      split at h
      · cases h
      · exact ih h (known_of_read ‹_› hp)

theorem anchored_of_readTrimmed {line : List Char} {e : Event}
    (h : readTrimmed strict line = .ok (some e)) : Anchored e := by
  rcases readTrimmed_eq_some h with ⟨_, -, h⟩ | h | h | h
  · obtain ⟨_, _, -, rfl⟩ := readDirective_eq_ok h
    trivial
  · obtain ⟨_, -, -, rfl⟩ := readPause_eq_ok h
    trivial
  · obtain ⟨_, _, p, -, hplacing, rfl⟩ := readEffect_eq_ok h
    exact known_of_readAll hplacing (.inr (.inr rfl))
  · obtain ⟨_, _, -, -, -, rfl⟩ := readUtterance_eq_ok h
    trivial

theorem anchored_of_parse {script : String} {events : List Event}
    (h : parse strict script = .ok events) : ∀ e ∈ events, Anchored e := by
  intro e he
  obtain ⟨raw, -, hread⟩ := exists_line_of_mem h he
  exact anchored_of_readTrimmed hread

end Script

/-! ## The voices of the speakers -/

/-- The speaker has an entry of its own, which is not empty. -/
def ProducerConfig.Voices (config : ProducerConfig) (speaker : String) : Prop :=
  ∃ ref, config.speakerRefs.find? speaker = some ref ∧ ref ≠ ""

namespace Timeline

variable {config : ProducerConfig} {speaker : String}

def unvoicedMessage (speaker : String) : String :=
  "No voice reference configured for speaker \"" ++ speaker ++ "\". Provide --ref " ++ speaker ++
    "=/path/to/ref.wav"

/-- The one who has no voice, and all who speak before have one. -/
def FirstUnvoiced (config : ProducerConfig) (events : List Event) (speaker : String) : Prop :=
  ∃ before text after, events = before ++ .utterance speaker text :: after ∧
    (∀ earlier said, .utterance earlier said ∈ before → config.Voices earlier) ∧
    ¬ config.Voices speaker

theorem voiceReference_of_voices (h : config.Voices speaker) :
    ∃ ref, config.voiceReference speaker = .ok ref := by
  obtain ⟨ref, hfind⟩ := h
  exact ⟨ref, ProducerConfig.voiceReference_eq_ok.2 hfind⟩

theorem voiceReference_of_not_voices (h : ¬ config.Voices speaker) :
    config.voiceReference speaker = .error (.configuration (unvoicedMessage speaker)) := by
  have hfilter : (config.speakerRefs.find? speaker).filter (· ≠ "") = none := by
    cases hfind : config.speakerRefs.find? speaker with
    | none => rfl
    | some ref =>
        have hempty : ref = "" := by
          by_contra hne
          exact h ⟨ref, hfind, hne⟩
        simp [hempty]
  simp only [ProducerConfig.voiceReference, hfilter]
  rfl

/-- The check of the speakers finds the first who has no voice, or there is none. -/
theorem checkSpeakers_cases (config : ProducerConfig) (events : List Event) :
    (checkSpeakers config events = .ok () ∧
      ∀ speaker text, .utterance speaker text ∈ events → config.Voices speaker) ∨
    ∃ speaker, FirstUnvoiced config events speaker ∧
      checkSpeakers config events = .error (.configuration (unvoicedMessage speaker)) := by
  induction events with
  | nil => exact .inl ⟨rfl, nofun⟩
  | cons event events ih =>
      have hskip : checkSpeakers config (event :: events) = checkSpeakers config events →
          (∀ speaker text, event = .utterance speaker text → config.Voices speaker) →
          (checkSpeakers config (event :: events) = .ok () ∧
            ∀ speaker text, .utterance speaker text ∈ event :: events → config.Voices speaker) ∨
          ∃ speaker, FirstUnvoiced config (event :: events) speaker ∧
            checkSpeakers config (event :: events) =
              .error (.configuration (unvoicedMessage speaker)) := by
        intro hcheck hevent
        rw [hcheck]
        rcases ih with ⟨hok, hall⟩ | ⟨speaker, ⟨before, text, after, rfl, hbefore, hnone⟩, herror⟩
        · refine .inl ⟨hok, fun speaker text hmem => ?_⟩
          rcases List.mem_cons.1 hmem with heq | hmem
          · exact hevent speaker text heq.symm
          · exact hall speaker text hmem
        · refine .inr ⟨speaker, ⟨event :: before, text, after, rfl, ?_, hnone⟩, herror⟩
          intro earlier said hmem
          rcases List.mem_cons.1 hmem with heq | hmem
          · exact hevent earlier said heq.symm
          · exact hbefore earlier said hmem
      cases event with
      | utterance speaker text =>
          by_cases hvoices : config.Voices speaker
          · obtain ⟨ref, href⟩ := voiceReference_of_voices hvoices
            refine hskip ?_ ?_
            · simp only [checkSpeakers, href]
            · rintro _ _ ⟨⟩
              exact hvoices
          · refine .inr ⟨speaker, ⟨[], text, events, rfl, nofun, hvoices⟩, ?_⟩
            simp only [checkSpeakers, voiceReference_of_not_voices hvoices]
      | pause seconds => exact hskip rfl nofun
      | cue asset anchor offset => exact hskip rfl nofun
      | directive key value => exact hskip rfl nofun
      | other kind => exact hskip rfl nofun

theorem FirstUnvoiced.exists_mem {events : List Event} (h : FirstUnvoiced config events speaker) :
    ∃ text, .utterance speaker text ∈ events ∧ ¬ config.Voices speaker := by
  obtain ⟨before, text, after, rfl, -, hnone⟩ := h
  exact ⟨text, List.mem_append_right _ (List.mem_cons_self ..), hnone⟩

/-! ## What a build raises -/

section Build

variable {tools : Tools} {workDir : String} {events : List Event} {s s' : Studio} {e : Thrown}

theorem raises_of_fails (hown : tools.RaisesOwn) {c : Call} (hc : c.gathers = true)
    (h : c.Fails tools e s s') : e.ByTool ∨ e.OfAsset := by
  cases c with
  | voice request => exact .inl (hown.voice h)
  | probe file => exact .inl (hown.probe h)
  | silence request => exact .inl (hown.silence h)
  | asset root id => exact .inr (hown.asset h)
  | read | write | makeDir | makeTempDir | copy | rename | remove | mix | execute | mediaProbe
  | media | mediaStep | mediaRun => cases hc

/-- An anchor that cannot be placed is none that a script can have. -/
theorem place_eq_error {c : Clock} {anchor : Anchor} {offset : Float} {f : Failure}
    (h : c.place anchor offset = .error f) :
    ∃ name, anchor = .other name ∧ f = .anchor name none := by
  cases anchor with
  | now | lastStart | lastEnd => cases h
  | other name =>
      cases h
      exact ⟨name, rfl, rfl⟩

/-- There is an effect at an anchor of this name that there is not. -/
def Astray (events : List Event) (name : String) : Prop :=
  ∃ asset offset, .cue asset (.other name) offset ∈ events

/-- A walk over lines that all have a voice stops at a call or at an unknown anchor: the voice that is
looked for again is there. -/
theorem raised_of_walkStops {c : Clock} {n : Nat} {steps : List Step} {halt : Option Call}
    (h : WalkStops config workDir c n events steps halt e)
    (hvoices : ∀ speaker text, .utterance speaker text ∈ events → config.Voices speaker) :
    (∃ call, halt = some call ∧ call.gathers = true) ∨
      ∃ name, Astray events name ∧ e = .failure (.anchor name none) := by
  induction h with
  | here h =>
      cases h with
      | reference href =>
          obtain ⟨ref, hvoice⟩ := voiceReference_of_voices (hvoices _ _ (List.mem_cons_self ..))
          rw [hvoice] at href
          cases href
      | anchor hplace =>
          obtain ⟨name, rfl, rfl⟩ := place_eq_error hplace
          exact .inr ⟨name, ⟨_, _, List.mem_cons_self ..⟩, rfl⟩
      | voice | probe | silence | asset => exact .inl ⟨_, rfl, rfl⟩
  | later _ _ ih =>
      rcases ih fun speaker text hmem => hvoices speaker text (List.mem_cons_of_mem _ hmem) with
        hcall | ⟨name, ⟨asset, offset, hmem⟩, he⟩
      · exact .inl hcall
      · exact .inr ⟨name, ⟨asset, offset, List.mem_cons_of_mem _ hmem⟩, he⟩

theorem build_of_unnarrated (tools : Tools) (workDir : String) (s : Studio)
    (h : countUtterances events = 0) :
    build tools config workDir events s = .error (.failure .emptyDocument) s := by
  unfold build
  rw [if_pos h]
  rfl

theorem build_of_checkSpeakers (tools : Tools) (workDir : String) (s : Studio) {f : Failure}
    (hcount : countUtterances events ≠ 0) (h : checkSpeakers config events = .error f) :
    build tools config workDir events s = .error (.failure f) s := by
  unfold build
  rw [if_neg hcount, h]
  rfl

theorem build_of_resolveBeds (hchecked : Checked config events)
    (h : resolveBeds tools config events s = .error e s') :
    build tools config workDir events s = .error e s' := by
  unfold build
  rw [if_neg hchecked.narrated, hchecked.speakers]
  show EStateM.bind (resolveBeds tools config events) _ s = _
  rw [EStateM.bind, h]

/-- Three things can be: nobody speaks; somebody speaks and one who does has no voice; or both checks
are passed, and then it is a tool that fails, or an anchor is unknown. -/
theorem raised_of_build (hown : tools.RaisesOwn)
    (h : build tools config workDir events s = .error e s') :
    (countUtterances events = 0 ∧ e = .failure .emptyDocument) ∨
    (countUtterances events ≠ 0 ∧ ∃ speaker, FirstUnvoiced config events speaker ∧
      e = .failure (.configuration (unvoicedMessage speaker))) ∨
    (Checked config events ∧
      (e.ByTool ∨ e.OfAsset ∨ ∃ name, Astray events name ∧ e = .failure (.anchor name none))) := by
  by_cases hcount : countUtterances events = 0
  · rw [build_of_unnarrated tools workDir s hcount] at h
    cases h
    exact .inl ⟨hcount, rfl⟩
  rcases checkSpeakers_cases config events with ⟨hspeakers, hvoices⟩ | ⟨speaker, hfirst, herror⟩
  · refine .inr (.inr ⟨⟨hcount, hspeakers⟩, ?_⟩)
    obtain ⟨steps, halt, s₁, hstops, -, hhalts⟩ := build_eq_error h
    have htool {call : Call} (hcall : call.gathers = true)
        (hhalts : Halts tools s₁ (some call) e s') :
        e.ByTool ∨ e.OfAsset ∨ ∃ name, Astray events name ∧ e = .failure (.anchor name none) := by
      cases hhalts with
      | call hfails => exact (raises_of_fails hown hcall hfails).imp_right .inl
    cases hstops with
    | narration hzero => exact absurd hzero hcount
    | speakers _ herror =>
        rw [hspeakers] at herror
        cases herror
    | music => exact htool rfl hhalts
    | ambience => exact htool rfl hhalts
    | walk _ _ _ hwalk =>
        rcases raised_of_walkStops hwalk hvoices with ⟨call, rfl, hcall⟩ | hanchor
        · exact htool hcall hhalts
        · exact .inr (.inr hanchor)
  · rw [build_of_checkSpeakers tools workDir s hcount herror] at h
    cases h
    exact .inr (.inl ⟨hcount, speaker, hfirst, rfl⟩)

/-- A search for the beds that fails has looked for assets and for nothing else. -/
theorem resolveBeds_eq_error (h : resolveBeds tools config events s = .error e s') :
    ∃ (found : List Use) (id : String) (s₁ : Studio), Runs tools (found.map .use) s s₁ ∧
      (∀ u ∈ found, ∃ i file, u = .asset config.assetsDir i file) ∧
      tools.asset config.assetsDir id s₁ = .error e s' := by
  rcases Action.bind_eq_error h with h | ⟨music, s₁, hmusic, h⟩
  · obtain ⟨id, -, hfails⟩ := resolveBed_eq_error h
    exact ⟨[], id, s, rfl, nofun, hfails⟩
  obtain ⟨-, hruns⟩ := resolveBed_eq_ok.1 hmusic
  rcases Action.bind_eq_error h with h | ⟨ambience, s₂, -, h⟩
  · obtain ⟨id, -, hfails⟩ := resolveBed_eq_error h
    refine ⟨_, id, s₁, hruns, fun u hu => ?_, hfails⟩
    unfold bedUses at hu
    split at hu
    · obtain rfl := List.mem_singleton.1 hu
      exact ⟨_, _, rfl⟩
    · cases hu
  · cases h

/-- What is wrong with the events of a build, if anything is, and when that is found out. -/
structure Foreseen (tools : Tools) (config : ProducerConfig) (workDir : String)
    (events : List Event) (s : Studio) : Prop where
  unnarrated : (∃ s', build tools config workDir events s = .error (.failure .emptyDocument) s') ↔
    countUtterances events = 0
  unvoiced :
    (∃ message s',
      build tools config workDir events s = .error (.failure (.configuration message)) s') ↔
    countUtterances events ≠ 0 ∧
      ∃ speaker text, .utterance speaker text ∈ events ∧ ¬ config.Voices speaker
  named : ∀ message s',
    build tools config workDir events s = .error (.failure (.configuration message)) s' →
    ∃ speaker, FirstUnvoiced config events speaker ∧ message = unvoicedMessage speaker
  /-- Nothing has been done by then, and it would be the same with any other tools. -/
  untouched : ∀ f s', build tools config workDir events s = .error (.failure f) s' →
    f = .emptyDocument ∨ (∃ message, f = .configuration message) →
    s' = s ∧ ∀ others, build others config workDir events s = .error (.failure f) s
  beds : ∀ e s', Checked config events → resolveBeds tools config events s = .error e s' →
    build tools config workDir events s = .error e s' ∧ e.OfAsset ∧
      ∃ (found : List Use) (id : String) (s₁ : Studio), Runs tools (found.map .use) s s₁ ∧
        (∀ u ∈ found, ∃ i file, u = .asset config.assetsDir i file) ∧
        tools.asset config.assetsDir id s₁ = .error e s'
  /-- When the walk looks for a voice again, it is there. -/
  voiced : Checked config events → ∀ speaker text, .utterance speaker text ∈ events →
    ∃ ref, config.voiceReference speaker = .ok ref
  anchored : ∀ strict script, Script.parse strict script = .ok events →
    ∀ written line s',
      build tools config workDir events s ≠ .error (.failure (.anchor written line)) s'
  compiled : ∀ t s', build tools config workDir events s = .ok t s' →
    ∃ graph, Mix.compile t config = .ok graph

theorem voices_of_checked (h : Checked config events) {speaker text : String}
    (hmem : .utterance speaker text ∈ events) : config.Voices speaker := by
  rcases checkSpeakers_cases config events with ⟨-, hvoices⟩ | ⟨first, -, herror⟩
  · exact hvoices speaker text hmem
  · rw [h.speakers] at herror
    cases herror

theorem raised_configuration (hown : tools.RaisesOwn) {message : String}
    (h : build tools config workDir events s = .error (.failure (.configuration message)) s') :
    countUtterances events ≠ 0 ∧ ∃ speaker, FirstUnvoiced config events speaker ∧
      message = unvoicedMessage speaker := by
  rcases raised_of_build hown h with ⟨-, he⟩ | ⟨hcount, speaker, hfirst, he⟩ | ⟨-, he⟩
  · cases he
  · cases he
    exact ⟨hcount, speaker, hfirst, rfl⟩
  · rcases he with (⟨_, _, _, he⟩ | ⟨_, he⟩) | ⟨_, _, he⟩ | ⟨_, -, he⟩ <;> cases he

theorem raised_emptyDocument (hown : tools.RaisesOwn)
    (h : build tools config workDir events s = .error (.failure .emptyDocument) s') :
    countUtterances events = 0 := by
  rcases raised_of_build hown h with ⟨hcount, -⟩ | ⟨-, _, -, he⟩ | ⟨-, he⟩
  · exact hcount
  · cases he
  · rcases he with (⟨_, _, _, he⟩ | ⟨_, he⟩) | ⟨_, _, he⟩ | ⟨_, -, he⟩ <;> cases he

theorem not_anchor_of_parse (hown : tools.RaisesOwn) {strict : Bool} {script : String}
    (hparse : Script.parse strict script = .ok events) (written : String) (line : Option Float) :
    build tools config workDir events s ≠ .error (.failure (.anchor written line)) s' := by
  intro h
  rcases raised_of_build hown h with ⟨-, he⟩ | ⟨-, _, -, he⟩ | ⟨-, he⟩
  · cases he
  · cases he
  · rcases he with (⟨_, _, _, he⟩ | ⟨_, he⟩) | ⟨_, _, he⟩ | ⟨name, ⟨asset, offset, hmem⟩, -⟩
    · cases he
    · cases he
    · cases he
    · rcases Script.anchored_of_parse hparse _ hmem with hname | hname | hname <;> cases hname

theorem compile_of_build {t : Timeline} (h : build tools config workDir events s = .ok t s') :
    ∃ graph, Mix.compile t config = .ok graph := by
  obtain ⟨r, rfl, hfits, -, rfl⟩ := build_eq_ok_iff.1 h
  unfold Mix.compile
  rw [if_neg (segments_ne_nil hfits.narrated)]
  exact ⟨_, rfl⟩

theorem foreseen_of_raisesOwn (hown : tools.RaisesOwn) (config : ProducerConfig) (workDir : String)
    (events : List Event) (s : Studio) : Foreseen tools config workDir events s where
  unnarrated := by
    constructor
    · rintro ⟨s', h⟩
      exact raised_emptyDocument hown h
    · intro hcount
      exact ⟨s, build_of_unnarrated tools workDir s hcount⟩
  unvoiced := by
    constructor
    · rintro ⟨message, s', h⟩
      obtain ⟨hcount, speaker, hfirst, -⟩ := raised_configuration hown h
      obtain ⟨text, hmem, hnone⟩ := hfirst.exists_mem
      exact ⟨hcount, speaker, text, hmem, hnone⟩
    · rintro ⟨hcount, speaker, text, hmem, hnone⟩
      rcases checkSpeakers_cases config events with ⟨-, hvoices⟩ | ⟨first, -, herror⟩
      · exact absurd (hvoices speaker text hmem) hnone
      · exact ⟨_, s, build_of_checkSpeakers tools workDir s hcount herror⟩
  named message s' h := (raised_configuration hown h).2
  untouched f s' h := by
    rintro (rfl | ⟨message, rfl⟩)
    · have hcount := raised_emptyDocument hown h
      rw [build_of_unnarrated tools workDir s hcount] at h
      cases h
      exact ⟨rfl, fun others => build_of_unnarrated others workDir s hcount⟩
    · obtain ⟨hcount, speaker, hfirst, -⟩ := raised_configuration hown h
      rcases checkSpeakers_cases config events with ⟨-, hvoices⟩ | ⟨first, -, herror⟩
      · obtain ⟨text, hmem, hnone⟩ := hfirst.exists_mem
        exact absurd (hvoices speaker text hmem) hnone
      · rw [build_of_checkSpeakers tools workDir s hcount herror] at h
        cases h
        exact ⟨rfl, fun others => build_of_checkSpeakers others workDir s hcount herror⟩
  beds e s' hchecked h := by
    obtain ⟨found, id, s₁, hruns, hassets, hfails⟩ := resolveBeds_eq_error h
    exact ⟨build_of_resolveBeds hchecked h, hown.asset hfails, found, id, s₁, hruns, hassets, hfails⟩
  voiced hchecked speaker text hmem := voiceReference_of_voices (voices_of_checked hchecked hmem)
  anchored strict script hparse written line s' := not_anchor_of_parse hown hparse written line
  compiled t s' h := compile_of_build h

end Build

end Timeline

end StoryMix
