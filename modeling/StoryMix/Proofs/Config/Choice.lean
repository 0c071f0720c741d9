import StoryMix.Proofs.Config.Items
import StoryMix.Proofs.Path

/-!
# How settings are chosen

Each setting is chosen by itself: what is asked for counts, else what the variables say, else the default.
References are chosen speaker by speaker. Then all that was chosen is checked, and only what passes is
resolved; so the settings fail just when something was chosen that cannot be used, and then all of that is
named (`load_eq`).

The settings that come out can be asked for in turn. Nothing is left for the variables to say then but
references that are asked for as well, and a resolved path stays as it is.
-/

namespace StoryMix

namespace ProducerConfig

/-- What is asked for: any of the settings. No speaker is asked for twice. -/
structure Overrides where
  assetsDir : Option String
  outDir : Option String
  speakerRefs : Option (List (String × String))
  narrationGainDb : Option Float
  musicGainDb : Option Float
  ambienceGainDb : Option Float
  distinct : ∀ refs ∈ speakerRefs, Entries.Distinct refs

/-- Settings before they are checked. -/
structure Choice where
  assetsDir : String
  outDir : String
  refs : List (String × String)
  narrationGainDb : Float
  musicGainDb : Float
  ambienceGainDb : Float

/-- What is asked for, else what is given, else the default. -/
def choose {α : Type} (asked given : Option α) (default : α) : α :=
  (asked.or given).getD default

namespace Overrides

variable (o : Overrides)

def toValue : Value :=
  .record [
    ("assetsDir", .ofText? o.assetsDir),
    ("outDir", .ofText? o.outDir),
    ("speakerRefs", o.speakerRefs.elim .missing fun refs => .record (Check.written refs)),
    ("narrationGainDb", o.narrationGainDb.elim .missing .number),
    ("musicGainDb", o.musicGainDb.elim .missing .number),
    ("ambienceGainDb", o.ambienceGainDb.elim .missing .number)]

/-- The references that are asked for. -/
def refs : List (String × String) :=
  o.speakerRefs.getD []

theorem distinct_refs : Entries.Distinct o.refs := by
  unfold refs
  cases h : o.speakerRefs with
  | none => exact List.nodup_nil
  | some refs => exact o.distinct refs h

/-- What is chosen where the variables give these references. -/
def choice (env : Environment) (given : SpeakerRefs) : Choice where
  assetsDir := choose o.assetsDir (env.string? "STORY_ASSETS_DIR") "assets"
  outDir := choose o.outDir (env.string? "STORY_OUT_DIR") "out"
  refs := Entries.inOrder (Entries.putAll given.entries o.refs)
  narrationGainDb := choose o.narrationGainDb (env.number? "NARRATION_GAIN_DB") 0
  musicGainDb := choose o.musicGainDb (env.number? "MUSIC_GAIN_DB") (-18)
  ambienceGainDb := choose o.ambienceGainDb (env.number? "AMBIENCE_GAIN_DB") (-22)

/-- The reference that is chosen for a speaker: the one asked for, else that of the last item for the
speaker. -/
def Refers (env : Environment) (speaker ref : String) : Prop :=
  o.refs.lookup speaker = some ref ∨ o.refs.lookup speaker = none ∧ speaker ≠ SpeakerRefs.reserved ∧
    SpeakerRefs.LastGives (refItems env) speaker ref

/-- The directories that are chosen. -/
def dirs (env : Environment) : List (String × String) :=
  [("assetsDir", choose o.assetsDir (env.string? "STORY_ASSETS_DIR") "assets"),
    ("outDir", choose o.outDir (env.string? "STORY_OUT_DIR") "out")]

/-- The gains that are chosen. -/
def gains (env : Environment) : List (String × Float) :=
  [("narrationGainDb", choose o.narrationGainDb (env.number? "NARRATION_GAIN_DB") 0),
    ("musicGainDb", choose o.musicGainDb (env.number? "MUSIC_GAIN_DB") (-18)),
    ("ambienceGainDb", choose o.ambienceGainDb (env.number? "AMBIENCE_GAIN_DB") (-22))]

/-- What is chosen and cannot be used. -/
inductive Faulty (env : Environment) : Issue → Prop
  | dir {name : String} : (name, "") ∈ o.dirs env → Faulty env ⟨[name], .emptyText⟩
  | ref {speaker : String} : o.Refers env speaker "" → Faulty env ⟨["speakerRefs", speaker], .emptyText⟩
  | notANumber {name : String} {x : Float} : (name, x) ∈ o.gains env → x.isNaN = true →
      Faulty env ⟨[name], .wrongKind .number .notANumber⟩
  | notFinite {name : String} {x : Float} : (name, x) ∈ o.gains env → x.isNaN = false →
      x.isFinite = false → Faulty env ⟨[name], .notFinite⟩

end Overrides

namespace Choice

variable (c : Choice)

def dirs : List (String × String) :=
  [("assetsDir", c.assetsDir), ("outDir", c.outDir)]

def gains : List (String × Float) :=
  [("narrationGainDb", c.narrationGainDb), ("musicGainDb", c.musicGainDb),
    ("ambienceGainDb", c.ambienceGainDb)]

/-- All that cannot be used, in the order of the settings. -/
def issues : List Issue :=
  (c.dirs.flatMap fun d => issuesAt d.1 (textFaults d.2)) ++
    ((Check.emptyRefs c.refs).map fun i => { i with path := "speakerRefs" :: i.path }) ++
    c.gains.flatMap fun g => issuesAt g.1 (numberFaults g.2)

/-- The settings that were chosen, as they are when nothing is wrong. -/
def config : ProducerConfig :=
  ⟨c.assetsDir, c.outDir, ⟨c.refs.filter (·.1 ≠ SpeakerRefs.reserved)⟩, c.narrationGainDb, c.musicGainDb,
    c.ambienceGainDb⟩

end Choice

variable {env : Environment} {cwd : String} {o : Overrides} {given : SpeakerRefs}

/-! ## The check of what is chosen -/

theorem orElse_ofText? (asked given : Option String) :
    (Value.ofText? asked).orElse (.ofText? given) = .ofText? (asked.or given) := by
  cases asked <;> rfl

theorem orElse_number (asked given : Option Float) :
    Value.orElse (asked.elim .missing .number) (given.elim .missing .number) =
      (asked.or given).elim .missing .number := by
  cases asked <;> rfl

theorem overlaid_toValue (o : Overrides) (given : SpeakerRefs) :
    overlaid given (o.toValue.field "speakerRefs") =
      Check.written (Entries.putAll given.entries o.refs) := by
  have hparts : (o.toValue.field "speakerRefs").parts = Check.written o.refs := by
    change Value.parts (o.speakerRefs.elim .missing fun refs => .record (Check.written refs)) = _
    unfold Overrides.refs
    cases o.speakerRefs <;> rfl
  unfold overlaid
  rw [hparts]
  exact Entries.putAll_map Value.text given.entries o.refs

theorem check_chosen (env : Environment) (o : Overrides) (given : SpeakerRefs) :
    check (chosen env o.toValue given) =
      .settle (o.choice env given).config (o.choice env given).issues := by
  have htext {name default variableName : String} (asked : Option String) (hdefault : default ≠ "")
      (hasked : o.toValue.field name = .ofText? asked) (v : Value)
      (hv : v.field name = chosenText env o.toValue name variableName) :
      Check.field name (.orDefault default .text) v =
        .settle (choose asked (env.string? variableName) default)
          (issuesAt name (textFaults (choose asked (env.string? variableName) default))) := by
    refine Check.field_of_eq ?_
    rw [hv, chosenText, hasked, orElse_ofText?, Check.orDefault_text hdefault]
    rfl
  have hnumber {name variableName : String} {default : Float} (asked : Option Float)
      (hdefault : default.isFinite = true) (hasked : o.toValue.field name = asked.elim .missing .number)
      (v : Value) (hv : v.field name = chosenNumber env o.toValue name variableName) :
      Check.field name (.orDefault default .number) v =
        .settle (choose asked (env.number? variableName) default)
          (issuesAt name (numberFaults (choose asked (env.number? variableName) default))) := by
    refine Check.field_of_eq ?_
    rw [hv, chosenNumber, hasked, orElse_number, Check.orDefault_number hdefault]
    rfl
  have hrefs : Check.field "speakerRefs" (.orDefault .empty .refs) (chosen env o.toValue given) =
      .settle (o.choice env given).config.speakerRefs
        ((Check.emptyRefs (o.choice env given).refs).map
          fun i => { i with path := "speakerRefs" :: i.path }) := by
    change Checked.within "speakerRefs"
      (Check.refs (.record (overlaid given (o.toValue.field "speakerRefs")))) = _
    rw [overlaid_toValue, Check.refs_written, Checked.settle_within]
    rfl
  change (ProducerConfig.mk
    <$> Check.field "assetsDir" (.orDefault "assets" .text) (chosen env o.toValue given)
    <*> Check.field "outDir" (.orDefault "out" .text) (chosen env o.toValue given)
    <*> Check.field "speakerRefs" (.orDefault .empty .refs) (chosen env o.toValue given)
    <*> Check.field "narrationGainDb" (.orDefault 0 .number) (chosen env o.toValue given)
    <*> Check.field "musicGainDb" (.orDefault (-18) .number) (chosen env o.toValue given)
    <*> Check.field "ambienceGainDb" (.orDefault (-22) .number) (chosen env o.toValue given)) = _
  rw [htext o.assetsDir (by decide) rfl _ rfl, htext o.outDir (by decide) rfl _ rfl, hrefs,
    hnumber o.narrationGainDb (by decide) rfl _ rfl, hnumber o.musicGainDb (by decide) rfl _ rfl,
    hnumber o.ambienceGainDb (by decide) rfl _ rfl]
  simp only [Checked.settle_map, Checked.settle_seq, Choice.issues, Choice.dirs, Choice.gains,
    List.flatMap_cons, List.flatMap_nil, List.append_nil, List.append_assoc]
  rfl

/-- Either all is in order and comes out resolved, or all that is not is named. -/
theorem load_eq (hgiven : refsOfEnvironment env = .ok given) (cwd : String) (o : Overrides) :
    load env cwd o.toValue =
      if (o.choice env given).issues = [] then .ok ((o.choice env given).config.resolved cwd)
      else .error (.configuration
        ("Invalid producer config: " ++ issuesText "config" (o.choice env given).issues)) := by
  unfold load
  rw [hgiven]
  dsimp only
  rw [check_chosen, Checked.settle]
  split
  · rename_i config hsettled
    split at hsettled
    · cases hsettled
      rw [if_pos ‹_›]
    · cases hsettled
  · rename_i issues hsettled
    split at hsettled
    · cases hsettled
    · cases hsettled
      rw [if_neg ‹_›]

/-! ## What is named -/

theorem distinct_choice (hgiven : refsOfEnvironment env = .ok given) (o : Overrides) :
    Entries.Distinct (o.choice env given).refs :=
  Entries.distinct_inOrder (Entries.distinct_putAll (sound_refsOfEnvironment hgiven).distinct _)

theorem mem_choice_iff (hgiven : refsOfEnvironment env = .ok given) {speaker ref : String} :
    (speaker, ref) ∈ (o.choice env given).refs ↔ o.Refers env speaker ref := by
  have hfind := hgiven
  rw [refsOfEnvironment_eq] at hfind
  have hmerged : (Entries.putAll given.entries o.refs).lookup speaker =
      (o.refs.lookup speaker).or (given.find? speaker) :=
    Entries.lookup_putAll o.distinct_refs speaker
  rw [Entries.mem_iff_lookup (distinct_choice hgiven o),
    Entries.lookup_eq_of_perm (distinct_choice hgiven o) (Entries.inOrder_perm _), hmerged]
  unfold Overrides.Refers
  rw [← SpeakerRefs.find?_ofItems hfind]
  cases o.refs.lookup speaker with
  | none => simp
  | some asked => simp

theorem mem_issuesAt_textFaults {name s : String} {issue : Issue} :
    issue ∈ issuesAt name (textFaults s) ↔ s = "" ∧ issue = ⟨[name], .emptyText⟩ := by
  unfold issuesAt textFaults
  split <;> simp [*]

theorem mem_issuesAt_numberFaults {name : String} {x : Float} {issue : Issue} :
    issue ∈ issuesAt name (numberFaults x) ↔
      x.isNaN = true ∧ issue = ⟨[name], .wrongKind .number .notANumber⟩ ∨
      x.isNaN = false ∧ x.isFinite = false ∧ issue = ⟨[name], .notFinite⟩ := by
  unfold issuesAt numberFaults
  cases x.isNaN <;> cases x.isFinite <;> simp

theorem mem_emptyRefs {es : List (String × String)} {issue : Issue} :
    issue ∈ (Check.emptyRefs es).map (fun i => { i with path := "speakerRefs" :: i.path }) ↔
      ∃ speaker, (speaker, "") ∈ es ∧ issue = ⟨["speakerRefs", speaker], .emptyText⟩ := by
  unfold Check.emptyRefs
  simp only [List.mem_map, List.mem_filter, decide_eq_true_eq]
  constructor
  · rintro ⟨_, ⟨⟨speaker, ref⟩, ⟨hmem, rfl⟩, rfl⟩, rfl⟩
    exact ⟨speaker, hmem, rfl⟩
  · rintro ⟨speaker, hmem, rfl⟩
    exact ⟨_, ⟨(speaker, ""), ⟨hmem, rfl⟩, rfl⟩, rfl⟩

theorem exists_faulty_iff :
    (∃ issue, o.Faulty env issue) ↔ (∃ d ∈ o.dirs env, d.2 = "") ∨ (∃ speaker, o.Refers env speaker "") ∨
      ∃ g ∈ o.gains env, g.2.isFinite = false := by
  constructor
  · rintro ⟨issue, hfaulty⟩
    cases hfaulty with
    | dir hmem => exact .inl ⟨_, hmem, rfl⟩
    | ref href => exact .inr (.inl ⟨_, href⟩)
    | notANumber hmem hn =>
        refine .inr (.inr ⟨_, hmem, Bool.eq_false_iff.2 fun hfinite => ?_⟩)
        cases hn.symm.trans (Numeral.not_isNaN_of_isFinite hfinite)
    | notFinite hmem _ hfinite => exact .inr (.inr ⟨_, hmem, hfinite⟩)
  · rintro (⟨⟨name, path⟩, hmem, rfl⟩ | ⟨speaker, href⟩ | ⟨⟨name, x⟩, hmem, hfinite⟩)
    · exact ⟨_, .dir hmem⟩
    · exact ⟨_, .ref href⟩
    · cases hn : x.isNaN with
      | true => exact ⟨_, .notANumber hmem hn⟩
      | false => exact ⟨_, .notFinite hmem hn hfinite⟩

/-- Just what cannot be used is named. -/
theorem mem_issues_iff (hgiven : refsOfEnvironment env = .ok given) {issue : Issue} :
    issue ∈ (o.choice env given).issues ↔ o.Faulty env issue := by
  unfold Choice.issues
  simp only [List.mem_append, List.mem_flatMap, mem_issuesAt_textFaults, mem_issuesAt_numberFaults,
    mem_emptyRefs, mem_choice_iff hgiven]
  constructor
  · rintro ((⟨⟨name, s⟩, hmem, rfl, rfl⟩ | ⟨speaker, href, rfl⟩) |
      ⟨⟨name, x⟩, hmem, ⟨hn, rfl⟩ | ⟨hn, hfinite, rfl⟩⟩)
    · exact .dir hmem
    · exact .ref href
    · exact .notANumber hmem hn
    · exact .notFinite hmem hn hfinite
  · intro hfaulty
    cases hfaulty with
    | dir hmem => exact .inl (.inl ⟨_, hmem, rfl, rfl⟩)
    | ref href => exact .inl (.inr ⟨_, href, rfl⟩)
    | notANumber hmem hn => exact .inr ⟨_, hmem, .inl ⟨hn, rfl⟩⟩
    | notFinite hmem hn hfinite => exact .inr ⟨_, hmem, .inr ⟨hn, hfinite, rfl⟩⟩

section Nodup

variable {α : Type} {faults : α → List Fault} {fields : List (String × α)}

theorem path_of_mem_issuesAt {issue : Issue}
    (h : issue ∈ fields.flatMap fun d => issuesAt d.1 (faults d.2)) :
    ∃ name ∈ fields.map Prod.fst, issue.path = [name] := by
  obtain ⟨d, hd, hissue⟩ := List.mem_flatMap.1 h
  obtain ⟨f, -, rfl⟩ := List.mem_map.1 hissue
  exact ⟨d.1, List.mem_map_of_mem hd, rfl⟩

theorem nodup_flatMap_issuesAt (hfields : (fields.map Prod.fst).Nodup)
    (hfaults : ∀ a, (faults a).Nodup) :
    (fields.flatMap fun d => issuesAt d.1 (faults d.2)).Nodup := by
  refine List.nodup_flatMap.2 ⟨fun d _ => ?_, ?_⟩
  · exact (hfaults d.2).map fun f g h => (Issue.mk.inj h).2
  · refine (List.pairwise_map.1 hfields).imp fun hne issue hleft hright => ?_
    obtain ⟨f, -, rfl⟩ := List.mem_map.1 hleft
    obtain ⟨g, -, heq⟩ := List.mem_map.1 hright
    exact hne (List.cons.inj (Issue.mk.inj heq).1).1.symm

theorem nodup_emptyRefs {es : List (String × String)} (h : Entries.Distinct es) :
    ((Check.emptyRefs es).map fun i => { i with path := "speakerRefs" :: i.path }).Nodup := by
  unfold Check.emptyRefs
  rw [List.map_map]
  refine List.Nodup.map_on (fun e he e' he' heq => ?_) ((List.Nodup.of_map _ h).filter _)
  have hname : e.1 = e'.1 := by simpa using heq
  have hempty {x : String × String} (hx : x ∈ es.filter (·.2 = "")) : x.2 = "" :=
    of_decide_eq_true (List.mem_filter.1 hx).2
  exact Prod.ext hname ((hempty he).trans (hempty he').symm)

end Nodup

/-- Nothing is named twice. -/
theorem nodup_issues {c : Choice} (h : Entries.Distinct c.refs) : c.issues.Nodup := by
  have hdirs : (c.dirs.flatMap fun d => issuesAt d.1 (textFaults d.2)).Nodup :=
    nodup_flatMap_issuesAt (by simp [Choice.dirs]) fun s => by unfold textFaults; split <;> simp
  have hgains : (c.gains.flatMap fun g => issuesAt g.1 (numberFaults g.2)).Nodup :=
    nodup_flatMap_issuesAt (by simp [Choice.gains]) fun x => by
      unfold numberFaults
      cases x.isNaN <;> cases x.isFinite <;> simp
  have hfields : ∀ name ∈ c.dirs.map Prod.fst, name ∉ c.gains.map Prod.fst := by
    simp [Choice.dirs, Choice.gains]
  unfold Choice.issues
  refine List.nodup_append'.2 ⟨List.nodup_append'.2 ⟨hdirs, nodup_emptyRefs h, ?_⟩, hgains, ?_⟩
  · intro issue hdir href
    obtain ⟨name, -, hpath⟩ := path_of_mem_issuesAt hdir
    obtain ⟨speaker, -, rfl⟩ := mem_emptyRefs.1 href
    cases hpath
  · intro issue hleft hgain
    obtain ⟨name, hname, hpath⟩ := path_of_mem_issuesAt hgain
    rcases List.mem_append.1 hleft with hdir | href
    · obtain ⟨other, hother, hpath'⟩ := path_of_mem_issuesAt hdir
      obtain rfl : other = name := (List.cons.inj (hpath'.symm.trans hpath)).1
      exact hfields other hother hname
    · obtain ⟨speaker, -, rfl⟩ := mem_emptyRefs.1 href
      cases hpath

/-! ## What comes out -/

/-- The speakers that are chosen, with their references resolved. -/
theorem entries_resolved (c : Choice) (cwd : String) :
    (c.config.resolved cwd).speakerRefs.entries =
      (c.refs.filter fun e => e.1 ≠ SpeakerRefs.reserved).map fun e => (e.1, Path.resolve cwd e.2) :=
  rfl

theorem distinct_resolved {c : Choice} (h : Entries.Distinct c.refs) (cwd : String) :
    Entries.Distinct (c.config.resolved cwd).speakerRefs.entries := by
  rw [entries_resolved]
  exact Entries.distinct_map (Entries.distinct_filter h fun name => name ≠ SpeakerRefs.reserved) _

theorem find?_resolved {c : Choice} (h : Entries.Distinct c.refs) {speaker path : String} :
    (c.config.resolved cwd).speakerRefs.find? speaker = some path ↔
      speaker ≠ SpeakerRefs.reserved ∧ ∃ ref, (speaker, ref) ∈ c.refs ∧ path = Path.resolve cwd ref := by
  unfold SpeakerRefs.find?
  rw [← Entries.mem_iff_lookup (distinct_resolved h cwd), entries_resolved]
  simp only [List.mem_map, List.mem_filter, Prod.mk.injEq, decide_eq_true_eq]
  constructor
  · rintro ⟨⟨name, ref⟩, ⟨hmem, hname⟩, rfl, rfl⟩
    exact ⟨hname, ref, hmem, rfl⟩
  · rintro ⟨hname, ref, hmem, rfl⟩
    exact ⟨(speaker, ref), ⟨hmem, hname⟩, rfl, rfl⟩

/-- All of the settings are asked for as they are. -/
def Overrides.repeating (config : ProducerConfig) (h : Entries.Distinct config.speakerRefs.entries) :
    Overrides where
  assetsDir := config.assetsDir
  outDir := config.outDir
  speakerRefs := config.speakerRefs.entries
  narrationGainDb := config.narrationGainDb
  musicGainDb := config.musicGainDb
  ambienceGainDb := config.ambienceGainDb
  distinct refs hrefs := by
    obtain rfl := Option.some.inj hrefs
    exact h

theorem textFaults_eq_nil {s : String} : textFaults s = [] ↔ s ≠ "" := by
  unfold textFaults
  split <;> simp [*]

theorem issues_eq_nil_iff {c : Choice} :
    c.issues = [] ↔ (∀ d ∈ c.dirs, d.2 ≠ "") ∧ (∀ e ∈ c.refs, e.2 ≠ "") ∧
      ∀ g ∈ c.gains, g.2.isFinite = true := by
  have hrefs : (Check.emptyRefs c.refs).map (fun i => { i with path := "speakerRefs" :: i.path }) = [] ↔
      ∀ e ∈ c.refs, e.2 ≠ "" := by
    simp [Check.emptyRefs, List.filter_eq_nil_iff]
  unfold Choice.issues
  rw [List.append_eq_nil_iff, List.append_eq_nil_iff, hrefs, and_assoc, List.flatMap_eq_nil_iff,
    List.flatMap_eq_nil_iff]
  simp only [issuesAt, List.map_eq_nil_iff, textFaults_eq_nil, numberFaults_eq_nil]

/-! ## Settings that are asked for again -/

def paths (config : ProducerConfig) : List String :=
  config.assetsDir :: config.outDir :: config.speakerRefs.entries.map Prod.snd

/-- Settings, taken as what is chosen. -/
def asChosen (config : ProducerConfig) : Choice :=
  ⟨config.assetsDir, config.outDir, config.speakerRefs.entries, config.narrationGainDb,
    config.musicGainDb, config.ambienceGainDb⟩

/-- There is nothing left to do for these settings: they pass, their paths are resolved, and the given
references add nothing to theirs. -/
structure Stable (cwd : String) (given : SpeakerRefs) (config : ProducerConfig) : Prop where
  refs : config.speakerRefs.Sound
  paths : ∀ path ∈ config.paths, path ≠ "" ∧ Path.resolve cwd path = path
  gains : ∀ g ∈ config.asChosen.gains, g.2.isFinite = true
  merged : Entries.inOrder (Entries.putAll given.entries config.speakerRefs.entries) =
    config.speakerRefs.entries

variable {config : ProducerConfig}

theorem Stable.issues_eq_nil (h : Stable cwd given config) : config.asChosen.issues = [] := by
  obtain ⟨hassets, hrest⟩ := List.forall_mem_cons.1 h.paths
  obtain ⟨hout, hrefs⟩ := List.forall_mem_cons.1 hrest
  refine issues_eq_nil_iff.2 ⟨?_, fun e he => ?_, h.gains⟩
  · exact List.forall_mem_cons.2 ⟨hassets.1, List.forall_mem_singleton.2 hout.1⟩
  · exact (hrefs e.2 (List.mem_map_of_mem he)).1

theorem Stable.resolved_eq (h : Stable cwd given config) :
    config.asChosen.config.resolved cwd = config := by
  obtain ⟨hassets, hrest⟩ := List.forall_mem_cons.1 h.paths
  obtain ⟨hout, hrefs⟩ := List.forall_mem_cons.1 hrest
  have hentries : ((config.speakerRefs.entries.filter fun e => e.1 ≠ SpeakerRefs.reserved).map
      fun e => (e.1, Path.resolve cwd e.2)) = config.speakerRefs.entries := by
    rw [List.filter_eq_self.2 fun e he => decide_eq_true (h.refs.unreserved e he)]
    refine (List.map_congr_left fun e he => ?_).trans (List.map_id _)
    exact Prod.ext rfl (hrefs e.2 (List.mem_map_of_mem he)).2
  exact (ProducerConfig.mk.injEq ..).mpr
    ⟨hassets.2, hout.2, congrArg SpeakerRefs.mk hentries, rfl, rfl, rfl⟩

/-- Settings that are stable come out again. -/
theorem Stable.load_repeating (h : Stable cwd given config) (hgiven : refsOfEnvironment env = .ok given) :
    load env cwd (Overrides.repeating config h.refs.distinct).toValue = .ok config := by
  have hchoice : (Overrides.repeating config h.refs.distinct).choice env given = config.asChosen :=
    (Choice.mk.injEq ..).mpr ⟨rfl, rfl, h.merged, rfl, rfl, rfl⟩
  rw [load_eq hgiven cwd, hchoice, if_pos h.issues_eq_nil, h.resolved_eq]

theorem paths_resolved (config : ProducerConfig) (cwd : String) :
    ∀ path ∈ (config.resolved cwd).paths, ∃ written, path = Path.resolve cwd written := by
  refine List.forall_mem_cons.2 ⟨⟨_, rfl⟩, List.forall_mem_cons.2 ⟨⟨_, rfl⟩, fun path hpath => ?_⟩⟩
  obtain ⟨e, he, rfl⟩ := List.mem_map.1 hpath
  obtain ⟨e, -, rfl⟩ := List.mem_map.1 he
  exact ⟨e.2, rfl⟩

theorem sound_resolved {c : Choice} (h : Entries.Distinct c.refs) (cwd : String) :
    (c.config.resolved cwd).speakerRefs.Sound where
  distinct := distinct_resolved h cwd
  unreserved e he := by
    rw [entries_resolved] at he
    obtain ⟨chosen, hchosen, rfl⟩ := List.mem_map.1 he
    exact of_decide_eq_true (List.mem_filter.1 hchosen).2

theorem gains_resolved (c : Choice) (cwd : String) : (c.config.resolved cwd).asChosen.gains = c.gains :=
  rfl

/-- What was chosen and passes is stable once it is resolved. -/
theorem stable_resolved (hgiven : refsOfEnvironment env = .ok given)
    (hissues : (o.choice env given).issues = []) :
    Stable cwd given ((o.choice env given).config.resolved cwd) where
  refs := sound_resolved (distinct_choice hgiven o) cwd
  paths path hpath := by
    obtain ⟨written, rfl⟩ := paths_resolved _ cwd path hpath
    exact ⟨Path.resolve_ne_empty cwd written, Path.resolve_resolve cwd cwd written⟩
  gains := by
    rw [gains_resolved]
    exact (issues_eq_nil_iff.1 hissues).2.2
  merged := by
    have hsound := sound_refsOfEnvironment hgiven
    exact Entries.inOrder_putAll_merged (fun name => decide (name ≠ SpeakerRefs.reserved))
      hsound.distinct (fun e he => decide_eq_true (hsound.unreserved e he)) (Path.resolve cwd) o.refs

/-! ## The settings as a whole -/

/-- These are the settings that were chosen. Their paths are absolute and in their shortest form, and the
settings can be asked for in turn. -/
structure Settles (o : Overrides) (env : Environment) (cwd : String) (config : ProducerConfig) : Prop where
  assetsDir : config.assetsDir =
    Path.resolve cwd (choose o.assetsDir (env.string? "STORY_ASSETS_DIR") "assets")
  outDir : config.outDir = Path.resolve cwd (choose o.outDir (env.string? "STORY_OUT_DIR") "out")
  refs : ∀ speaker path, config.speakerRefs.find? speaker = some path ↔
    speaker ≠ SpeakerRefs.reserved ∧ ∃ ref, o.Refers env speaker ref ∧ path = Path.resolve cwd ref
  narrationGainDb : config.narrationGainDb =
    choose o.narrationGainDb (env.number? "NARRATION_GAIN_DB") 0
  musicGainDb : config.musicGainDb = choose o.musicGainDb (env.number? "MUSIC_GAIN_DB") (-18)
  ambienceGainDb : config.ambienceGainDb =
    choose o.ambienceGainDb (env.number? "AMBIENCE_GAIN_DB") (-22)
  absolute : ∀ path ∈ config.paths, Path.isAbsolute path.toList = true ∧
    ∀ dir, Path.resolve dir path = path
  again : ∃ h, load env cwd (Overrides.repeating config h).toValue = .ok config

theorem settles_of_load (hgiven : refsOfEnvironment env = .ok given)
    (h : load env cwd o.toValue = .ok config) : Settles o env cwd config := by
  rw [load_eq hgiven cwd o] at h
  split at h
  · rename_i hissues
    cases h
    have hstable : Stable cwd given ((o.choice env given).config.resolved cwd) :=
      stable_resolved hgiven hissues
    refine ⟨rfl, rfl, fun speaker path => ?_, rfl, rfl, rfl, fun path hpath => ?_,
      hstable.refs.distinct, hstable.load_repeating hgiven⟩
    · rw [find?_resolved (distinct_choice hgiven o)]
      simp only [mem_choice_iff hgiven]
    · obtain ⟨written, rfl⟩ := paths_resolved _ cwd path hpath
      exact ⟨Path.isAbsolute_resolve cwd written, fun dir => Path.resolve_resolve dir cwd written⟩
  · cases h

/-! ## When settings fail -/

theorem exists_given (h : ∀ item ∈ refItems env, '=' ∈ item.toList) :
    ∃ given, refsOfEnvironment env = .ok given := by
  rw [refsOfEnvironment_eq]
  exact SpeakerRefs.exists_addItems h _ _

/-- The settings are not even looked at if there is an item for no speaker. -/
theorem load_of_not_mem {before after : List String} {item : String}
    (hitems : refItems env = before ++ item :: after) (hbefore : ∀ other ∈ before, '=' ∈ other.toList)
    (hitem : '=' ∉ item.toList) (cwd : String) (overrides : Value) :
    load env cwd overrides =
      .error (.configuration (SpeakerRefs.itemMessage "VOICE_REFS" item)) := by
  have hgiven : refsOfEnvironment env =
      .error (.configuration (SpeakerRefs.itemMessage "VOICE_REFS" item)) := by
    rw [refsOfEnvironment_eq, hitems]
    exact SpeakerRefs.addItems_of_not_mem hbefore hitem _ _
  unfold load
  rw [hgiven]

theorem issues_of_load (hgiven : refsOfEnvironment env = .ok given) {f : Failure}
    (h : load env cwd o.toValue = .error f) :
    (o.choice env given).issues ≠ [] ∧ f = .configuration
      ("Invalid producer config: " ++ issuesText "config" (o.choice env given).issues) := by
  rw [load_eq hgiven cwd o] at h
  split at h
  · cases h
  · cases h
    exact ⟨‹_›, rfl⟩

theorem load_eq_error_iff (hgiven : refsOfEnvironment env = .ok given) :
    (∃ f, load env cwd o.toValue = .error f) ↔ ∃ issue, o.Faulty env issue := by
  constructor
  · rintro ⟨f, h⟩
    obtain ⟨issue, hissue⟩ := List.exists_mem_of_ne_nil _ (issues_of_load hgiven h).1
    exact ⟨issue, (mem_issues_iff hgiven).1 hissue⟩
  · rintro ⟨issue, hfaulty⟩
    rw [load_eq hgiven cwd o, if_neg (List.ne_nil_of_mem ((mem_issues_iff hgiven).2 hfaulty))]
    exact ⟨_, rfl⟩

theorem given_of_load {overrides : Value} {config : ProducerConfig}
    (h : load env cwd overrides = .ok config) : ∃ given, refsOfEnvironment env = .ok given := by
  cases hgiven : refsOfEnvironment env with
  | ok given => exact ⟨given, rfl⟩
  | error f =>
      unfold load at h
      rw [hgiven] at h
      cases h

/-- Each setting is chosen by itself. The settings fail just when there is an item for no speaker or
something was chosen that cannot be used. Of the items the first such is named, and if there is none,
all that cannot be used is. -/
theorem load_chooses (env : Environment) (cwd : String) (o : Overrides) :
    ((∃ f, load env cwd o.toValue = .error f) ↔ (∃ item ∈ refItems env, '=' ∉ item.toList) ∨
      (∃ d ∈ o.dirs env, d.2 = "") ∨ (∃ speaker, o.Refers env speaker "") ∨
      ∃ g ∈ o.gains env, g.2.isFinite = false) ∧
    (∀ before item after, refItems env = before ++ item :: after →
      (∀ other ∈ before, '=' ∈ other.toList) → '=' ∉ item.toList →
      load env cwd o.toValue = .error (.configuration (SpeakerRefs.itemMessage "VOICE_REFS" item))) ∧
    ((∀ item ∈ refItems env, '=' ∈ item.toList) → ∀ f, load env cwd o.toValue = .error f →
      ∃ issues, f = .configuration ("Invalid producer config: " ++ issuesText "config" issues) ∧
        issues.Nodup ∧ ∀ issue, issue ∈ issues ↔ o.Faulty env issue) ∧
    ∀ config, load env cwd o.toValue = .ok config → Settles o env cwd config := by
  refine ⟨?_, fun before item after hitems hbefore hitem =>
    load_of_not_mem hitems hbefore hitem cwd o.toValue, fun hall f hload => ?_, fun config hload => ?_⟩
  · rw [← exists_faulty_iff]
    rcases SpeakerRefs.mem_or_first (refItems env) with hall | ⟨before, item, after, hitems, hbefore, hitem⟩
    · obtain ⟨given, hgiven⟩ := exists_given hall
      rw [load_eq_error_iff hgiven]
      refine (or_iff_right ?_).symm
      rintro ⟨item, hmem, hitem⟩
      exact hitem (hall item hmem)
    · refine iff_of_true ⟨_, load_of_not_mem hitems hbefore hitem cwd o.toValue⟩ (.inl ⟨item, ?_, hitem⟩)
      rw [hitems]
      exact List.mem_append_right _ (List.mem_cons_self ..)
  · obtain ⟨given, hgiven⟩ := exists_given hall
    exact ⟨_, (issues_of_load hgiven hload).2, nodup_issues (distinct_choice hgiven o),
      fun issue => mem_issues_iff hgiven⟩
  · obtain ⟨given, hgiven⟩ := given_of_load hload
    exact settles_of_load hgiven hload

/-- Nothing is asked for. -/
def Overrides.nothing : Overrides :=
  ⟨none, none, none, none, none, none, nofun⟩

/-- The empty text is asked for as the place of the result. -/
def Overrides.nowhere : Overrides :=
  { nothing with outDir := some "" }

/-- One of two speakers has no reference. -/
def halfVoiced : Environment :=
  ⟨[("VOICE_REFS", "Onyx=onyx.wav, Ruby")]⟩

/-- A household says where its sounds and its mixes are, and with whose voices it speaks. -/
def household : Environment :=
  ⟨[("STORY_ASSETS_DIR", "sounds"), ("STORY_OUT_DIR", "mixes"),
    ("VOICE_REFS", "Ruby=ruby.wav, Onyx=onyx.wav")]⟩

/-- A guest puts the mix elsewhere, has another voice for Ruby and brings along Opal. -/
def Overrides.guest : Overrides :=
  { nothing with
    outDir := some "tonight"
    speakerRefs := some [("Ruby", "late.wav"), ("Opal", "opal.wav")]
    distinct := by
      rintro refs ⟨⟩
      exact List.nodup_cons.2 ⟨by decide, List.nodup_singleton _⟩ }

theorem not_refers_guest (speaker : String) : ¬ Overrides.guest.Refers household speaker "" := by
  have hgiven : refsOfEnvironment household = .ok ⟨[("Ruby", "ruby.wav"), ("Onyx", "onyx.wav")]⟩ := by
    rfl
  have hmerged : Entries.putAll [("Ruby", "ruby.wav"), ("Onyx", "onyx.wav")] Overrides.guest.refs =
      [("Ruby", "late.wav"), ("Onyx", "onyx.wav"), ("Opal", "opal.wav")] := by
    decide
  rw [← mem_choice_iff hgiven, Overrides.choice, (Entries.inOrder_perm _).mem_iff, hmerged]
  simp

theorem not_refers_nothing (speaker ref : String) : ¬ Overrides.nothing.Refers ⟨[]⟩ speaker ref := by
  rintro (hasked | ⟨-, -, before, item, after, hitems, -⟩)
  · cases hasked
  · exact absurd hitems (by simp [refItems, Environment.get?])

/-- An item for no speaker and an empty text are named. With nothing said the defaults come out, and where
something is asked for and something given, the one goes before the other, speaker by speaker. -/
theorem load_chooses_named :
    load halfVoiced "/w" Overrides.nothing.toValue =
        .error (.configuration "VOICE_REFS expects SPEAKER=/path/to/ref.wav, got: Ruby") ∧
    (∃ issues, load ⟨[]⟩ "/w" Overrides.nowhere.toValue =
        .error (.configuration ("Invalid producer config: " ++ issuesText "config" issues)) ∧
      ⟨["outDir"], .emptyText⟩ ∈ issues) ∧
    (∃ config, load ⟨[]⟩ "/w" Overrides.nothing.toValue = .ok config ∧
      Settles Overrides.nothing ⟨[]⟩ "/w" config) ∧
    ∃ config, load household "/w" Overrides.guest.toValue = .ok config ∧
      Settles Overrides.guest household "/w" config ∧
      config.assetsDir = "/w/sounds" ∧ config.outDir = "/w/tonight" ∧
      config.speakerRefs.find? "Ruby" = some "/w/late.wav" ∧
      config.speakerRefs.find? "Onyx" = some "/w/onyx.wav" ∧
      config.speakerRefs.find? "Opal" = some "/w/opal.wav" := by
  refine ⟨?_, ?_, ?_, ?_⟩
  · have hitems : refItems halfVoiced = ["Onyx=onyx.wav"] ++ "Ruby" :: [] := by decide +kernel
    exact (load_chooses halfVoiced "/w" .nothing).2.1 _ _ _ hitems (by simp) (by simp)
  · obtain ⟨hfails, -, hnamed, -⟩ := load_chooses ⟨[]⟩ "/w" .nowhere
    obtain ⟨f, hload⟩ := hfails.2 (.inr (.inl ⟨("outDir", ""), by decide, rfl⟩))
    obtain ⟨issues, rfl, -, hissues⟩ := hnamed nofun f hload
    exact ⟨issues, hload, (hissues _).2 (.dir (by decide))⟩
  · obtain ⟨hfails, -, -, hsettles⟩ := load_chooses ⟨[]⟩ "/w" .nothing
    cases hload : load ⟨[]⟩ "/w" Overrides.nothing.toValue with
    | ok config => exact ⟨config, rfl, hsettles config hload⟩
    | error f =>
        rcases hfails.1 ⟨f, hload⟩ with ⟨item, hitem, -⟩ | hdir | ⟨speaker, href⟩ | hgain
        · cases hitem
        · exact absurd hdir (by decide)
        · exact absurd href (not_refers_nothing speaker "")
        · exact absurd hgain (by decide)
  · have hitems : refItems household = ["Ruby=ruby.wav", "Onyx=onyx.wav"] := by decide +kernel
    obtain ⟨hfails, -, -, hsettles⟩ := load_chooses household "/w" .guest
    cases hload : load household "/w" Overrides.guest.toValue with
    | ok config =>
        have h := hsettles config hload
        refine ⟨config, rfl, h, ?_, ?_, ?_, ?_, ?_⟩
        · rw [h.assetsDir]
          decide +kernel
        · rw [h.outDir]
          decide +kernel
        · exact (h.refs _ _).2 ⟨by decide, "late.wav", .inl rfl, by decide +kernel⟩
        · refine (h.refs _ _).2 ⟨by decide, "onyx.wav", .inr ⟨rfl, by decide, ?_⟩, by decide +kernel⟩
          exact ⟨["Ruby=ruby.wav"], _, [], hitems, ⟨by decide, rfl⟩, nofun⟩
        · exact (h.refs _ _).2 ⟨by decide, "opal.wav", .inl rfl, by decide +kernel⟩
    | error f =>
        rcases hfails.1 ⟨f, hload⟩ with ⟨item, hitem, hnot⟩ | hdir | ⟨speaker, href⟩ | hgain
        · rw [hitems] at hitem
          rcases List.mem_cons.1 hitem with rfl | hitem
          · exact absurd hnot (by decide)
          · rw [List.mem_singleton.1 hitem] at hnot
            exact absurd hnot (by decide)
        · exact absurd hdir (by decide)
        · exact absurd href (not_refers_guest speaker)
        · exact absurd hgain (by decide)

end ProducerConfig

end StoryMix
