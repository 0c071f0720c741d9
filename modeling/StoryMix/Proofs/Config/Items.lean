import StoryMix.Proofs.Config.Settings

/-!
# References from items

Items `SPEAKER=PATH` are read one after the other, each cut at its first `=`, and the last item for a
speaker counts (`LastGives`). An item without that sign ends the reading. One name is passed over, and a
speaker of that name gets nothing whatever the items say.
-/

namespace StoryMix

namespace SpeakerRefs

variable {source item speaker ref : String} {items : List String} {refs refs' : SpeakerRefs}

/-- The item gives the speaker a reference. -/
def Gives (item speaker ref : String) : Prop :=
  '=' ∉ speaker.toList ∧ item = speaker ++ "=" ++ ref

/-- The last item for the speaker gives this reference. -/
def LastGives (items : List String) (speaker ref : String) : Prop :=
  ∃ before item after, items = before ++ item :: after ∧ Gives item speaker ref ∧
    ∀ other ∈ after, ∀ ref', ¬ Gives other speaker ref'

/-- What is said of an item without a sign between speaker and reference. -/
def itemMessage (source item : String) : String :=
  source ++ " expects SPEAKER=/path/to/ref.wav, got: " ++ item

theorem lastGives_cons :
    LastGives (item :: items) speaker ref ↔
      LastGives items speaker ref ∨
        Gives item speaker ref ∧ ∀ other ∈ items, ∀ ref', ¬ Gives other speaker ref' := by
  constructor
  · rintro ⟨before, given, after, hitems, hgives, hafter⟩
    cases before with
    | nil =>
        obtain ⟨rfl, rfl⟩ := List.cons.inj hitems
        exact .inr ⟨hgives, hafter⟩
    | cons first before => exact .inl ⟨before, given, after, (List.cons.inj hitems).2, hgives, hafter⟩
  · rintro (⟨before, given, after, rfl, hgives, hafter⟩ | ⟨hgives, hafter⟩)
    · exact ⟨item :: before, given, after, rfl, hgives, hafter⟩
    · exact ⟨[], item, items, rfl, hgives, hafter⟩

/-- A speaker whom some item is for has a last item. -/
theorem exists_lastGives_iff :
    (∃ ref, LastGives items speaker ref) ↔ ∃ item ∈ items, ∃ ref, Gives item speaker ref := by
  constructor
  · rintro ⟨ref, before, item, after, rfl, hgives, -⟩
    exact ⟨item, by simp, ref, hgives⟩
  · rintro ⟨item, hmem, ref, hgives⟩
    induction items generalizing item ref with
    | nil => cases hmem
    | cons first items ih =>
        by_cases hlater : ∃ other ∈ items, ∃ ref', Gives other speaker ref'
        · obtain ⟨other, hother, ref', hgives'⟩ := hlater
          obtain ⟨last, hlast⟩ := ih other hother ref' hgives'
          exact ⟨last, lastGives_cons.2 (.inl hlast)⟩
        · have hfirst : item = first := by
            rcases List.mem_cons.1 hmem with hfirst | hother
            · exact hfirst
            · exact absurd ⟨item, hother, ref, hgives⟩ hlater
          subst hfirst
          refine ⟨ref, lastGives_cons.2 (.inr ⟨hgives, fun other hother ref' hgives' => ?_⟩)⟩
          exact hlater ⟨other, hother, ref', hgives'⟩

theorem readItem_eq_ok : readItem source item = .ok (speaker, ref) ↔ Gives item speaker ref := by
  unfold readItem Gives
  cases hsplit : Text.splitFirst '=' item.toList with
  | none =>
      refine iff_of_false nofun ?_
      rintro ⟨-, rfl⟩
      exact Text.splitFirst_eq_none.1 hsplit (by simp)
  | some pieces =>
      obtain ⟨left, right⟩ := pieces
      obtain ⟨hleft, hitem⟩ := Text.splitFirst_eq_some.1 hsplit
      simp only [Except.ok.injEq, Prod.mk.injEq]
      constructor
      · rintro ⟨rfl, rfl⟩
        refine ⟨by simpa using hleft, String.toList_inj.1 ?_⟩
        simpa using hitem
      · rintro ⟨hspeaker, rfl⟩
        have hagain : Text.splitFirst '=' (speaker ++ "=" ++ ref).toList =
            some (speaker.toList, ref.toList) :=
          Text.splitFirst_eq_some.2 ⟨hspeaker, by simp⟩
        cases hsplit.symm.trans hagain
        exact ⟨String.ofList_toList, String.ofList_toList⟩

theorem readItem_of_not_mem (h : '=' ∉ item.toList) (source : String) :
    readItem source item = .error (.configuration (itemMessage source item)) := by
  unfold readItem
  rw [Text.splitFirst_eq_none.2 h]
  rfl

theorem exists_readItem (h : '=' ∈ item.toList) (source : String) :
    ∃ speaker ref, readItem source item = .ok (speaker, ref) := by
  cases hread : readItem source item with
  | ok pieces => exact ⟨pieces.1, pieces.2, rfl⟩
  | error f =>
      unfold readItem at hread
      cases hsplit : Text.splitFirst '=' item.toList with
      | none => exact absurd h (Text.splitFirst_eq_none.1 hsplit)
      | some pieces =>
          rw [hsplit] at hread
          cases hread

/-- Either all items have the sign, or there is a first that has not. -/
theorem mem_or_first (items : List String) :
    (∀ item ∈ items, '=' ∈ item.toList) ∨ ∃ before item after, items = before ++ item :: after ∧
      (∀ other ∈ before, '=' ∈ other.toList) ∧ '=' ∉ item.toList := by
  induction items with
  | nil => exact .inl nofun
  | cons first items ih =>
      by_cases hfirst : '=' ∈ first.toList
      · rcases ih with hall | ⟨before, item, after, rfl, hbefore, hitem⟩
        · exact .inl (List.forall_mem_cons.2 ⟨hfirst, hall⟩)
        · exact .inr ⟨first :: before, item, after, rfl, List.forall_mem_cons.2 ⟨hfirst, hbefore⟩, hitem⟩
      · exact .inr ⟨[], first, items, rfl, nofun, hfirst⟩

theorem addItems_cons {name given : String} (h : readItem source item = .ok (name, given))
    (refs : SpeakerRefs) (items : List String) :
    refs.addItems source (item :: items) = (refs.put name given).addItems source items := by
  rw [addItems, h]

/-- The first item without a sign between speaker and reference is named. -/
theorem addItems_of_not_mem {before after : List String} (hbefore : ∀ other ∈ before, '=' ∈ other.toList)
    (hitem : '=' ∉ item.toList) (source : String) (refs : SpeakerRefs) :
    refs.addItems source (before ++ item :: after) =
      .error (.configuration (itemMessage source item)) := by
  induction before generalizing refs with
  | nil => rw [List.nil_append, addItems, readItem_of_not_mem hitem]
  | cons first before ih =>
      obtain ⟨hfirst, hbefore⟩ := List.forall_mem_cons.1 hbefore
      obtain ⟨name, given, hread⟩ := exists_readItem hfirst source
      rw [List.cons_append, addItems_cons hread, ih hbefore]

theorem exists_addItems (h : ∀ item ∈ items, '=' ∈ item.toList) (source : String) (refs : SpeakerRefs) :
    ∃ refs', refs.addItems source items = .ok refs' := by
  induction items generalizing refs with
  | nil => exact ⟨refs, rfl⟩
  | cons first items ih =>
      obtain ⟨hfirst, hitems⟩ := List.forall_mem_cons.1 h
      obtain ⟨name, given, hread⟩ := exists_readItem hfirst source
      rw [addItems_cons hread]
      exact ih hitems _

/-- A speaker has the reference of its last item, and without one it keeps what it had. -/
theorem find?_addItems (h : refs.addItems source items = .ok refs') (hspeaker : speaker ≠ reserved) :
    refs'.find? speaker = some ref ↔ LastGives items speaker ref ∨
      (∀ item ∈ items, ∀ given, ¬ Gives item speaker given) ∧ refs.find? speaker = some ref := by
  induction items generalizing refs with
  | nil =>
      cases h
      refine ⟨fun hfind => .inr ⟨nofun, hfind⟩, ?_⟩
      rintro (⟨before, item, after, hitems, -⟩ | ⟨-, hfind⟩)
      · exact absurd hitems (by simp)
      · exact hfind
  | cons item items ih =>
      cases hread : readItem source item with
      | error f =>
          rw [addItems, hread] at h
          cases h
      | ok pieces =>
          obtain ⟨name, given⟩ := pieces
          rw [addItems_cons hread] at h
          have hgives {other : String} {ref' : String} :
              Gives item other ref' ↔ other = name ∧ ref' = given := by
            rw [← @readItem_eq_ok source, hread, Except.ok.injEq, Prod.mk.injEq, eq_comm, @eq_comm _ given]
          have hput : (refs.put name given).find? speaker =
              if speaker = name then some given else refs.find? speaker := by
            by_cases hname : name = reserved
            -- The entry is lost, but then it is not for this speaker.
            · rw [hname, put_reserved, if_neg hspeaker]
            · exact find?_put hname refs given speaker
          rw [ih h, hput, lastGives_cons, List.forall_mem_cons]
          simp only [hgives, not_and]
          by_cases hname : speaker = name
          · simp [hname, eq_comm, and_comm]
          · simp [hname]

/-- Only the one name is passed over. -/
theorem find?_ofItems (h : ofItems source items = .ok refs) :
    refs.find? speaker = some ref ↔ speaker ≠ reserved ∧ LastGives items speaker ref := by
  by_cases hspeaker : speaker = reserved
  · refine iff_of_false (fun hfind => ?_) fun hlast => hlast.1 hspeaker
    have hmem := (Entries.mem_iff_lookup (sound_ofItems h).distinct).2 hfind
    exact (sound_ofItems h).unreserved _ hmem hspeaker
  · rw [find?_addItems h hspeaker]
    have hempty : empty.find? speaker ≠ some ref := nofun
    simp [hempty, hspeaker]

end SpeakerRefs

namespace ProducerConfig

/-- The items of the variable `VOICE_REFS`. -/
def refItems (env : Environment) : List String :=
  match env.get? "VOICE_REFS" with
  | none => []
  | some raw =>
    (((Text.cut (· == ',') raw.toList).map Text.trim).filter (· ≠ [])).map String.ofList

theorem refsOfEnvironment_eq (env : Environment) :
    refsOfEnvironment env = SpeakerRefs.ofItems "VOICE_REFS" (refItems env) := by
  unfold refsOfEnvironment refItems
  cases env.get? "VOICE_REFS" with
  | none => rfl
  | some raw => rfl

end ProducerConfig

end StoryMix
