import StoryMix.Proofs.Config.Settings
import StoryMix.Queue.Job

/-!
# What comes out of the queue

A payload is stored as a text and read again. On the way fields without a value are lost, the others are
put in order, a member without a value and a number that is not finite turn into `null`, and so does
nothing else (`Value.carried`). A job has come through this unharmed when each field is found as it was
put in (`field_carried`), and then it is taken just when no text in it is empty (`check_carried`). Its
references come out in order.
-/

namespace StoryMix

namespace Value

mutual

/-- The value as it comes out of the queue. -/
def carried : Value → Value
  | missing => missing
  | null => null
  | bool b => bool b
  | number x => if x.isFinite then number (if x == 0 then 0 else x) else null
  | text s => text s
  | list members => list (carriedMembers members)
  | record fields => record (Entries.inOrder (carriedFields fields))

def carriedMembers : List Value → List Value
  | [] => []
  | missing :: vs => null :: carriedMembers vs
  | v :: vs => carried v :: carriedMembers vs

def carriedFields : List (String × Value) → List (String × Value)
  | [] => []
  | (_, missing) :: fields => carriedFields fields
  | (name, v) :: fields => (name, carried v) :: carriedFields fields

end

variable {fields : List (String × Value)}

/-- Either the field has no value and is lost, or it is carried. -/
theorem carriedFields_cons (name : String) (v : Value) (fields : List (String × Value)) :
    (v = missing ∧ carriedFields ((name, v) :: fields) = carriedFields fields) ∨
      carriedFields ((name, v) :: fields) = (name, v.carried) :: carriedFields fields := by
  cases v with
  | missing => exact .inl ⟨rfl, by rw [carriedFields]⟩
  | _ => exact .inr (by rw [carriedFields]; nofun)

theorem names_carriedFields (fields : List (String × Value)) :
    ((carriedFields fields).map Prod.fst).Sublist (fields.map Prod.fst) := by
  induction fields with
  | nil => rw [carriedFields]
  | cons field fields ih =>
      obtain ⟨name, v⟩ := field
      rcases carriedFields_cons name v fields with ⟨-, h⟩ | h
      · rw [h]
        exact ih.cons name
      · rw [h]
        exact ih.cons_cons name

theorem distinct_carriedFields (h : Entries.Distinct fields) :
    Entries.Distinct (carriedFields fields) :=
  h.sublist (names_carriedFields fields)

theorem lookup_carriedFields (h : Entries.Distinct fields) (name : String) :
    ((carriedFields fields).lookup name).getD missing =
      ((fields.lookup name).getD missing).carried := by
  induction fields with
  | nil =>
      rw [carriedFields]
      exact (by rw [carried] : missing = missing.carried)
  | cons field fields ih =>
      obtain ⟨other, v⟩ := field
      obtain ⟨hnot, hrest⟩ := List.nodup_cons.1 h
      rcases carriedFields_cons other v fields with ⟨rfl, hcarried⟩ | hcarried
      · rw [hcarried, ih hrest, List.lookup_cons]
        by_cases hname : name = other
        · rw [Entries.lookup_of_not_mem (hname ▸ hnot), beq_iff_eq.2 hname]
          rfl
        · rw [beq_eq_false_iff_ne.2 hname]
      · rw [hcarried, List.lookup_cons, List.lookup_cons]
        by_cases hname : name = other
        · rw [beq_iff_eq.2 hname]
          rfl
        · rw [beq_eq_false_iff_ne.2 hname]
          exact ih hrest

/-- Each field comes out as it was put in. -/
theorem field_carried (h : Entries.Distinct fields) (name : String) :
    (record fields).carried.field name = ((record fields).field name).carried := by
  rw [carried, field, field, Entries.lookup_eq_of_perm
    (Entries.distinct_inOrder (distinct_carriedFields h)) (Entries.inOrder_perm _)]
  exact lookup_carriedFields h name

theorem carriedFields_givenFields (fields : List (String × Value)) :
    carriedFields (RenderJob.givenFields fields) = carriedFields fields := by
  induction fields with
  | nil => rfl
  | cons field fields ih =>
      obtain ⟨name, v⟩ := field
      cases v with
      | missing => exact ih.trans (by rw [carriedFields])
      | _ =>
          refine (?_ : carriedFields ((name, _) :: RenderJob.givenFields fields) = _)
          rw [carriedFields, carriedFields, ih]
          all_goals nofun

theorem carriedFields_written (entries : List (String × String)) :
    carriedFields (Check.written entries) = Check.written entries := by
  induction entries with
  | nil => rw [Check.written, List.map_nil, carriedFields]
  | cons e entries ih =>
      change carriedFields ((e.1, text e.2) :: Check.written entries) = _
      rw [carriedFields, carried, ih]
      · rfl
      · intro h
        cases h

theorem carried_ofText? (o : Option String) : (ofText? o).carried = ofText? o := by
  cases o with
  | none => rw [ofText?, carried]
  | some s => rw [ofText?, carried]

end Value

namespace SpeakerRefs

/-- References come out in order. -/
theorem toValue_carried (refs : SpeakerRefs) : refs.toValue.carried = refs.ordered.toValue := by
  have hcarried : refs.toValue.carried =
      .record (Entries.inOrder (Value.carriedFields (Check.written refs.entries))) := by
    rw [toValue, Value.carried]
    rfl
  rw [hcarried, Value.carriedFields_written]
  exact congrArg Value.record (Entries.inOrder_map _ _)

theorem check_ordered_eq_ok {refs refs' : SpeakerRefs} (h : refs.Sound) :
    Check.refs refs.ordered.toValue = .ok refs' ↔ (∀ e ∈ refs.entries, e.2 ≠ "") ∧ refs' = refs.ordered := by
  have hfields : Entries.inOrder (Check.written (Entries.inOrder refs.entries)) =
      Check.written (Entries.inOrder refs.entries) := by
    rw [Check.written, Entries.inOrder_map, Entries.inOrder_inOrder h.distinct]
  have hkept : (Entries.inOrder refs.entries).filter (·.1 ≠ reserved) = Entries.inOrder refs.entries := by
    refine List.filter_eq_self.2 fun e he => decide_eq_true ?_
    exact h.unreserved e ((Entries.inOrder_perm _).mem_iff.1 he)
  have hne {entries entries' : List (String × String)} (hperm : entries.Perm entries') :
      (∀ e ∈ entries, e.2 ≠ "") ↔ ∀ e ∈ entries', e.2 ≠ "" :=
    forall_congr' fun e => by rw [hperm.mem_iff]
  have hinj {entries entries' : List (String × String)}
      (hwritten : Check.written entries = Check.written entries') : entries = entries' := by
    refine List.map_injective_iff.2 (fun e e' heq => ?_) hwritten
    obtain ⟨hname, href⟩ := Prod.mk.inj heq
    exact Prod.ext hname (Value.text.inj href)
  refine (@Check.refs_eq_ok (Check.written (Entries.inOrder refs.entries)) refs').trans ?_
  rw [hfields]
  constructor
  · rintro ⟨es, hes, hnonempty, rfl⟩
    obtain rfl := hinj hes
    exact ⟨(hne (Entries.inOrder_perm _)).1 hnonempty, by rw [hkept]; rfl⟩
  · rintro ⟨hnonempty, rfl⟩
    exact ⟨_, rfl, (hne (Entries.inOrder_perm _)).2 hnonempty, by rw [hkept]; rfl⟩

end SpeakerRefs

namespace RenderJob

variable {script : String} {refs : SpeakerRefs} {assetsDir outDir : Option String} {strict : Bool}

/-- All fields that a job can have. -/
def allFields (job : RenderJob) : List (String × Value) :=
  [("script", .text job.script), ("speakerRefs", job.refs.elim .missing SpeakerRefs.toValue),
    ("assetsDir", .ofText? job.assetsDir), ("outDir", .ofText? job.outDir),
    ("strict", job.strict.elim .missing .bool)]

theorem field_toValue_carried (job : RenderJob) (name : String) :
    job.toValue.carried.field name = ((Value.record job.allFields).field name).carried := by
  have hdistinct : Entries.Distinct job.allFields := by
    change (["script", "speakerRefs", "assetsDir", "outDir", "strict"] : List String).Nodup
    decide
  have hcarried : job.toValue.carried = (Value.record job.allFields).carried := by
    rw [toValue, Value.carried, Value.carriedFields_givenFields, Value.carried]
    rfl
  rw [hcarried]
  exact Value.field_carried hdistinct name

theorem check_toValue_carried (job : RenderJob) :
    check job.toValue.carried = (RenderJob.mk
      <$> Check.field "script" .text job.toValue.carried
      <*> Check.field "speakerRefs" (.optional .refs) job.toValue.carried
      <*> Check.field "assetsDir" (.optional .text) job.toValue.carried
      <*> Check.field "outDir" (.optional .text) job.toValue.carried
      <*> Check.field "strict" (.optional .flag) job.toValue.carried) := by
  rw [toValue, Value.carried]
  rfl

/-- A job is taken out of the queue as it was put in, but for the order of its references, unless a text
in it is empty. -/
theorem check_carried (hrefs : refs.Sound) (job : RenderJob) :
    check (toValue ⟨script, some refs, assetsDir, outDir, some strict⟩).carried = .ok job ↔
      script ≠ "" ∧ (∀ e ∈ refs.entries, e.2 ≠ "") ∧ assetsDir ≠ some "" ∧ outDir ≠ some "" ∧
        job = ⟨script, some refs.ordered, assetsDir, outDir, some strict⟩ := by
  have hfield := field_toValue_carried ⟨script, some refs, assetsDir, outDir, some strict⟩
  have hscript := (hfield "script").trans (show (Value.text script).carried = .text script by
    rw [Value.carried])
  have hspeakers := (hfield "speakerRefs").trans refs.toValue_carried
  have hassets := (hfield "assetsDir").trans (Value.carried_ofText? assetsDir)
  have hout := (hfield "outDir").trans (Value.carried_ofText? outDir)
  have hstrict := (hfield "strict").trans (show (Value.bool strict).carried = .bool strict by
    rw [Value.carried])
  have hasked : Check.optional .refs refs.ordered.toValue = some <$> Check.refs refs.ordered.toValue := rfl
  have hflag : Check.optional .flag (.bool strict) = .ok (some strict) := rfl
  rw [check_toValue_carried]
  simp only [Checked.seq_eq_ok, Checked.map_eq_ok, Check.field_eq_ok, hscript, hspeakers, hassets, hout,
    hstrict, hasked, hflag, Check.text_eq_ok, SpeakerRefs.check_ordered_eq_ok hrefs,
    Check.optional_text_eq_ok, Value.text.injEq, Checked.ok.injEq]
  constructor
  · rintro ⟨_, _, ⟨_, _, ⟨_, _, ⟨_, _, ⟨_, ⟨rfl, hs⟩, rfl⟩, ⟨_, ⟨hr, rfl⟩, rfl⟩, rfl⟩, ⟨rfl, ha⟩, rfl⟩,
      ⟨rfl, ho⟩, rfl⟩, rfl, rfl⟩
    exact ⟨hs, hr, ha, ho, rfl⟩
  · rintro ⟨hs, hr, ha, ho, rfl⟩
    exact ⟨_, _, ⟨_, _, ⟨_, _, ⟨_, _, ⟨_, ⟨rfl, hs⟩, rfl⟩, ⟨_, ⟨hr, rfl⟩, rfl⟩, rfl⟩, ⟨rfl, ha⟩, rfl⟩,
      ⟨rfl, ho⟩, rfl⟩, rfl, rfl⟩

end RenderJob

end StoryMix
