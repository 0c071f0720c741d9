import StoryMix.Config.Schema
import StoryMix.Proofs.Entries
import StoryMix.Proofs.Numeral.Order

/-!
# What passes a check

A check of several fields passes just when each of them does, and then it gives what they give. So a
value that passes is known field by field; references pass in the order in which they are gone through.

Of texts and numbers it is known besides what is wrong with them (`textFaults`, `numberFaults`), and with
`settle` the issues of several checks come together as their answers do.
-/

namespace StoryMix

namespace Checked

variable {α β : Type} {f : Checked (α → β)} {x : Checked α} {b : β}

theorem seq_eq_ok : (f <*> x) = .ok b ↔ ∃ g a, f = .ok g ∧ x = .ok a ∧ g a = b := by
  change apply f x = _ ↔ _
  cases f with
  | ok g =>
      cases x with
      | ok a => simp [apply]
      | failed issues => simp [apply]
  | failed issues =>
      cases x with
      | ok a => simp [apply]
      | failed more => simp [apply]

theorem map_eq_ok {g : α → β} : g <$> x = .ok b ↔ ∃ a, x = .ok a ∧ g a = b := by
  change apply (.ok g) x = _ ↔ _
  cases x with
  | ok a => simp [apply]
  | failed issues => simp [apply]

theorem within_eq_ok {name : String} {a : α} : x.within name = .ok a ↔ x = .ok a := by
  cases x with
  | ok a => rfl
  | failed issues => simp [within]

end Checked

namespace Check

theorem text_eq_ok {v : Value} {s : String} : text v = .ok s ↔ v = .text s ∧ s ≠ "" := by
  cases v with
  | text t =>
      have htext : text (.text t) = if t = "" then fault .emptyText else .ok t := rfl
      rw [htext]
      split
      · rename_i ht
        simp only [fault, reduceCtorEq, Value.text.injEq, false_iff, not_and, not_not]
        exact fun hs => hs ▸ ht
      · rename_i ht
        simp only [Checked.ok.injEq, Value.text.injEq]
        exact ⟨fun hs => ⟨hs, hs ▸ ht⟩, And.left⟩
  | missing => simp [text, mismatch, fault]
  | _ => simp [text, mismatch, fault]

/-- Only what is there is checked. -/
theorem optional_text_eq_ok {o o' : Option String} :
    optional text (.ofText? o) = .ok o' ↔ o' = o ∧ o ≠ some "" := by
  cases o with
  | none => simp [Value.ofText?, optional, eq_comm]
  | some s =>
      change some <$> text (.text s) = _ ↔ _
      rw [Checked.map_eq_ok]
      simp only [text_eq_ok, Value.text.injEq]
      constructor
      · rintro ⟨t, ⟨rfl, hs⟩, rfl⟩
        exact ⟨rfl, by simpa using hs⟩
      · rintro ⟨rfl, hs⟩
        exact ⟨s, ⟨rfl, by simpa using hs⟩, rfl⟩

/-- References as they are written into a value. -/
def written (entries : List (String × String)) : List (String × Value) :=
  entries.map fun e => (e.1, .text e.2)

theorem entries_eq_ok {fields : List (String × Value)} {refs : List (String × String)} :
    entries fields = .ok refs ↔ fields = written refs ∧ ∀ e ∈ refs, e.2 ≠ "" := by
  induction fields generalizing refs with
  | nil =>
      cases refs with
      | nil => simp [entries, written]
      | cons e refs => simp [entries, written]
  | cons field fields ih =>
      obtain ⟨name, v⟩ := field
      simp only [entries, Checked.seq_eq_ok, Checked.map_eq_ok, Checked.within_eq_ok, text_eq_ok, ih]
      constructor
      · rintro ⟨_, refs, ⟨ref, ⟨rfl, href⟩, rfl⟩, ⟨rfl, hrefs⟩, rfl⟩
        exact ⟨rfl, List.forall_mem_cons.2 ⟨href, hrefs⟩⟩
      · rintro ⟨hfields, hrefs⟩
        cases refs with
        | nil => cases hfields
        | cons e refs =>
            obtain ⟨hfield, hrest⟩ := List.cons.inj hfields
            obtain ⟨href, hrefs⟩ := List.forall_mem_cons.1 hrefs
            obtain ⟨rfl, rfl⟩ := Prod.mk.inj hfield
            exact ⟨_, refs, ⟨e.2, ⟨rfl, href⟩, rfl⟩, ⟨hrest, hrefs⟩, rfl⟩

theorem refs_eq_ok {fields : List (String × Value)} {refs : SpeakerRefs} :
    Check.refs (.record fields) = .ok refs ↔
      ∃ es, Entries.inOrder fields = written es ∧ (∀ e ∈ es, e.2 ≠ "") ∧
        refs = ⟨es.filter (·.1 ≠ SpeakerRefs.reserved)⟩ := by
  rw [Check.refs, Checked.map_eq_ok]
  constructor
  · rintro ⟨es, hes, rfl⟩
    obtain ⟨hfields, hne⟩ := entries_eq_ok.1 hes
    exact ⟨es, hfields, hne, rfl⟩
  · rintro ⟨es, hfields, hne, rfl⟩
    exact ⟨es, entries_eq_ok.2 ⟨hfields, hne⟩, rfl⟩

theorem field_eq_ok {α : Type} {check : Check α} {name : String} {v : Value} {a : α} :
    field name check v = .ok a ↔ check (v.field name) = .ok a :=
  Checked.within_eq_ok

end Check

/-! ## What is wrong -/

/-- What is wrong with a text. -/
def textFaults (s : String) : List Fault :=
  if s = "" then [.emptyText] else []

/-- What is wrong with a number. -/
def numberFaults (x : Float) : List Fault :=
  if x.isNaN then [.wrongKind .number .notANumber] else if x.isFinite then [] else [.notFinite]

theorem numberFaults_eq_nil {x : Float} : numberFaults x = [] ↔ x.isFinite = true := by
  unfold numberFaults
  cases hn : x.isNaN with
  | true =>
      refine iff_of_false (by simp) fun hfinite => ?_
      cases hn.symm.trans (Numeral.not_isNaN_of_isFinite hfinite)
  | false => cases x.isFinite <;> simp

/-- Faults of a field. -/
def issuesAt (name : String) (faults : List Fault) : List Issue :=
  faults.map fun f => ⟨[name], f⟩

namespace Checked

variable {α β : Type}

/-- The answer, unless something is wrong. -/
def settle (a : α) (issues : List Issue) : Checked α :=
  if issues = [] then ok a else failed issues

theorem settle_nil (a : α) : settle a [] = ok a :=
  if_pos rfl

theorem settle_cons (a : α) (issue : Issue) (issues : List Issue) :
    settle a (issue :: issues) = failed (issue :: issues) :=
  if_neg (List.cons_ne_nil _ _)

theorem settle_seq (f : α → β) (a : α) (xs ys : List Issue) :
    (settle f xs <*> settle a ys) = settle (f a) (xs ++ ys) := by
  cases xs with
  | nil => cases ys <;> rfl
  | cons x xs => cases ys <;> simp only [settle_nil, settle_cons, List.cons_append, List.append_nil] <;> rfl

theorem settle_map (f : α → β) (a : α) (issues : List Issue) :
    f <$> settle a issues = settle (f a) issues := by
  cases issues <;> rfl

theorem settle_within (name : String) (a : α) (issues : List Issue) :
    (settle a issues).within name =
      settle a (issues.map fun i => { i with path := name :: i.path }) := by
  cases issues <;> rfl

end Checked

namespace Check

open Checked (settle settle_map settle_seq settle_within)

theorem text_eq (s : String) : text (.text s) = settle s ((textFaults s).map fun f => ⟨[], f⟩) := by
  have htext : text (.text s) = if s = "" then fault .emptyText else .ok s := rfl
  rw [htext]
  unfold textFaults
  split <;> rfl

theorem number_eq (x : Float) : number (.number x) = settle x ((numberFaults x).map fun f => ⟨[], f⟩) := by
  have hnumber : number (.number x) = if x.isNaN then mismatch .number (.number x)
    else if x.isFinite then .ok x else fault .notFinite := rfl
  rw [hnumber]
  unfold numberFaults
  split
  · rename_i hn
    simp only [mismatch, Value.kind, hn]
    rfl
  · split <;> rfl

theorem field_of_eq {α : Type} {check : Check α} {name : String} {v : Value} {a : α} {faults : List Fault}
    (h : check (v.field name) = settle a (faults.map fun f => ⟨[], f⟩)) :
    field name check v = settle a (issuesAt name faults) := by
  rw [field, h, settle_within, List.map_map]
  rfl

theorem orDefault_text {default : String} (h : default ≠ "") (o : Option String) :
    orDefault default text (.ofText? o) =
      settle (o.getD default) ((textFaults (o.getD default)).map fun f => ⟨[], f⟩) := by
  cases o with
  | none =>
      rw [Option.getD_none, textFaults, if_neg h]
      rfl
  | some s => exact text_eq s

theorem orDefault_number {default : Float} (h : default.isFinite = true) (o : Option Float) :
    orDefault default number (o.elim .missing .number) =
      settle (o.getD default) ((numberFaults (o.getD default)).map fun f => ⟨[], f⟩) := by
  cases o with
  | none =>
      rw [Option.getD_none, numberFaults_eq_nil.2 h]
      rfl
  | some x => exact number_eq x

/-- The empty ones among references. -/
def emptyRefs (es : List (String × String)) : List Issue :=
  (es.filter (·.2 = "")).map fun e => ⟨[e.1], .emptyText⟩

theorem entries_written (es : List (String × String)) :
    entries (written es) = settle es (emptyRefs es) := by
  induction es with
  | nil => rfl
  | cons e es ih =>
      obtain ⟨name, ref⟩ := e
      change ((fun ref refs => (name, ref) :: refs) <$> (text (.text ref)).within name <*>
        entries (written es)) = _
      rw [ih, text_eq, settle_within, settle_map, settle_seq, emptyRefs, emptyRefs, List.filter_cons]
      unfold textFaults
      by_cases href : ref = "" <;> simp [href]

theorem refs_written (es : List (String × String)) :
    refs (.record (written es)) =
      settle ⟨(Entries.inOrder es).filter (·.1 ≠ SpeakerRefs.reserved)⟩
        (emptyRefs (Entries.inOrder es)) := by
  rw [refs, written, Entries.inOrder_map]
  change _ <$> entries (written (Entries.inOrder es)) = _
  rw [entries_written, settle_map]

end Check

end StoryMix
