import StoryMix.Entries
import StoryMix.Failure
import StoryMix.Text.Split

/-!
# Voice references

Which voice reference belongs to which speaker. A name is written down once: a later entry for it
takes the place of the earlier one.
-/

namespace StoryMix

/-- Speakers and their references, each speaker once. -/
structure SpeakerRefs where
  entries : List (String × String)

namespace SpeakerRefs

def empty : SpeakerRefs :=
  ⟨[]⟩

/-- The reference of exactly this speaker. -/
def find? (refs : SpeakerRefs) (speaker : String) : Option String :=
  refs.entries.lookup speaker

/-- The entries as a value of no fixed shape. -/
def toValue (refs : SpeakerRefs) : Value :=
  .record (refs.entries.map fun e => (e.1, .text e.2))

/-- The one name that cannot be a speaker: an entry for it is lost. -/
def reserved : String :=
  "__proto__"

/-- Gives a speaker a reference. -/
def put (refs : SpeakerRefs) (speaker ref : String) : SpeakerRefs :=
  if speaker = reserved then refs else ⟨Entries.put refs.entries speaker ref⟩

theorem find?_put {speaker : String} (h : speaker ≠ reserved) (refs : SpeakerRefs)
    (ref other : String) :
    (refs.put speaker ref).find? other = if other = speaker then some ref else refs.find? other := by
  unfold put find?
  rw [if_neg h]
  exact Entries.lookup_put refs.entries speaker ref other

theorem put_reserved (refs : SpeakerRefs) (ref : String) : refs.put reserved ref = refs :=
  if_pos rfl

/-- The two texts of an item `SPEAKER=PATH`. The first `=` counts. -/
def readItem (source item : String) : Except Failure (String × String) :=
  match Text.splitFirst '=' item.toList with
  | some (speaker, ref) => .ok (String.ofList speaker, String.ofList ref)
  | none =>
    .error (.configuration (source ++ " expects SPEAKER=/path/to/ref.wav, got: " ++ item))

/-- Adds items one after the other. `source` names the option or variable that they came from. -/
def addItems (source : String) (refs : SpeakerRefs) : List String → Except Failure SpeakerRefs
  | [] => .ok refs
  | item :: items =>
    match readItem source item with
    | .error f => .error f
    | .ok (speaker, ref) => (refs.put speaker ref).addItems source items

/-- The references that a list of items gives. -/
def ofItems (source : String) (items : List String) : Except Failure SpeakerRefs :=
  empty.addItems source items

end SpeakerRefs

end StoryMix
