import StoryMix.Entries
import StoryMix.Numeral.Reader

/-!
# Environments

The variables that settings are read from. A variable that is blank counts as not set.
-/

namespace StoryMix

/-- Variables and their texts, each variable once. -/
structure Environment where
  entries : List (String × String)

namespace Environment

def get? (env : Environment) (name : String) : Option String :=
  env.entries.lookup name

def set (env : Environment) (name text : String) : Environment :=
  ⟨Entries.replace env.entries name text⟩

/-- Sets a variable that is not set yet, be it to a blank text. -/
def setNew (env : Environment) (name text : String) : Environment :=
  if (env.get? name).isSome then env else env.set name text

/-- The text of a variable, trimmed; none if nothing is left. -/
def string? (env : Environment) (name : String) : Option String :=
  ((env.get? name).map Text.trimmed).filter (· ≠ "")

/-- The number in a variable, which may turn out not to be one. -/
def number? (env : Environment) (name : String) : Option Float :=
  (env.string? name).map Numeral.readNumber

/-! ## What each change does to the view by name -/

theorem get?_set (env : Environment) (name text other : String) :
    (env.set name text).get? other = if other = name then some text else env.get? other :=
  Entries.lookup_replace env.entries name text other

/-- A variable that is set keeps its text. -/
theorem get?_setNew (env : Environment) (name text other : String) :
    (env.setNew name text).get? other =
      if other = name then (env.get? name).or (some text) else env.get? other := by
  unfold setNew
  split
  · next h =>
    obtain ⟨old, hold⟩ := Option.isSome_iff_exists.1 h
    by_cases ho : other = name
    · simp [ho, hold]
    · simp [ho]
  · next h =>
    rw [Option.not_isSome_iff_eq_none] at h
    simp [get?_set, h]

end Environment

end StoryMix
