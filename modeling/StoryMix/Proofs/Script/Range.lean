import StoryMix.Proofs.Numeral.Readings
import StoryMix.Proofs.Script.Grammar

/-!
# The range of the numbers of a script

A line that makes a pause, or places an effect, gives a number (`Gives`), and the script that is read has
the float nearest to it (`amounts_nearest`). It is a number always, and for a pause not below zero. But the
notation has no bound where floats have one: the float is finite just when the number is in range, and from
`overflow` on it is an infinity.
-/

namespace StoryMix.Script

open Numeral (DecimalFor Nearest overflow)
open Text (Trims Worded trim)

variable {strict : Bool}

/-- The seconds of a pause, or the offset of an effect. -/
def amount? : Event → Option Float
  | .pause seconds => some seconds
  | .cue _ _ offset => some offset
  | _ => none

/-- The text is a decimal numeral for the number, blanks at its ends aside. -/
def Quantity (cs : List Char) (r : ℚ) : Prop :=
  ∃ core, Trims cs core ∧ DecimalFor core r

/-- The token sets the offset of an effect. -/
abbrev IsOffset (token : List Char) : Prop :=
  "offset=".toList <+: token

/-- The number that a trimmed line gives for the pause it makes or the effect it places: the last offset of
several, and zero if there is none. -/
inductive Gives : List Char → ℚ → Prop
  | pause {line word value r} :
      Opens "PAUSE:" line → Parts line word value → Quantity value r → Gives line r
  | offset {line word value asset before written after r} :
      Opens "SFX:" line → Parts line word value →
      Worded value (asset :: (before ++ ("offset=".toList ++ written) :: after)) →
      (∀ token ∈ after, ¬ IsOffset token) → Quantity written r → Gives line r
  | unset {line word value asset tokens} :
      Opens "SFX:" line → Parts line word value → Worded value (asset :: tokens) →
      (∀ token ∈ tokens, ¬ IsOffset token) → Gives line 0

theorem Amount.exists_quantity {cs : List Char} {x : Float} (h : Amount cs x) :
    ∃ r, Quantity cs r ∧ Nearest r (.ofFloat x) := by
  obtain ⟨core, hcore, hdenotes⟩ := h
  obtain ⟨r, hr, hnearest⟩ := hdenotes.exists_decimalFor
  exact ⟨r, ⟨core, hcore, hr⟩, hnearest⟩

/-! ## The last offset -/

theorem Sets.offset?_eq_none {token : List Char} {setting : Setting} (h : Sets strict token setting)
    (htoken : ¬ IsOffset token) : setting.offset? = none := by
  cases h with
  | anchor | nothing => rfl
  | offset => exact absurd (List.prefix_append ..) htoken

theorem Sets.offset?_eq_some {token : List Char} {setting : Setting} (h : Sets strict token setting)
    (htoken : IsOffset token) :
    ∃ written x, token = "offset=".toList ++ written ∧ Amount written x ∧ setting.offset? = some x := by
  cases h with
  | anchor =>
      obtain ⟨rest, hrest⟩ := htoken
      exact absurd ⟨_, hrest.symm⟩ (at_not_opens_offset rest)
  | offset hx => exact ⟨_, _, rfl, hx, rfl⟩
  | nothing _ _ hoffset => exact absurd htoken hoffset

/-- Among parameters that are taken there is a last one that sets an offset, or there is none. -/
theorem getLast?_offsets {tokens : List (List Char)} {settings : List Setting}
    (h : List.Forall₂ (Sets strict) tokens settings) :
    ((∀ token ∈ tokens, ¬ IsOffset token) ∧ settings.filterMap Setting.offset? = [])
      ∨ ∃ before written after x, tokens = before ++ ("offset=".toList ++ written) :: after
          ∧ (∀ token ∈ after, ¬ IsOffset token) ∧ Amount written x
          ∧ (settings.filterMap Setting.offset?).getLast? = some x := by
  induction h with
  | nil => exact .inl ⟨nofun, rfl⟩
  | @cons token setting tokens settings hsets _ ih =>
      rcases ih with ⟨hnone, hempty⟩ | ⟨before, written, after, x, rfl, hafter, hx, hlast⟩
      · by_cases htoken : IsOffset token
        · obtain ⟨written, x, rfl, hx, hsetting⟩ := hsets.offset?_eq_some htoken
          refine .inr ⟨[], written, tokens, x, rfl, hnone, hx, ?_⟩
          rw [List.filterMap_cons_some hsetting, hempty]
          rfl
        · refine .inl ⟨List.forall_mem_cons.2 ⟨htoken, hnone⟩, ?_⟩
          rw [List.filterMap_cons_none (hsets.offset?_eq_none htoken), hempty]
      · refine .inr ⟨token :: before, written, after, x, rfl, hafter, hx, ?_⟩
        cases hsetting : setting.offset? with
        | none => rw [List.filterMap_cons_none hsetting, hlast]
        | some y => rw [List.filterMap_cons_some hsetting, List.getLast?_cons, hlast]; rfl

/-! ## What a line gives -/

theorem nearest_zero : Nearest 0 (.ofFloat 0) :=
  Numeral.NearestTo.exact (Numeral.parts_zero ▸ Numeral.nearestTo_zero)

/-- A line that says an event with a number gives one, and the event has the float nearest to it. -/
theorem Says.exists_gives {line : List Char} {e : Event} {x : Float} (h : Says strict line (some e))
    (hx : amount? e = some x) : ∃ r, Gives line r ∧ Nearest r (.ofFloat x) := by
  cases h with
  | directive | utterance => cases hx
  | pause hopens hparts hamount =>
      cases hx
      obtain ⟨r, hr, hnearest⟩ := hamount.exists_quantity
      exact ⟨r, .pause hopens hparts hr, hnearest⟩
  | @effect _ _ value asset tokens settings hopens hparts hworded hsets =>
      obtain rfl := Option.some.inj hx
      unfold lastOffset
      rcases getLast?_offsets hsets with ⟨hnone, hempty⟩ | ⟨before, written, after, x, rfl, hafter, hx, hlast⟩
      · rw [hempty]
        exact ⟨0, .unset hopens hparts hworded hnone, nearest_zero⟩
      · rw [hlast]
        obtain ⟨r, hr, hnearest⟩ := hx.exists_quantity
        exact ⟨r, .offset hopens hparts hworded hafter hr, hnearest⟩

theorem says_of_readLine {raw : List Char} {said : Option Event} (h : readLine strict raw = .ok said) :
    Says strict (trim raw) said := by
  rcases @reads_or_illFormed strict raw with ⟨said', hreads⟩ | ⟨fault, hill⟩
  · obtain ⟨line, hline, hsays⟩ := hreads
    have hsaid : said' = said :=
      Except.ok.inj ((readLine_of_reads ⟨line, hline, hsays⟩).symm.trans h)
    rw [Text.trim_of_trims hline, ← hsaid]
    exact hsays
  · rw [readLine_of_illFormed hill] at h
    cases h

/-! ## Scripts -/

/-- Each number of a script is given by one of its lines, and read as the float nearest to what that gives.
It is never no number, and for a pause never below zero; it is finite just when the given number is in the
range of floats. -/
theorem amounts_nearest {script : String} {events : List Event} (h : parse strict script = .ok events) :
    ∀ e ∈ events, ∀ x, amount? e = some x →
      x.isNaN = false ∧ (e = .pause x → 0 ≤ x)
        ∧ ∃ raw ∈ Text.lines script.toList, ∃ r, Says strict (trim raw) (some e) ∧ Gives (trim raw) r
            ∧ Nearest r (.ofFloat x) ∧ (x.isFinite = true ↔ |r| < overflow) := by
  intro e he x hx
  obtain ⟨raw, hraw, hread⟩ := exists_line_of_mem h he
  have hsays := says_of_readLine hread
  obtain ⟨r, hgives, hnearest⟩ := hsays.exists_gives hx
  have hscripted := scripted_of_parse h e he
  have hnumber : x.isNaN = false ∧ (e = .pause x → 0 ≤ x) := by
    cases e with
    | pause seconds =>
        cases hx
        exact ⟨Numeral.not_isNaN_of_zero_le hscripted, fun _ => hscripted⟩
    | cue =>
        cases hx
        exact ⟨hscripted, nofun⟩
    | directive | utterance | other => cases hx
  exact ⟨hnumber.1, hnumber.2, raw, hraw, r, hsays, hgives, hnearest, hnearest.isFinite_iff⟩

/-- A pause that is too long for a float is read as one without end. -/
theorem amounts_nearest_eternal_pause :
    ∃ events x, parse false "PAUSE: 1e400" = .ok events ∧ .pause x ∈ events ∧ x.isFinite = false
      ∧ ∃ r, Gives "PAUSE: 1e400".toList r ∧ overflow ≤ |r| := by
  have hparse : parse false "PAUSE: 1e400" = .ok [.pause (1 / 0)] := by decide +kernel
  have hlines : Text.lines "PAUSE: 1e400".toList = ["PAUSE: 1e400".toList] := by decide
  have htrim : trim "PAUSE: 1e400".toList = "PAUSE: 1e400".toList := by decide
  have hinfinite : (1 / 0 : Float).isFinite = false := rfl
  obtain ⟨-, -, raw, hraw, r, -, hgives, -, hrange⟩ :=
    amounts_nearest hparse _ List.mem_cons_self (1 / 0) rfl
  rw [hlines, List.mem_singleton] at hraw
  rw [hraw, htrim] at hgives
  rw [hinfinite] at hrange
  exact ⟨_, 1 / 0, hparse, List.mem_cons_self, hinfinite, r, hgives,
    not_lt.1 fun hlt => Bool.false_ne_true (hrange.2 hlt)⟩

end StoryMix.Script
