import Mathlib.Data.List.Forall2
import StoryMix.Proofs.Script.Composition
import StoryMix.Proofs.Script.Grammar

/-!
# What a strict reading refuses

A strict reading differs from the other in one thing: it refuses a parameter of a sound effect that is
neither an anchor nor an offset, a stray one. On a line without one the two readings agree. On a line
with one the strict reading fails, though it may fail by another parameter that comes before and that
the other refuses as well (`readLine_strict`). Over a whole script the first line decides on which the
two part, and till there both have read the same.
-/

namespace StoryMix.Script

open Text (Trims Worded)

/-- Neither an anchor nor an offset. -/
structure Stray (token : List Char) : Prop where
  anchor : ¬ "at=".toList <+: token
  offset : ¬ "offset=".toList <+: token

/-- The line is a sound effect, and the token stands behind its asset and is stray. -/
inductive Strays (raw token : List Char) : Prop
  | mk {line word value asset tokens} :
      Trims raw line → Opens "SFX:" line → Parts line word value → Worded value (asset :: tokens) →
      token ∈ tokens → Stray token → Strays raw token

/-! ## One parameter -/

theorem sets_of_strict {token : List Char} {setting : Setting} (h : Sets true token setting) :
    Sets false token setting := by
  cases h with
  | anchor ha hname => exact .anchor ha hname
  | offset hamount => exact .offset hamount
  | nothing hstrict => cases hstrict

theorem Stray.not_sets {token : List Char} (h : Stray token) (setting : Setting) :
    ¬ Sets true token setting := by
  intro hsets
  cases hsets with
  | anchor => exact h.anchor (List.prefix_append ..)
  | offset => exact h.offset (List.prefix_append ..)
  | nothing hstrict => cases hstrict

theorem spoils_of_strict {token : List Char} {fault : LineFault} (h : Spoils true token fault) :
    Spoils false token fault ∨ Stray token ∧ fault = .unknownParameter (String.ofList token) := by
  cases h with
  | anchor hname => exact .inl (.anchor hname)
  | offset hamount => exact .inl (.offset hamount)
  | unknown _ hat hoffset => exact .inr ⟨⟨hat, hoffset⟩, rfl⟩

/-! ## One line -/

theorem says_of_strict {line : List Char} {said : Option Event} (h : Says true line said) :
    Says false line said := by
  cases h with
  | blank => exact .blank
  | comment => exact .comment
  | directive hparts hkey hvalue => exact .directive hparts hkey hvalue
  | pause hopens hparts hamount hnonneg => exact .pause hopens hparts hamount hnonneg
  | effect hopens hparts hwords hsets =>
      exact .effect hopens hparts hwords (hsets.imp fun _ _ => sets_of_strict)
  | utterance hplain hparts hspeaker hspoken hne hne' =>
      exact .utterance hplain hparts hspeaker hspoken hne hne'

theorem illFormed_of_strict {raw : List Char} {fault : LineFault} (h : IllFormed true raw fault) :
    IllFormed false raw fault ∨
      ∃ token, Strays raw token ∧ fault = .unknownParameter (String.ofList token) := by
  obtain ⟨line, hline, h⟩ := h
  cases h with
  | directive hcolon => exact .inl ⟨_, hline, .directive hcolon⟩
  | pauseNotANumber hopens hparts hamount =>
      exact .inl ⟨_, hline, .pauseNotANumber hopens hparts hamount⟩
  | pauseNegative hopens hparts hamount hneg =>
      exact .inl ⟨_, hline, .pauseNegative hopens hparts hamount hneg⟩
  | effectWithoutAsset hopens hparts hwords =>
      exact .inl ⟨_, hline, .effectWithoutAsset hopens hparts hwords⟩
  | parameter hopens hparts hwords hbefore hspoils =>
      rcases spoils_of_strict hspoils with hspoils | ⟨hstray, hfault⟩
      · refine .inl ⟨_, hline, .parameter hopens hparts hwords (fun t ht => ?_) hspoils⟩
        obtain ⟨setting, hsets⟩ := hbefore t ht
        exact ⟨setting, sets_of_strict hsets⟩
      · exact .inr ⟨_, .mk hline hopens hparts hwords (by simp) hstray, hfault⟩
  | emptyUtterance hplain hparts hspeaker hspoken hempty =>
      exact .inl ⟨_, hline, .emptyUtterance hplain hparts hspeaker hspoken hempty⟩
  | unrecognized hne hplain hcolon => exact .inl ⟨_, hline, .unrecognized hne hplain hcolon⟩

/-- The two readings of a line agree, or the strict one names a stray token. -/
theorem readLine_strict (raw : List Char) :
    readLine true raw = readLine false raw ∨
      ∃ token, Strays raw token ∧
        readLine true raw = .error (.unknownParameter (String.ofList token)) := by
  rcases @reads_or_illFormed true raw with ⟨said, hreads⟩ | ⟨fault, hill⟩
  · obtain ⟨line, hline, hsays⟩ := hreads
    refine .inl ?_
    rw [readLine_of_reads ⟨line, hline, hsays⟩, readLine_of_reads ⟨line, hline, says_of_strict hsays⟩]
  · rcases illFormed_of_strict hill with hill' | ⟨token, hstrays, rfl⟩
    · refine .inl ?_
      rw [readLine_of_illFormed hill, readLine_of_illFormed hill']
    · exact .inr ⟨token, hstrays, readLine_of_illFormed hill⟩

/-- With a stray token a line cannot be read strictly, whatever else it holds. -/
theorem Strays.refused {raw token : List Char} (h : Strays raw token) :
    ∃ fault, readLine true raw = .error fault := by
  obtain ⟨hline, hopens, hparts, hwords, htoken, hstray⟩ := h
  rename_i line word value asset tokens
  rcases all_or_first (@sets_or_spoils true) tokens with
    ⟨settings, hsets⟩ | ⟨before, first, after, fault, rfl, hbefore, hspoils⟩
  · obtain ⟨setting, -, htaken⟩ := exists_of_forall₂ hsets token htoken
    exact absurd htaken (hstray.not_sets setting)
  · exact ⟨fault, readLine_of_illFormed ⟨line, hline, .parameter hopens hparts hwords hbefore hspoils⟩⟩

/-! ## The lines of a script -/

theorem le_line_of_error {strict : Bool} {n : Nat} {lines : List (List Char)} {e : ScriptError}
    (h : readLines strict n lines = .error e) : n ≤ e.line := by
  have hlater : readLines strict (0 + n) lines = .error e := by rwa [Nat.zero_add]
  rw [readLines_later] at hlater
  cases hread : readLines strict 0 lines with
  | ok events =>
      rw [hread] at hlater
      cases hlater
  | error e₀ =>
      rw [hread] at hlater
      cases hlater
      exact Nat.le_add_left n e₀.line

/-- The two readings of some lines agree, or the strict one stops at a line with a stray token and
names it. -/
theorem readLines_strict (n : Nat) (lines : List (List Char)) :
    readLines true n lines = readLines false n lines ∨
      ∃ before raw after token said, lines = before ++ raw :: after ∧ Strays raw token ∧
        readLines true n before = .ok said ∧
        readLines true n lines =
          .error ⟨n + before.length, String.ofList raw, .unknownParameter (String.ofList token)⟩ := by
  induction lines generalizing n with
  | nil => exact .inl rfl
  | cons raw rest ih =>
      rcases readLine_strict raw with heq | ⟨token, hstrays, herror⟩
      · cases hread : readLine false raw with
        | error fault =>
            rw [hread] at heq
            simp only [readLines, heq, hread, true_or]
        | ok said =>
            rw [hread] at heq
            rcases ih (n + 1) with hrest | ⟨before, raw', after, token, first, rfl, hstrays, hok, herror⟩
            · simp only [readLines, heq, hread, hrest, true_or]
            · refine .inr ⟨raw :: before, raw', after, token, said.toList ++ first, rfl, hstrays, ?_, ?_⟩
              · simp only [readLines, heq, hok]
              · simp only [readLines, heq, herror, List.length_cons]
                rw [Nat.add_assoc, Nat.add_comm 1]
      · refine .inr ⟨[], raw, rest, token, [], rfl, hstrays, rfl, ?_⟩
        simp only [readLines, herror, List.length_nil, Nat.add_zero]

theorem readLines_of_strict {n : Nat} {lines : List (List Char)} {events : List Event}
    (h : readLines true n lines = .ok events) : readLines false n lines = .ok events := by
  rcases readLines_strict n lines with heq | ⟨_, _, _, _, _, -, -, -, herror⟩
  · rw [← heq, h]
  · rw [h] at herror
    cases herror

/-- Where a strict reading stops at a line before which all could be read, the other cannot have
stopped before. -/
theorem le_line_of_strict {n : Nat} {before after : List (List Char)} {said : List Event}
    {e : ScriptError} (hbefore : readLines true n before = .ok said)
    (h : readLines false n (before ++ after) = .error e) : n + before.length ≤ e.line := by
  rw [readLines_append, readLines_of_strict hbefore] at h
  cases hafter : readLines false (n + before.length) after with
  | ok events =>
      rw [Except.bind, hafter] at h
      cases h
  | error e' =>
      rw [Except.bind, hafter] at h
      cases h
      exact le_line_of_error hafter

/-- A line with a stray token makes the strict reading of a script fail. -/
theorem refused_of_mem {script : String} {raw token : List Char}
    (hraw : raw ∈ Text.lines script.toList) (h : Strays raw token) :
    ∃ e, parse true script = .error e := by
  cases hparse : parse true script with
  | error e => exact ⟨e, rfl⟩
  | ok events =>
      obtain ⟨said, hsaid, -⟩ := parse_eq_ok.1 hparse
      have hread : readLine true raw ∈ said.map .ok := hsaid ▸ List.mem_map_of_mem hraw
      obtain ⟨fault, hfault⟩ := h.refused
      rw [hfault] at hread
      obtain ⟨_, -, hok⟩ := List.mem_map.1 hread
      cases hok

/-- A strict reading only refuses more, for stray tokens and from the first of them on. -/
theorem parse_strict (script : String) :
    (∀ events, parse true script = .ok events → parse false script = .ok events) ∧
    (∀ events, parse false script = .ok events →
      (parse true script = .ok events ∨
        ∃ k raw token, (Text.lines script.toList)[k]? = some raw ∧ Strays raw token ∧
          parse true script =
            .error ⟨k + 1, String.ofList raw, .unknownParameter (String.ofList token)⟩) ∧
      ((∃ e, parse true script = .error e) ↔
        ∃ raw ∈ Text.lines script.toList, ∃ token, Strays raw token)) ∧
    (∀ e, parse false script = .error e →
      ∃ e', parse true script = .error e' ∧ e'.line ≤ e.line ∧
        ((∀ raw ∈ (Text.lines script.toList).take e.line, ∀ token, ¬ Strays raw token) → e' = e)) := by
  rcases readLines_strict 1 (Text.lines script.toList) with
    heq | ⟨before, raw, after, token, said, hlines, hstrays, hbefore, hstop⟩
  · have hparse : parse true script = parse false script := heq
    refine ⟨fun events => readLines_of_strict, fun events hok => ?_, fun e herror => ?_⟩
    · refine ⟨.inl (hparse.trans hok), ?_, ?_⟩
      · rintro ⟨e, herror⟩
        rw [hparse, hok] at herror
        cases herror
      · rintro ⟨raw, hraw, token, hstrays⟩
        exact refused_of_mem hraw hstrays
    · exact ⟨e, hparse.trans herror, Nat.le_refl _, fun _ => rfl⟩
  · have hraw : (Text.lines script.toList)[before.length]? = some raw := by
      rw [hlines, List.getElem?_append_right (Nat.le_refl _), Nat.sub_self]
      rfl
    rw [Nat.add_comm] at hstop
    refine ⟨fun events => readLines_of_strict, fun events hok => ⟨?_, ?_⟩, fun e herror => ?_⟩
    · exact .inr ⟨before.length, raw, token, hraw, hstrays, hstop⟩
    · exact iff_of_true ⟨_, hstop⟩ ⟨raw, List.mem_of_getElem? hraw, token, hstrays⟩
    · have hline : 1 + before.length ≤ e.line := by
        rw [parse, hlines] at herror
        exact le_line_of_strict hbefore herror
      rw [Nat.add_comm] at hline
      refine ⟨_, hstop, hline, fun hnone => absurd hstrays (hnone raw ?_ token)⟩
      refine List.mem_of_getElem? (i := before.length) ?_
      rw [List.getElem?_take_of_lt hline, hraw]

/-- A bell with a word too many does not ring strictly, and so the pause after it is not reached. -/
theorem parse_strict_bell :
    parse false "Ruby: Hello" = .ok [.utterance "Ruby" "Hello"] ∧
      (∃ k raw token, (Text.lines "SFX: bell loud".toList)[k]? = some raw ∧ Strays raw token ∧
        parse true "SFX: bell loud" =
          .error ⟨k + 1, String.ofList raw, .unknownParameter (String.ofList token)⟩) ∧
      (∃ e, parse true "SFX: bell loud\nPAUSE: long" = .error e ∧ e.line ≤ 2) ∧
      parse true "PAUSE: long" = .error ⟨1, "PAUSE: long", .pauseNotANumber⟩ := by
  have hruby : parse true "Ruby: Hello" = .ok [.utterance "Ruby" "Hello"] := by decide +kernel
  have hbell : parse false "SFX: bell loud" = .ok [.cue "bell" .lastEnd 0] := by decide +kernel
  have hboth : parse false "SFX: bell loud\nPAUSE: long" =
      .error ⟨2, "PAUSE: long", .pauseNotANumber⟩ := by decide +kernel
  have hlong : parse false "PAUSE: long" = .error ⟨1, "PAUSE: long", .pauseNotANumber⟩ := by
    decide +kernel
  have hstrict : parse true "SFX: bell loud" ≠ .ok [.cue "bell" .lastEnd 0] := by decide +kernel
  refine ⟨(parse_strict _).1 _ hruby, ?_, ?_, ?_⟩
  · exact ((parse_strict _).2.1 _ hbell).1.resolve_left hstrict
  · obtain ⟨e, herror, hline, -⟩ := (parse_strict _).2.2 _ hboth
    exact ⟨e, herror, hline⟩
  · obtain ⟨e, herror, -, hsame⟩ := (parse_strict _).2.2 _ hlong
    rw [herror, hsame]
    rintro raw hraw token ⟨hline, hopens, -⟩
    have hlines : (Text.lines "PAUSE: long".toList).take 1 = ["PAUSE: long".toList] := by decide
    rw [hlines, List.mem_singleton] at hraw
    rw [← Text.trim_of_trims hline, hraw] at hopens
    revert hopens
    unfold Opens
    decide

end StoryMix.Script
