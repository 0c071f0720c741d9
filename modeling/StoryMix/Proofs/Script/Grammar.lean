import StoryMix.Proofs.Numeral.Notation
import StoryMix.Proofs.Script.Parse
import StoryMix.Proofs.Text.Blank
import StoryMix.Proofs.Text.Case
import StoryMix.Proofs.Text.Lines

/-!
# The grammar of scripts

What a script may say, as relations that know nothing of how a script is read. `Says` tells which
trimmed lines are well-formed and what they say, `Faulty` which are ill-formed and what is wrong with
them; both are laid over the lines of a text by `Ruled`. The reading is proved to answer exactly as the
grammar says, one function of the reader at a time: parameters of a sound effect, what stands after
`PAUSE:` and after `SFX:`, a line, the lines of a script up to the first ill-formed one.

The classes of lines overlap as texts, since a pause and an effect have a colon like an utterance, so
an utterance is a line that opens in none of the other ways (`Plain`).
-/

namespace StoryMix

namespace Anchor

/-- One of the three points that a script can name. -/
def Known (a : Anchor) : Prop :=
  a = now ∨ a = lastStart ∨ a = lastEnd

theorem ofName_name {a : Anchor} (h : a.Known) : ofName a.name = a := by
  rcases h with rfl | rfl | rfl <;> decide

end Anchor

namespace Script

open Numeral (Denotes)
open Text (Trims Worded Ruled LineEnd EndsLine trim splitFirst)

variable {strict : Bool}

/-! ## The grammar -/

/-- The line is these two texts with its first colon between them. -/
def Parts (line left right : List Char) : Prop :=
  ':' ∉ left ∧ line = left ++ ':' :: right

/-- The line begins with these capitals once it is in upper case. -/
def Opens (capitals : String) (line : List Char) : Prop :=
  capitals.toList <+: Text.upper line

/-- The text is a decimal numeral, blanks at its ends aside. -/
def Amount (cs : List Char) (x : Float) : Prop :=
  ∃ core, Trims cs core ∧ Denotes core x

/-- What a parameter of a sound effect is good for. -/
inductive Setting where
  | anchor (a : Anchor)
  | offset (x : Float)
  | nothing

namespace Setting

def anchor? : Setting → Option Anchor
  | anchor a => some a
  | _ => none

def offset? : Setting → Option Float
  | offset x => some x
  | _ => none

end Setting

/-- A parameter that is taken. -/
inductive Sets (strict : Bool) : List Char → Setting → Prop
  | anchor {a written} :
      a.Known → a.name = String.ofList (Text.lower written) →
      Sets strict ("at=".toList ++ written) (.anchor a)
  | offset {written x} : Amount written x → Sets strict ("offset=".toList ++ written) (.offset x)
  | nothing {token} :
      strict = false → ¬ "at=".toList <+: token → ¬ "offset=".toList <+: token →
      Sets strict token .nothing

/-- A parameter that is refused. -/
inductive Spoils (strict : Bool) : List Char → LineFault → Prop
  | anchor {written} :
      (∀ a : Anchor, a.Known → a.name ≠ String.ofList (Text.lower written)) →
      Spoils strict ("at=".toList ++ written) (.unknownAnchor (String.ofList written))
  | offset {written} :
      (∀ x, ¬ Amount written x) → Spoils strict ("offset=".toList ++ written) .offsetNotANumber
  | unknown {token} :
      strict = true → ¬ "at=".toList <+: token → ¬ "offset=".toList <+: token →
      Spoils strict token (.unknownParameter (String.ofList token))

/-- A line that opens neither as a comment nor as a directive, a pause or a sound effect. -/
structure Plain (line : List Char) : Prop where
  comment : line.head? ≠ some '#'
  directive : line.head? ≠ some '@'
  pause : ¬ Opens "PAUSE:" line
  effect : ¬ Opens "SFX:" line

/-- The last of the anchors that are set, or else the end of what came last. -/
def lastAnchor (settings : List Setting) : Anchor :=
  (settings.filterMap Setting.anchor?).getLast?.getD .lastEnd

/-- The last of the offsets that are set, or else none. -/
def lastOffset (settings : List Setting) : Float :=
  (settings.filterMap Setting.offset?).getLast?.getD 0

/-- A well-formed line, trimmed, and what it says. -/
inductive Says (strict : Bool) : List Char → Option Event → Prop
  | blank : Says strict [] none
  | comment {rest} : Says strict ('#' :: rest) none
  | directive {rest left right key value} :
      Parts rest left right → Trims left key → Trims right value →
      Says strict ('@' :: rest) (some (.directive (String.ofList key) (String.ofList value)))
  | pause {line word value seconds} :
      Opens "PAUSE:" line → Parts line word value → Amount value seconds → ¬ seconds < 0 →
      Says strict line (some (.pause seconds))
  | effect {line word value asset tokens settings} :
      Opens "SFX:" line → Parts line word value → Worded value (asset :: tokens) →
      List.Forall₂ (Sets strict) tokens settings →
      Says strict line
        (some (.cue (String.ofList asset) (lastAnchor settings) (lastOffset settings)))
  | utterance {line left right speaker spoken} :
      Plain line → Parts line left right → Trims left speaker → Trims right spoken →
      speaker ≠ [] → spoken ≠ [] →
      Says strict line (some (.utterance (String.ofList speaker) (String.ofList spoken)))

/-- An ill-formed line, trimmed, and what is wrong with it. -/
inductive Faulty (strict : Bool) : List Char → LineFault → Prop
  | directive {rest} : ':' ∉ rest → Faulty strict ('@' :: rest) .directiveWithoutColon
  | pauseNotANumber {line word value} :
      Opens "PAUSE:" line → Parts line word value → (∀ x, ¬ Amount value x) →
      Faulty strict line .pauseNotANumber
  | pauseNegative {line word value seconds} :
      Opens "PAUSE:" line → Parts line word value → Amount value seconds → seconds < 0 →
      Faulty strict line .pauseNegative
  | effectWithoutAsset {line word value} :
      Opens "SFX:" line → Parts line word value → Worded value [] →
      Faulty strict line .effectWithoutAsset
  /-- The first parameter that is refused. -/
  | parameter {line word value asset before token after fault} :
      Opens "SFX:" line → Parts line word value → Worded value (asset :: (before ++ token :: after)) →
      (∀ t ∈ before, ∃ setting, Sets strict t setting) → Spoils strict token fault →
      Faulty strict line fault
  | emptyUtterance {line left right speaker spoken} :
      Plain line → Parts line left right → Trims left speaker → Trims right spoken →
      speaker = [] ∨ spoken = [] → Faulty strict line .emptyUtterance
  | unrecognized {line} : line ≠ [] → Plain line → ':' ∉ line → Faulty strict line .unrecognized

/-! ## Parameters -/

theorem parameter?_append (name : String) (written : List Char) :
    parameter? name (name.toList ++ written) = some written := by
  unfold parameter?
  rw [if_pos (List.isPrefixOf_iff_prefix.2 (List.prefix_append ..)), ← String.length_toList,
    List.drop_left]

theorem parameter?_eq_none {name : String} {token : List Char} (h : ¬ name.toList <+: token) :
    parameter? name token = none :=
  if_neg fun hbegins => h (List.isPrefixOf_iff_prefix.1 hbegins)

theorem at_not_opens_offset (written : List Char) : ¬ "at=".toList <+: "offset=".toList ++ written := by
  rintro ⟨rest, h⟩
  injection h with hhead
  revert hhead
  decide

theorem readDecimal_of_amount {cs : List Char} {x : Float} (h : Amount cs x) :
    Numeral.readDecimal (trim cs) = some x := by
  obtain ⟨core, hcore, hdenotes⟩ := h
  rw [Text.trim_of_trims hcore]
  exact Numeral.readDecimal_eq_some.2 hdenotes

theorem readDecimal_of_not_amount {cs : List Char} (h : ∀ x, ¬ Amount cs x) :
    Numeral.readDecimal (trim cs) = none := by
  refine Option.eq_none_iff_forall_ne_some.2 fun x hx => h x ?_
  exact ⟨trim cs, Text.trims_trim cs, Numeral.readDecimal_eq_some.1 hx⟩

theorem sets_or_spoils (token : List Char) :
    (∃ setting, Sets strict token setting) ∨ ∃ fault, Spoils strict token fault := by
  by_cases hat : "at=".toList <+: token
  · obtain ⟨written, rfl⟩ := hat
    by_cases hname : ∃ a : Anchor, a.Known ∧ a.name = String.ofList (Text.lower written)
    · obtain ⟨a, ha, hname⟩ := hname
      exact .inl ⟨_, .anchor ha hname⟩
    · exact .inr ⟨_, .anchor fun a ha hname' => hname ⟨a, ha, hname'⟩⟩
  · by_cases hoffset : "offset=".toList <+: token
    · obtain ⟨written, rfl⟩ := hoffset
      by_cases hamount : ∃ x, Amount written x
      · obtain ⟨x, hx⟩ := hamount
        exact .inl ⟨_, .offset hx⟩
      · exact .inr ⟨_, .offset (not_exists.1 hamount)⟩
    · cases hstrict : strict with
      | false => exact .inl ⟨_, .nothing rfl hat hoffset⟩
      | true => exact .inr ⟨_, .unknown rfl hat hoffset⟩

/-- A placing once a parameter has been taken. -/
def Setting.onto (p : Placing) : Setting → Placing
  | anchor a => { p with anchor := a }
  | offset x => { p with offset := x }
  | nothing => p

theorem read_of_sets {token : List Char} {setting : Setting} (h : Sets strict token setting)
    (p : Placing) : p.read strict token = .ok (setting.onto p) := by
  cases h with
  | @anchor a written ha hname =>
      have hof : Anchor.ofName (String.ofList (Text.lower written)) = a := by
        rw [← hname]
        exact Anchor.ofName_name ha
      simp only [Placing.read, parameter?_append, hof]
      rcases ha with rfl | rfl | rfl <;> rfl
  | @offset written x hx =>
      simp only [Placing.read, parameter?_eq_none (at_not_opens_offset written), parameter?_append,
        readDecimal_of_amount hx]
      rfl
  | nothing hstrict hat hoffset =>
      simp only [Placing.read, parameter?_eq_none hat, parameter?_eq_none hoffset, hstrict]
      rfl

theorem read_of_spoils {token : List Char} {fault : LineFault} (h : Spoils strict token fault)
    (p : Placing) : p.read strict token = .error fault := by
  cases h with
  | @anchor written hname =>
      have hwritten := Anchor.name_ofName (String.ofList (Text.lower written))
      simp only [Placing.read, parameter?_append]
      split
      · rfl
      · -- Any other answer is a point that can be named, and the written text is its name.
        rename_i hother
        refine absurd hwritten (hname _ ?_)
        cases hof : Anchor.ofName (String.ofList (Text.lower written)) with
        | now => exact .inl rfl
        | lastStart => exact .inr (.inl rfl)
        | lastEnd => exact .inr (.inr rfl)
        | other name => exact absurd hof (hother name)
  | @offset written hwritten =>
      simp only [Placing.read, parameter?_eq_none (at_not_opens_offset written), parameter?_append,
        readDecimal_of_not_amount hwritten]
  | unknown hstrict hat hoffset =>
      simp only [Placing.read, parameter?_eq_none hat, parameter?_eq_none hoffset, hstrict]
      rfl

/-! ## Parameters one after the other -/

/-- Where each single one is taken or refused, all of them are taken or there is a first refused. -/
theorem all_or_first {α β γ : Type} {takes : α → β → Prop} {refuses : α → γ → Prop}
    (h : ∀ x, (∃ y, takes x y) ∨ ∃ z, refuses x z) (xs : List α) :
    (∃ ys, List.Forall₂ takes xs ys)
      ∨ ∃ before x after z, xs = before ++ x :: after ∧ (∀ x ∈ before, ∃ y, takes x y)
          ∧ refuses x z := by
  induction xs with
  | nil => exact .inl ⟨[], .nil⟩
  | cons x xs ih =>
      rcases h x with ⟨y, htakes⟩ | ⟨z, hrefuses⟩
      · rcases ih with ⟨ys, hall⟩ | ⟨before, x', after, z, rfl, hbefore, hrefuses⟩
        · exact .inl ⟨y :: ys, .cons htakes hall⟩
        · refine .inr ⟨x :: before, x', after, z, rfl, ?_, hrefuses⟩
          exact List.forall_mem_cons.2 ⟨⟨y, htakes⟩, hbefore⟩
      · exact .inr ⟨[], x, xs, z, rfl, nofun, hrefuses⟩

theorem exists_of_forall₂ {α β : Type} {R : α → β → Prop} {xs : List α} {ys : List β}
    (h : List.Forall₂ R xs ys) : ∀ x ∈ xs, ∃ y ∈ ys, R x y := by
  induction h with
  | nil => exact nofun
  | cons hr _ ih =>
      refine List.forall_mem_cons.2 ⟨⟨_, List.mem_cons_self, hr⟩, fun x hx => ?_⟩
      obtain ⟨y, hy, hr⟩ := ih x hx
      exact ⟨y, List.mem_cons_of_mem _ hy, hr⟩

theorem readAll_of_sets {tokens : List (List Char)} {settings : List Setting}
    (h : List.Forall₂ (Sets strict) tokens settings) (p : Placing) :
    p.readAll strict tokens = .ok (settings.foldl Setting.onto p) := by
  induction h generalizing p with
  | nil => rfl
  | cons hsets _ ih =>
      rw [Placing.readAll, read_of_sets hsets p]
      exact ih _

theorem readAll_of_spoils {before : List (List Char)} {token : List Char} {fault : LineFault}
    (hbefore : ∀ t ∈ before, ∃ setting, Sets strict t setting) (h : Spoils strict token fault)
    (after : List (List Char)) (p : Placing) :
    p.readAll strict (before ++ token :: after) = .error fault := by
  induction before generalizing p with
  | nil => rw [List.nil_append, Placing.readAll, read_of_spoils h p]
  | cons t before ih =>
      obtain ⟨⟨setting, hsets⟩, hbefore⟩ := List.forall_mem_cons.1 hbefore
      rw [List.cons_append, Placing.readAll, read_of_sets hsets p]
      exact ih hbefore _

/-- Of the anchors that are set the last one counts, and so of the offsets. -/
theorem foldl_onto (settings : List Setting) (p : Placing) :
    settings.foldl Setting.onto p
      = ⟨(settings.filterMap Setting.anchor?).getLast?.getD p.anchor,
          (settings.filterMap Setting.offset?).getLast?.getD p.offset⟩ := by
  induction settings generalizing p with
  | nil => rfl
  | cons setting settings ih =>
      rw [List.foldl_cons, ih]
      cases setting with
      | anchor a =>
          rw [List.filterMap_cons_some (f := Setting.anchor?) rfl, List.filterMap_cons_none rfl,
            List.getLast?_cons]
          rfl
      | offset x =>
          rw [List.filterMap_cons_none (f := Setting.anchor?) rfl,
            List.filterMap_cons_some (f := Setting.offset?) rfl, List.getLast?_cons]
          rfl
      | nothing =>
          rw [List.filterMap_cons_none (f := Setting.anchor?) rfl, List.filterMap_cons_none rfl]
          rfl

/-! ## How a line opens -/

theorem opensWith_iff {capitals : String} {line : List Char} :
    opensWith capitals line = true ↔ Opens capitals line :=
  List.isPrefixOf_iff_prefix

theorem Parts.splitFirst {line left right : List Char} (h : Parts line left right) :
    splitFirst ':' line = some (left, right) :=
  Text.splitFirst_eq_some.2 h

theorem exists_parts {line : List Char} (h : ':' ∈ line) : ∃ left right, Parts line left right := by
  cases hsplit : Text.splitFirst ':' line with
  | none => exact absurd h (Text.splitFirst_eq_none.1 hsplit)
  | some parts => exact ⟨parts.1, parts.2, Text.splitFirst_eq_some.1 hsplit⟩

theorem afterColon_of_parts {line left right : List Char} (h : Parts line left right) :
    afterColon line = right := by
  simp only [afterColon, h.splitFirst]

/-- A line that opens with capitals and a colon has a colon of its own. -/
theorem Opens.exists_parts {capitals : String} {line : List Char} (h : Opens capitals line)
    (hcolon : ':' ∈ capitals.toList) : ∃ left right, Parts line left right := by
  obtain ⟨c, hc, hupper⟩ := List.mem_flatMap.1 (h.subset hcolon)
  obtain rfl := Text.eq_colon_of_mem_upperChar hupper
  exact Script.exists_parts hc

/-- How a line opens tells its class: it is not blank, and no other way of opening is the same. -/
theorem Opens.head_ne {capitals : String} {line : List Char} (h : Opens capitals line) {c : Char}
    (hc : Text.upperChar c = [c]) (hne : capitals.toList.head? ≠ some c)
    (hsome : capitals.toList ≠ []) : line.head? ≠ some c := by
  intro hhead
  obtain ⟨rest, rfl⟩ := List.head?_eq_some_iff.1 hhead
  obtain ⟨later, hlater⟩ := h
  have hupper : Text.upper (c :: rest) = c :: Text.upper rest := by
    rw [Text.upper, List.flatMap_cons, hc]
    rfl
  rw [hupper] at hlater
  cases hcapitals : capitals.toList with
  | nil => exact hsome hcapitals
  | cons d ds =>
      rw [hcapitals] at hlater hne
      injection hlater with hd
      exact hne (congrArg some hd)

theorem Opens.ne_nil {capitals : String} {line : List Char} (h : Opens capitals line)
    (hsome : capitals.toList ≠ []) : line ≠ [] := by
  rintro rfl
  exact hsome (List.prefix_nil.1 h)

/-- A line of words, not of signs: what decides is how it opens in upper case. -/
theorem readTrimmed_eq {line : List Char} (hne : line ≠ []) (hcomment : line.head? ≠ some '#')
    (hdirective : line.head? ≠ some '@') :
    readTrimmed strict line = some <$>
      if opensWith "PAUSE:" line then readPause (afterColon line)
      else if opensWith "SFX:" line then readEffect strict (afterColon line)
      else readUtterance line := by
  unfold readTrimmed
  split
  · exact absurd rfl hne
  · exact absurd rfl hcomment
  · exact absurd rfl hdirective
  · rfl

theorem readTrimmed_of_pause {line word value : List Char} (h : Opens "PAUSE:" line)
    (hparts : Parts line word value) :
    readTrimmed strict line = some <$> readPause value := by
  rw [readTrimmed_eq (h.ne_nil (by decide)) (h.head_ne (by decide) (by decide) (by decide))
    (h.head_ne (by decide) (by decide) (by decide)), if_pos (opensWith_iff.2 h),
    afterColon_of_parts hparts]

theorem not_opens_pause {line : List Char} (h : Opens "SFX:" line) : ¬ Opens "PAUSE:" line := by
  intro hpause
  obtain ⟨rest, hrest⟩ := h
  obtain ⟨later, hlater⟩ := hpause
  rw [← hrest] at hlater
  injection hlater with hhead
  revert hhead
  decide

theorem readTrimmed_of_effect {line word value : List Char} (h : Opens "SFX:" line)
    (hparts : Parts line word value) :
    readTrimmed strict line = some <$> readEffect strict value := by
  have hpause : ¬ opensWith "PAUSE:" line = true := fun hp => not_opens_pause h (opensWith_iff.1 hp)
  rw [readTrimmed_eq (h.ne_nil (by decide)) (h.head_ne (by decide) (by decide) (by decide))
    (h.head_ne (by decide) (by decide) (by decide)), if_neg hpause, if_pos (opensWith_iff.2 h),
    afterColon_of_parts hparts]

theorem readTrimmed_of_plain {line : List Char} (hne : line ≠ []) (h : Plain line) :
    readTrimmed strict line = some <$> readUtterance line := by
  have hpause : ¬ opensWith "PAUSE:" line = true := fun hp => h.pause (opensWith_iff.1 hp)
  have heffect : ¬ opensWith "SFX:" line = true := fun hp => h.effect (opensWith_iff.1 hp)
  rw [readTrimmed_eq hne h.comment h.directive, if_neg hpause, if_neg heffect]

/-! ## One line -/

theorem Parts.ne_nil {line left right : List Char} (h : Parts line left right) : line ≠ [] := by
  rw [h.2]
  exact List.append_ne_nil_of_right_ne_nil left (List.cons_ne_nil ':' right)

theorem textOf_of_trims {cs core : List Char} (h : Trims cs core) :
    textOf cs = String.ofList core :=
  congrArg String.ofList (Text.trim_of_trims h)

theorem readTrimmed_of_says {line : List Char} {said : Option Event}
    (h : Says strict line said) : readTrimmed strict line = .ok said := by
  cases h with
  | blank => rfl
  | comment => rfl
  | directive hparts hkey hvalue =>
      simp only [readTrimmed, readDirective, hparts.splitFirst, textOf_of_trims hkey,
        textOf_of_trims hvalue]
      rfl
  | pause hopens hparts hamount hnonneg =>
      simp only [readTrimmed_of_pause hopens hparts, readPause, readDecimal_of_amount hamount,
        if_neg hnonneg]
      rfl
  | effect hopens hparts hwords hsets =>
      simp only [readTrimmed_of_effect hopens hparts, readEffect, Text.words_of_worded hwords,
        readAll_of_sets hsets, foldl_onto]
      rfl
  | @utterance _ left right _ _ hplain hparts hspeaker hspoken hne hne' =>
      have hsome : ¬ (trim left = [] ∨ trim right = []) := by
        rw [Text.trim_of_trims hspeaker, Text.trim_of_trims hspoken]
        exact not_or.2 ⟨hne, hne'⟩
      simp only [readTrimmed_of_plain hparts.ne_nil hplain, readUtterance, hparts.splitFirst,
        if_neg hsome, textOf_of_trims hspeaker, textOf_of_trims hspoken]
      rfl

theorem readTrimmed_of_faulty {line : List Char} {fault : LineFault}
    (h : Faulty strict line fault) : readTrimmed strict line = .error fault := by
  cases h with
  | directive hcolon =>
      simp only [readTrimmed, readDirective, Text.splitFirst_eq_none.2 hcolon]
      rfl
  | pauseNotANumber hopens hparts hamount =>
      simp only [readTrimmed_of_pause hopens hparts, readPause, readDecimal_of_not_amount hamount]
      rfl
  | pauseNegative hopens hparts hamount hneg =>
      simp only [readTrimmed_of_pause hopens hparts, readPause, readDecimal_of_amount hamount,
        if_pos hneg]
      rfl
  | effectWithoutAsset hopens hparts hwords =>
      simp only [readTrimmed_of_effect hopens hparts, readEffect, Text.words_of_worded hwords]
      rfl
  | parameter hopens hparts hwords hbefore hspoils =>
      simp only [readTrimmed_of_effect hopens hparts, readEffect, Text.words_of_worded hwords,
        readAll_of_spoils hbefore hspoils]
      rfl
  | emptyUtterance hplain hparts hspeaker hspoken hempty =>
      rw [← Text.trim_of_trims hspeaker, ← Text.trim_of_trims hspoken] at hempty
      simp only [readTrimmed_of_plain hparts.ne_nil hplain, readUtterance, hparts.splitFirst,
        if_pos hempty]
      rfl
  | unrecognized hne hplain hcolon =>
      simp only [readTrimmed_of_plain hne hplain, readUtterance, Text.splitFirst_eq_none.2 hcolon]
      rfl

theorem says_or_faulty_of_pause {line : List Char} (h : Opens "PAUSE:" line) :
    (∃ said, Says strict line said) ∨ ∃ fault, Faulty strict line fault := by
  obtain ⟨word, value, hparts⟩ := h.exists_parts (by decide)
  by_cases hamount : ∃ x, Amount value x
  · obtain ⟨seconds, hseconds⟩ := hamount
    by_cases hneg : seconds < 0
    · exact .inr ⟨_, .pauseNegative h hparts hseconds hneg⟩
    · exact .inl ⟨_, .pause h hparts hseconds hneg⟩
  · exact .inr ⟨_, .pauseNotANumber h hparts (not_exists.1 hamount)⟩

theorem says_or_faulty_of_effect {line : List Char} (h : Opens "SFX:" line) :
    (∃ said, Says strict line said) ∨ ∃ fault, Faulty strict line fault := by
  obtain ⟨word, value, hparts⟩ := h.exists_parts (by decide)
  have hwords : Worded value (Text.words value) := Text.words_eq_iff.1 rfl
  cases hvalue : Text.words value with
  | nil => exact .inr ⟨_, .effectWithoutAsset h hparts (hvalue ▸ hwords)⟩
  | cons asset tokens =>
      rw [hvalue] at hwords
      rcases all_or_first (@sets_or_spoils strict) tokens with
        ⟨settings, hsets⟩ | ⟨before, token, after, fault, rfl, hbefore, hspoils⟩
      · exact .inl ⟨_, .effect h hparts hwords hsets⟩
      · exact .inr ⟨_, .parameter h hparts hwords hbefore hspoils⟩

theorem says_or_faulty_of_plain {line : List Char} (hne : line ≠ []) (h : Plain line) :
    (∃ said, Says strict line said) ∨ ∃ fault, Faulty strict line fault := by
  by_cases hcolon : ':' ∈ line
  · obtain ⟨left, right, hparts⟩ := exists_parts hcolon
    have hspeaker := Text.trims_trim left
    have hspoken := Text.trims_trim right
    by_cases hempty : trim left = [] ∨ trim right = []
    · exact .inr ⟨_, .emptyUtterance h hparts hspeaker hspoken hempty⟩
    · obtain ⟨hleft, hright⟩ := not_or.1 hempty
      exact .inl ⟨_, .utterance h hparts hspeaker hspoken hleft hright⟩
  · exact .inr ⟨_, .unrecognized hne h hcolon⟩

/-- Every line is well-formed or ill-formed. -/
theorem says_or_faulty (line : List Char) :
    (∃ said, Says strict line said) ∨ ∃ fault, Faulty strict line fault := by
  by_cases hpause : Opens "PAUSE:" line
  · exact says_or_faulty_of_pause hpause
  · by_cases heffect : Opens "SFX:" line
    · exact says_or_faulty_of_effect heffect
    · rcases line with _ | ⟨c, rest⟩
      · exact .inl ⟨_, .blank⟩
      · by_cases hcomment : c = '#'
        · subst hcomment
          exact .inl ⟨_, .comment⟩
        · by_cases hdirective : c = '@'
          · subst hdirective
            by_cases hcolon : ':' ∈ rest
            · obtain ⟨left, right, hparts⟩ := exists_parts hcolon
              exact .inl ⟨_, .directive hparts (Text.trims_trim left) (Text.trims_trim right)⟩
            · exact .inr ⟨_, .directive hcolon⟩
          · refine says_or_faulty_of_plain (List.cons_ne_nil c rest) ⟨?_, ?_, hpause, heffect⟩
            · exact fun h => hcomment (Option.some.inj h)
            · exact fun h => hdirective (Option.some.inj h)

/-! ## The lines of a script -/

/-- A line as it stands, and what it says. -/
def Reads (strict : Bool) (raw : List Char) (said : Option Event) : Prop :=
  ∃ line, Trims raw line ∧ Says strict line said

/-- A line as it stands, and what is wrong with it. -/
def IllFormed (strict : Bool) (raw : List Char) (fault : LineFault) : Prop :=
  ∃ line, Trims raw line ∧ Faulty strict line fault

theorem reads_or_illFormed (raw : List Char) :
    (∃ said, Reads strict raw said) ∨ ∃ fault, IllFormed strict raw fault := by
  rcases @says_or_faulty strict (trim raw) with ⟨said, h⟩ | ⟨fault, h⟩
  · exact .inl ⟨said, trim raw, Text.trims_trim raw, h⟩
  · exact .inr ⟨fault, trim raw, Text.trims_trim raw, h⟩

theorem readLine_of_reads {raw : List Char} {said : Option Event} (h : Reads strict raw said) :
    readLine strict raw = .ok said := by
  obtain ⟨line, hline, hsays⟩ := h
  rw [readLine, Text.trim_of_trims hline]
  exact readTrimmed_of_says hsays

theorem readLine_of_illFormed {raw : List Char} {fault : LineFault}
    (h : IllFormed strict raw fault) : readLine strict raw = .error fault := by
  obtain ⟨line, hline, hfaulty⟩ := h
  rw [readLine, Text.trim_of_trims hline]
  exact readTrimmed_of_faulty hfaulty

theorem readLines_of_reads {lines : List (List Char)} {said : List (Option Event)}
    (h : List.Forall₂ (Reads strict) lines said) (n : Nat) :
    readLines strict n lines = .ok (said.filterMap id) := by
  refine readLines_eq_ok.2 ⟨said, ?_, rfl⟩
  induction h with
  | nil => rfl
  | cons hreads _ ih => rw [List.map_cons, List.map_cons, readLine_of_reads hreads, ih]

theorem readLines_of_illFormed {before : List (List Char)} {raw : List Char} {fault : LineFault}
    (hbefore : ∀ line ∈ before, ∃ said, Reads strict line said) (h : IllFormed strict raw fault)
    (after : List (List Char)) (n : Nat) :
    readLines strict n (before ++ raw :: after)
      = .error ⟨n + before.length, String.ofList raw, fault⟩ := by
  induction before generalizing n with
  | nil => simp only [List.nil_append, readLines, readLine_of_illFormed h, List.length_nil,
      Nat.add_zero]
  | cons line before ih =>
      obtain ⟨⟨said, hreads⟩, hbefore⟩ := List.forall_mem_cons.1 hbefore
      simp only [List.cons_append, readLines, readLine_of_reads hreads, ih hbefore, List.length_cons]
      rw [Nat.add_assoc, Nat.add_comm 1]

/-- The failure that an ill-formed line makes of a reading. An anchor that there is not is told as it
is written, anything else with the line as it stands; both tell the number of the line. -/
inductive Raises (number : Nat) (raw : List Char) : LineFault → Failure → Prop
  | anchor {written} :
      Raises number raw (.unknownAnchor written) (.anchor written (some (Float.ofNat number)))
  | parse {fault} : (∀ written, fault ≠ .unknownAnchor written) →
      Raises number raw fault
        (.parse (Float.ofNat number) (String.ofList raw) fault.reason)

theorem raises_iff {number : Nat} {raw : List Char} {fault : LineFault} {f : Failure} :
    Raises number raw fault f ↔ f = ScriptError.failure ⟨number, String.ofList raw, fault⟩ := by
  constructor
  · intro h
    cases h with
    | anchor => rfl
    | parse hfault =>
        cases fault with
        | unknownAnchor written => exact absurd rfl (hfault written)
        | _ => rfl
  · rintro rfl
    cases fault with
    | unknownAnchor written => exact .anchor
    | _ => exact .parse nofun

/-- The two ways in which the reading of a script can end, told by its lines. -/
theorem parse_cases (strict : Bool) (script : String) :
    (∃ lines said, Ruled script.toList lines ∧ List.Forall₂ (Reads strict) lines said
        ∧ parse strict script = .ok (said.filterMap id))
      ∨ ∃ before raw after fault, Ruled script.toList (before ++ raw :: after)
          ∧ (∀ line ∈ before, ∃ said, Reads strict line said) ∧ IllFormed strict raw fault
          ∧ parse strict script = .error ⟨before.length + 1, String.ofList raw, fault⟩ := by
  have hruled : Ruled script.toList (Text.lines script.toList) := Text.ruled_lines _
  rcases all_or_first (@reads_or_illFormed strict) (Text.lines script.toList) with
    ⟨said, hreads⟩ | ⟨before, raw, after, fault, hlines, hbefore, hill⟩
  · exact .inl ⟨_, said, hruled, hreads, readLines_of_reads hreads 1⟩
  · refine .inr ⟨before, raw, after, fault, hlines ▸ hruled, hbefore, hill, ?_⟩
    rw [parse, hlines, readLines_of_illFormed hbefore hill, Nat.add_comm]

theorem parse_eq_ok_iff {script : String} {events : List Event} :
    parse strict script = .ok events ↔
      ∃ lines said, Ruled script.toList lines ∧ List.Forall₂ (Reads strict) lines said
        ∧ events = said.filterMap id := by
  constructor
  · intro h
    rcases parse_cases strict script with
      ⟨lines, said, hruled, hreads, hok⟩ | ⟨_, _, _, _, -, -, -, herror⟩
    · rw [h] at hok
      cases hok
      exact ⟨lines, said, hruled, hreads, rfl⟩
    · rw [h] at herror
      cases herror
  · rintro ⟨lines, said, hruled, hreads, rfl⟩
    rw [parse, Text.lines_of_ruled hruled]
    exact readLines_of_reads hreads 1

theorem parse_eq_error_iff {script : String} {e : ScriptError} :
    parse strict script = .error e ↔
      ∃ before raw after fault, Ruled script.toList (before ++ raw :: after)
        ∧ (∀ line ∈ before, ∃ said, Reads strict line said) ∧ IllFormed strict raw fault
        ∧ e = ⟨before.length + 1, String.ofList raw, fault⟩ := by
  constructor
  · intro h
    rcases parse_cases strict script with
      ⟨_, _, -, -, hok⟩ | ⟨before, raw, after, fault, hruled, hbefore, hill, herror⟩
    · rw [h] at hok
      cases hok
    · rw [h] at herror
      cases herror
      exact ⟨before, raw, after, fault, hruled, hbefore, hill, rfl⟩
  · rintro ⟨before, raw, after, fault, hruled, hbefore, hill, rfl⟩
    rw [parse, Text.lines_of_ruled hruled, readLines_of_illFormed hbefore hill, Nat.add_comm]

theorem parse_joined {lineEnd : List Char} {lines : List (List Char)} (he : LineEnd lineEnd)
    (hlines : ∀ line ∈ lines, ∀ c ∈ line, ¬ EndsLine c) :
    parse strict (String.ofList (Text.joined lineEnd lines))
      = if lines = [] then .ok [] else readLines strict 1 lines := by
  rw [parse, String.toList_ofList]
  split
  · rename_i h
    rw [h]
    cases strict <;> rfl
  · rw [Text.lines_joined he hlines ‹_›]

/-- A script is read just as the grammar says. If each of its lines is well-formed, the answer is what
they say, in their order; otherwise the first ill-formed line is refused. Which kind of line end stands
between the lines does not count. -/
theorem parse_iff_grammar (strict : Bool) :
    (∀ script events, parse strict script = .ok events ↔
        ∃ lines said, Ruled script.toList lines ∧ List.Forall₂ (Reads strict) lines said
          ∧ events = said.filterMap id)
      ∧ (∀ script f, (parse strict script).mapError ScriptError.failure = .error f ↔
          ∃ before raw after fault, Ruled script.toList (before ++ raw :: after)
            ∧ (∀ line ∈ before, ∃ said, Reads strict line said) ∧ IllFormed strict raw fault
            ∧ Raises (before.length + 1) raw fault f)
      ∧ ∀ lines lineEnd other, (∀ line ∈ lines, ∀ c ∈ line, ¬ EndsLine c) →
          LineEnd lineEnd → LineEnd other →
            parse strict (String.ofList (Text.joined lineEnd lines))
              = parse strict (String.ofList (Text.joined other lines)) := by
  refine ⟨fun script events => parse_eq_ok_iff, fun script f => ?_, ?_⟩
  · have hmap : (parse strict script).mapError ScriptError.failure = .error f ↔
        ∃ e, parse strict script = .error e ∧ f = e.failure := by
      cases parse strict script with
      | ok events => exact iff_of_false nofun fun ⟨_, h, _⟩ => nomatch h
      | error e =>
          constructor
          · rintro ⟨⟩
            exact ⟨e, rfl, rfl⟩
          · rintro ⟨_, ⟨⟩, rfl⟩
            rfl
    rw [hmap]
    simp only [parse_eq_error_iff, raises_iff]
    constructor
    · rintro ⟨_, ⟨before, raw, after, fault, hruled, hbefore, hill, rfl⟩, rfl⟩
      exact ⟨before, raw, after, fault, hruled, hbefore, hill, rfl⟩
    · rintro ⟨before, raw, after, fault, hruled, hbefore, hill, rfl⟩
      exact ⟨_, ⟨before, raw, after, fault, hruled, hbefore, hill, rfl⟩, rfl⟩
  · intro lines lineEnd other hlines he hother
    rw [parse_joined he hlines, parse_joined hother hlines]

/-- The second line is refused, and would be with line feeds as well. -/
theorem parse_iff_grammar_nowhere :
    (∃ before raw after fault,
        Ruled "Ruby: Hello\rSFX: chime at=NOWHERE".toList (before ++ raw :: after)
          ∧ (∀ line ∈ before, ∃ said, Reads false line said) ∧ IllFormed false raw fault
          ∧ Raises (before.length + 1) raw fault (.anchor "NOWHERE" (some 2)))
      ∧ parse false (String.ofList (Text.joined ['\r']
            ["Ruby: Hello".toList, "SFX: chime at=NOWHERE".toList]))
          = parse false (String.ofList (Text.joined ['\n']
            ["Ruby: Hello".toList, "SFX: chime at=NOWHERE".toList])) := by
  have hlines : ∀ line ∈ ["Ruby: Hello".toList, "SFX: chime at=NOWHERE".toList], ∀ c ∈ line,
      ¬ EndsLine c := by simp [EndsLine]
  obtain ⟨-, hrefuses, hjoined⟩ := parse_iff_grammar false
  refine ⟨(hrefuses _ _).1 ?_, hjoined _ _ _ hlines .carriageReturn .lineFeed⟩
  have hparse : parse false "Ruby: Hello\rSFX: chime at=NOWHERE"
      = .error ⟨2, "SFX: chime at=NOWHERE", .unknownAnchor "NOWHERE"⟩ := by
    decide +kernel
  rw [hparse]
  rfl

end Script

end StoryMix
