import Mathlib.Data.List.Forall2
import StoryMix.Proofs.Script.Names
import StoryMix.Proofs.Story.Acceptance

/-!
# What a generated story says

The generator writes texts and the reader reads them, and neither knows of the other. Here they agree:
of a story whose options stay on their lines and whose narrator has a name, the strict reading gives
what was told, line by line. First come the directives, then the story, which has the same parts in the
same order whatever the seed is. Only who the heroine and the hero are is up to it.
-/

namespace StoryMix.Story

open Script (Names Key Word Reads Prose)
open Text (Unbroken isBlank trimmed)

/-- What a line of a story is to say. -/
def Line.said? : Line → Option Event
  | directive key value => some (.directive key (trimmed value))
  | empty => none
  | speech speaker text => some (.utterance (trimmed speaker) text)
  | pause seconds => (Numeral.readDecimal seconds.toList).map .pause
  | effect asset => some (.cue asset .lastEnd 0)

/-- The line stays on its line, and says there what it is to say. -/
structure Line.Faithful (line : Line) : Prop where
  unbroken : Unbroken line.text.toList
  reads : Reads true line.text.toList line.said?

/-! ## From lines to scripts -/

theorem toList_intercalate : ∀ {texts : List String}, texts ≠ [] →
    ("\n".intercalate texts ++ "\n").toList = Text.joined ['\n'] (texts.map String.toList ++ [[]])
  | [], h => absurd rfl h
  | [text], _ => by simp [Text.joined]
  | text :: next :: texts, _ => by
      have ih := toList_intercalate (List.cons_ne_nil next texts)
      rw [String.intercalate_cons_cons, String.append_assoc, String.append_assoc, String.toList_append,
        String.toList_append, ih]
      simp [Text.joined]

theorem lines_generate {o : Options} (h : ∀ line ∈ o.lines, line.Faithful) :
    Text.lines (generate o).toList = o.lines.map (·.text.toList) ++ [[]] := by
  have hne : o.lines.map Line.text ≠ [] := by simp [Options.lines]
  rw [generate, toList_intercalate hne, List.map_map]
  refine Text.lines_joined .lineFeed ?_ (by simp)
  rw [List.forall_mem_append, List.forall_mem_map]
  exact ⟨fun line hline => (h line hline).unbroken, List.forall_mem_singleton.2 (List.forall_mem_nil _)⟩

theorem reads_nil : Reads true [] none :=
  ⟨[], Text.trims_trim [], .blank⟩

/-- A script of faithful lines says what they are to say. -/
theorem parse_of_faithful {o : Options} (h : ∀ line ∈ o.lines, line.Faithful) :
    Script.parse true (generate o) = .ok (o.lines.filterMap Line.said?) := by
  have hlines : List.Forall₂ (Reads true) (o.lines.map (·.text.toList)) (o.lines.map Line.said?) := by
    rw [List.forall₂_map_left_iff, List.forall₂_map_right_iff, List.forall₂_same]
    exact fun line hline => (h line hline).reads
  have hall := List.rel_append hlines (.cons reads_nil .nil)
  rw [Script.parse, lines_generate h, Script.readLines_of_reads hall, List.filterMap_append,
    List.filterMap_map]
  exact congrArg Except.ok (List.append_nil _)

/-! ## The heading -/

theorem faithful_directive {key : String} (hkey : Key key.toList) {value : String}
    (hvalue : Unbroken value.toList) : (Line.directive key value).Faithful := by
  have htext : (Line.directive key value).text.toList =
      '@' :: (key.toList ++ ':' :: ' ' :: value.toList) := by
    simp [Line.text]
  constructor
  · rw [htext]
    simp only [Text.unbroken_append, Text.unbroken_cons]
    exact ⟨by decide, hkey.2.2, by decide, by decide, hvalue⟩
  · have hreads := Script.reads_directive hkey value.toList
    rwa [String.ofList_toList, ← htext] at hreads

/-- What is announced about a sound bed: nothing, unless there is a text for it. A text of blanks alone
is announced too. -/
def announced (key : String) : Option String → List Event
  | some text => if text = "" then [] else [.directive key (trimmed text)]
  | none => []

/-- What a story says before it begins. -/
def announcements (o : Options) : List Event :=
  [.directive "title" (trimmed o.title), .directive "lang" "en"] ++ announced "music" o.music ++
    announced "ambience" o.ambience

theorem directiveLine_some {key text : String} (h : text ≠ "") :
    directiveLine key (some text) = [.directive key text] := by
  rw [directiveLine, Option.filter_some, if_pos (by simpa using h)]

theorem filterMap_directiveLine (key : String) (value : Option String) :
    (directiveLine key value).filterMap Line.said? = announced key value := by
  cases value with
  | none => rfl
  | some text =>
      by_cases htext : text = ""
      · subst htext
        rfl
      · rw [directiveLine_some htext, announced, if_neg htext]
        rfl

theorem filterMap_heading (o : Options) : (heading o).filterMap Line.said? = announcements o := by
  have hlang : trimmed "en" = "en" := by decide
  rw [heading, List.filterMap_append, List.filterMap_append, filterMap_directiveLine,
    filterMap_directiveLine, announcements]
  simp [Line.said?, hlang]

theorem faithful_directiveLine {key : String} (hkey : Key key.toList) {value : Option String}
    (hvalue : ∀ text ∈ value, Unbroken text.toList) :
    ∀ line ∈ directiveLine key value, line.Faithful := by
  cases value with
  | none => exact nofun
  | some text =>
      by_cases htext : text = ""
      · subst htext
        exact nofun
      · rw [directiveLine_some htext, List.forall_mem_singleton]
        exact faithful_directive hkey (hvalue text rfl)

/-! ## The story -/

/-- Nobody speaks in the line. -/
def Line.isWordless : Line → Bool
  | pause _ | effect _ => true
  | _ => false

/-- What stands between the speeches is the same in every story. -/
def interludes : List Line :=
  [.pause "0.35", .effect "sfx_soft_chime", .pause "0.35", .pause "0.25", .pause "0.35",
   .effect "sfx_soft_click", .pause "0.30", .pause "0.25",
   .effect "sfx_gentle_wind", .pause "0.35", .pause "0.25",
   .effect "sfx_musicbox_three_notes", .pause "0.45",
   .pause "0.45"]

theorem filter_isWordless (c : Cast) : c.story.filter Line.isWordless = interludes :=
  rfl

theorem mem_interludes {c : Cast} {line : Line} (h : line ∈ c.story) (hwordless : line.isWordless) :
    line ∈ interludes :=
  filter_isWordless c ▸ List.mem_filter.2 ⟨h, hwordless⟩

/-- The line can be read if it is a pause with a length, or a sound effect with an asset. -/
def Line.isLegible : Line → Bool
  | pause seconds =>
      decide (Word seconds.toList) &&
        (Numeral.readDecimal seconds.toList).any fun x => !decide (x < 0)
  | effect asset => decide (Word asset.toList)
  | _ => false

theorem isLegible_interludes : ∀ line ∈ interludes, line.isLegible := by
  decide +kernel

theorem unbroken_of_word {cs : List Char} (h : Word cs) : Unbroken cs := by
  rintro c hc (rfl | rfl)
  · exact absurd (h.2 _ hc) (by decide)
  · exact absurd (h.2 _ hc) (by decide)

theorem faithful_pause {seconds : String} (h : (Line.pause seconds).isLegible) :
    (Line.pause seconds).Faithful ∧ ∃ x, (Line.pause seconds).said? = some (.pause x) := by
  obtain ⟨hword, hlength⟩ := Bool.and_eq_true_iff.1 h
  obtain ⟨x, hx, hnonneg⟩ := (Option.any_eq_true _ _).1 hlength
  have hsaid : (Line.pause seconds).said? = some (.pause x) := by rw [Line.said?, hx, Option.map_some]
  have hline : (Line.pause seconds).text.toList = "PAUSE".toList ++ ':' :: ' ' :: seconds.toList := by
    simp [Line.text]
  have hword := of_decide_eq_true hword
  refine ⟨⟨?_, ?_⟩, x, hsaid⟩
  · rw [hline]
    simp only [Text.unbroken_append, Text.unbroken_cons]
    exact ⟨by decide, by decide, by decide, unbroken_of_word hword⟩
  · rw [hline, hsaid]
    exact Script.reads_pause hword (Numeral.readDecimal_eq_some.1 hx) (by simpa using hnonneg)

theorem faithful_effect {asset : String} (h : (Line.effect asset).isLegible) :
    (Line.effect asset).Faithful := by
  have hword : Word asset.toList := of_decide_eq_true h
  have hline : (Line.effect asset).text.toList =
      "SFX".toList ++ ':' :: ' ' :: (asset.toList ++ " at=last_end offset=0.0".toList) := by
    simp [Line.text]
  constructor
  · rw [hline]
    simp only [Text.unbroken_append, Text.unbroken_cons]
    exact ⟨by decide, by decide, by decide, unbroken_of_word hword, by decide⟩
  · have hreads := Script.reads_effect hword
    rwa [String.ofList_toList, ← hline] at hreads

/-- The names of the cast make nothing else of a line, and have no blanks at their ends. -/
theorem names_cast {name : String} (h : name ∈ heroines ++ heroes) :
    Names name.toList ∧ trimmed name = name := by
  have hall : ∀ name ∈ heroines ++ heroes, Text.trim name.toList = name.toList ∧
      Text.trimStart name.toList = name.toList ∧ ':' ∉ name.toList ∧ name.toList ≠ [] := by
    decide +kernel
  obtain ⟨htrim, hstart, hcolon, hne⟩ := hall name h
  obtain ⟨-, htame, hplain, -⟩ := leads_cast name h
  rw [hstart] at hplain
  refine ⟨.of_plain htrim (fun c hc => (htame c hc).2) hcolon hne hplain, ?_⟩
  rw [trimmed, htrim, String.ofList_toList]

/-- No speech of a story begins with a blank. -/
theorem head_of_speech {c : Cast} {speaker text : String} (h : Line.speech speaker text ∈ c.story) :
    ∀ x ∈ text.toList.head?, isBlank x = false := by
  simp only [Cast.story, Cast.opening, Cast.firstBeat, Cast.secondBeat, Cast.thirdBeat, Cast.close,
    List.mem_append, List.mem_cons, Line.speech.injEq, reduceCtorEq, false_or, or_false,
    List.not_mem_nil] at h
  rcases h with (((((⟨-, rfl⟩ | ⟨-, rfl⟩ | ⟨-, rfl⟩ | ⟨-, rfl⟩) | ⟨-, rfl⟩ | ⟨-, rfl⟩) |
    ⟨-, rfl⟩ | ⟨-, rfl⟩) | ⟨-, rfl⟩) | ⟨-, rfl⟩ | ⟨-, rfl⟩)
  all_goals simp [isBlank]

theorem faithful_speech {speaker text : String} (hspeaker : Names speaker.toList)
    (htext : Prose text.toList) (hhead : ∀ c ∈ text.toList.head?, isBlank c = false) :
    (Line.speech speaker text).Faithful := by
  have hline : (Line.speech speaker text).text.toList =
      speaker.toList ++ ':' :: ' ' :: text.toList := by
    simp [Line.text]
  constructor
  · rw [hline]
    simp only [Text.unbroken_append, Text.unbroken_cons]
    exact ⟨hspeaker.line, by decide, by decide, fun c hc => (htext.tame c hc).2⟩
  · have hreads := Script.reads_speech hspeaker htext hhead
    rwa [String.ofList_toList, ← hline] at hreads

theorem faithful_story {c : Cast} (h : c.Drawn) (hnarrator : Names c.narrator.toList) :
    ∀ line ∈ c.story, line.Faithful := by
  intro line hline
  cases h.told_story line hline with
  | narration hprose => exact faithful_speech hnarrator hprose (head_of_speech hline)
  | speech hspeaker hprose =>
      exact faithful_speech (names_cast hspeaker).1 hprose (head_of_speech hline)
  | pause => exact (faithful_pause (isLegible_interludes _ (mem_interludes hline rfl))).1
  | effect => exact faithful_effect (isLegible_interludes _ (mem_interludes hline rfl))

/-! ## The parts of a story -/

/-- One step of a story, told without what is spoken, how long a pause is and what sounds. -/
inductive Part where
  | speaks (speaker : String)
  | rests
  | sounds (anchor : Anchor) (offset : Float)

/-- The part that an event plays. -/
def part? : Event → Option Part
  | .utterance speaker _ => some (.speaks speaker)
  | .pause _ => some .rests
  | .cue _ anchor offset => some (.sounds anchor offset)
  | .directive .. => none
  | .other _ => none

/-- The parts of every story: an opening, three beats and a close. -/
def plot (narrator heroine hero : String) : List Part :=
  [.speaks narrator, .rests, .speaks narrator, .sounds .lastEnd 0, .rests, .speaks heroine, .rests,
    .speaks hero, .rests] ++
  [.speaks narrator, .sounds .lastEnd 0, .rests, .speaks heroine, .rests] ++
  [.speaks narrator, .sounds .lastEnd 0, .rests, .speaks hero, .rests] ++
  [.speaks narrator, .sounds .lastEnd 0, .rests] ++
  [.speaks narrator, .rests, .speaks narrator]

/-- The part that a line is to play. -/
def Line.part? : Line → Option Part
  | speech speaker _ => some (.speaks (trimmed speaker))
  | pause _ => some .rests
  | effect _ => some (.sounds .lastEnd 0)
  | directive .. => none
  | empty => none

theorem map_linePart? (c : Cast) : c.story.map Line.part? =
    (plot (trimmed c.narrator) (trimmed c.heroine) (trimmed c.hero)).map some :=
  rfl

/-- A line of a story says something, and it is an event of its own part. -/
theorem exists_said {c : Cast} (h : c.Drawn) {line : Line} (hline : line ∈ c.story) :
    ∃ event, line.said? = some event ∧ part? event = line.part? := by
  cases h.told_story line hline with
  | narration => exact ⟨_, rfl, rfl⟩
  | speech => exact ⟨_, rfl, rfl⟩
  | effect => exact ⟨_, rfl, rfl⟩
  | pause =>
      obtain ⟨-, x, hsaid⟩ := faithful_pause (isLegible_interludes _ (mem_interludes hline rfl))
      exact ⟨_, hsaid, rfl⟩

theorem map_filterMap_of_some {α β γ : Type} {f : α → Option β} {g : β → γ} {k : α → γ} {xs : List α}
    (h : ∀ x ∈ xs, ∃ y, f x = some y ∧ g y = k x) : (xs.filterMap f).map g = xs.map k := by
  induction xs with
  | nil => rfl
  | cons x xs ih =>
      obtain ⟨⟨y, hy, hg⟩, hxs⟩ := List.forall_mem_cons.1 h
      rw [List.filterMap_cons_some hy, List.map_cons, List.map_cons, hg, ih hxs]

theorem map_part? {c : Cast} (h : c.Drawn) : (c.story.filterMap Line.said?).map part? =
    (plot (trimmed c.narrator) c.heroine c.hero).map some := by
  have hheroine := (names_cast h.heroine_mem).2
  have hhero := (names_cast h.hero_mem).2
  rw [map_filterMap_of_some fun line hline => exists_said h hline, map_linePart?, hheroine, hhero]

/-! ## The script -/

/-- The texts that are put into a story stay on their lines, and the narrator, if there is one, has a
name. -/
structure Options.Tractable (o : Options) : Prop where
  title : Unbroken o.title.toList
  music : ∀ text ∈ o.music, Unbroken text.toList
  ambience : ∀ text ∈ o.ambience, Unbroken text.toList
  narrator : ∀ name ∈ o.narrator, name ≠ "" → Names name.toList

theorem Options.Tractable.names {o : Options} (h : o.Tractable) : Names o.cast.narrator.toList := by
  have hdefault : Names defaultNarrator.toList := by decide +kernel
  change Names ((o.narrator.filter (· ≠ "")).getD defaultNarrator).toList
  cases hname : o.narrator.filter (· ≠ "") with
  | none => exact hdefault
  | some name =>
      obtain ⟨hmem, hne⟩ := Option.filter_eq_some_iff.1 hname
      exact h.narrator name hmem (of_decide_eq_true hne)

theorem Options.Tractable.faithful_heading {o : Options} (h : o.Tractable) :
    ∀ line ∈ heading o, line.Faithful := by
  have hlang : (Line.directive "lang" "en").Faithful := faithful_directive (by decide) (by decide)
  simp only [heading, List.forall_mem_append, List.forall_mem_cons]
  exact ⟨⟨⟨faithful_directive (by decide) h.title, hlang, List.forall_mem_nil _⟩,
    faithful_directiveLine (by decide) h.music⟩, faithful_directiveLine (by decide) h.ambience⟩

theorem Options.Tractable.faithful_lines {o : Options} (h : o.Tractable) :
    ∀ line ∈ o.lines, line.Faithful := by
  have hempty : Line.empty.Faithful := ⟨List.forall_mem_nil _, reads_nil⟩
  rw [Options.lines, List.forall_mem_append, List.forall_mem_append, List.forall_mem_singleton]
  exact ⟨⟨h.faithful_heading, hempty⟩, faithful_story o.drawn_cast h.names⟩

/-- A generated story is read back: the announcements, and then what the lines of the story are to say.
These are the parts of the plot, in which the narrator, one heroine and one hero speak. -/
theorem parse_generate {o : Options} (h : o.Tractable) :
    Script.parse true (generate o) =
        .ok (announcements o ++ o.cast.story.filterMap Line.said?) ∧
      (o.cast.story.filterMap Line.said?).map part? =
        (plot (trimmed o.cast.narrator) o.cast.heroine o.cast.hero).map some ∧
      o.cast.heroine ∈ heroines ∧ o.cast.hero ∈ heroes := by
  refine ⟨?_, map_part? o.drawn_cast, o.drawn_cast.heroine, o.drawn_cast.hero⟩
  rw [parse_of_faithful h.faithful_lines, Options.lines, List.filterMap_append, List.filterMap_append,
    filterMap_heading]
  simp [Line.said?]

/-- A seed below zero and with a fraction, a title with a colon, a narrator and a music with blanks at
their ends, and a text for the ambience that is empty. -/
def sage : Options where
  title := " Night: a walk"
  seed := some (-7.5)
  narrator := some "Old Sage "
  music := some " calm.mp3 "
  ambience := some ""

theorem parse_generate_sage :
    sage.Tractable ∧ ∃ story, Script.parse true (generate sage) =
        .ok ([.directive "title" "Night: a walk", .directive "lang" "en",
          .directive "music" "calm.mp3"] ++ story) ∧
      ∃ heroine ∈ heroines, ∃ hero ∈ heroes,
        story.map part? = (plot "Old Sage" heroine hero).map some := by
  have htractable : sage.Tractable := by
    refine ⟨by decide, ?_, ?_, ?_⟩
    · rintro _ ⟨⟩
      decide
    · rintro _ ⟨⟩
      decide
    · rintro _ ⟨⟩ -
      decide +kernel
  have hannouncements : announcements sage = [.directive "title" "Night: a walk",
      .directive "lang" "en", .directive "music" "calm.mp3"] := by
    decide +kernel
  have hnarrator : trimmed sage.cast.narrator = "Old Sage" := by decide +kernel
  obtain ⟨hparse, hparts, hheroine, hhero⟩ := parse_generate htractable
  rw [hannouncements] at hparse
  rw [hnarrator] at hparts
  exact ⟨htractable, _, hparse, _, hheroine, _, hhero, hparts⟩

end StoryMix.Story
