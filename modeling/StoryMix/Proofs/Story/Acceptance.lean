import StoryMix.Proofs.Script.Prose
import StoryMix.Story.Generate

/-!
# Which generated stories can be read

A generated story is put together from lines of its own and from texts that its options give it, and
those go in as they are. So it can be read if these texts do no harm where they stand: a line end in a
title, in a music or in an ambience begins a line of the script that must be well-formed by itself, and
so does one in the name of the narrator, whose last line must also be able to lead a line of speech.
Otherwise the reading refuses the script. If it can be read, somebody speaks in it: the heroine and the
hero have names of the story's own.
-/

namespace StoryMix.Story

open Script (WellFormed Introduces Plain Prose Tame)

/-! ## Texts line by line -/

/-- Every line of the text is well-formed. -/
def Accepted (cs : List Char) : Prop :=
  ∀ raw ∈ Text.lines cs, WellFormed raw

/-- The text can stand behind a key. -/
def Follows (value : List Char) : Prop :=
  ∀ raw ∈ (Text.lines value).tail, WellFormed raw

/-- The text can stand in front of what is spoken. -/
def Leads (name : List Char) : Prop :=
  (∀ raw ∈ (Text.lines name).dropLast, WellFormed raw) ∧
    Introduces ((Text.lines name).getLast (Text.lines_ne_nil name))

instance (cs : List Char) : Decidable (Accepted cs) :=
  inferInstanceAs (Decidable (∀ raw ∈ Text.lines cs, WellFormed raw))

instance (value : List Char) : Decidable (Follows value) :=
  inferInstanceAs (Decidable (∀ raw ∈ (Text.lines value).tail, WellFormed raw))

instance (name : List Char) : Decidable (Leads name) :=
  inferInstanceAs (Decidable (_ ∧ _))

theorem accepted_directive {key : List Char} (hkey : Tame key) (value : List Char) :
    Accepted ('@' :: (key ++ ':' :: ' ' :: value)) ↔ Follows value := by
  obtain ⟨first, rest, hvalue⟩ := List.exists_cons_of_ne_nil (Text.lines_ne_nil value)
  have hat : Tame ['@'] := by decide
  have htame : Tame ('@' :: (key ++ [':', ' '])) := hat.append (hkey.append (by decide))
  have hlines := Text.lines_append (fun c hc => (htame c hc).2) hvalue
  have hfirst := Script.wellFormed_directive key (' ' :: first)
  simp only [List.cons_append, List.append_assoc, List.nil_append] at hlines
  rw [Accepted, Follows, hlines, hvalue, List.forall_mem_cons, List.tail_cons]
  exact and_iff_right hfirst

theorem accepted_speech {spoken : List Char} (h : Prose spoken) (name : List Char) :
    Accepted (name ++ ':' :: ' ' :: spoken) ↔ Leads name := by
  have hcolon : Tame [':', ' '] := by decide
  have htame : Tame (':' :: ' ' :: spoken) := hcolon.append h.tame
  have hname := (List.dropLast_concat_getLast (Text.lines_ne_nil name)).symm
  have hlines := Text.lines_append_line (fun c hc => (htame c hc).2) hname
  rw [Accepted, Leads, hlines, List.forall_mem_append, List.forall_mem_singleton,
    Script.wellFormed_speech_iff h]

/-! ## The cast -/

/-- The members of the cast are among those that there are. -/
structure Cast.Drawn (c : Cast) : Prop where
  place : c.place ∈ places
  thing : c.thing ∈ things
  heroine : c.heroine ∈ heroines
  hero : c.hero ∈ heroes

theorem Options.drawn_cast (o : Options) : o.cast.Drawn where
  place := List.get_mem places _
  thing := List.get_mem things _
  heroine := List.get_mem heroines _
  hero := List.get_mem heroes _

/-- The heroines and the heroes have names that make nothing else of a line. -/
theorem leads_cast : ∀ name ∈ heroines ++ heroes, Leads name.toList ∧ Tame name.toList ∧
    Plain (Text.trimStart name.toList ++ [':']) ∧
    (Text.trimStart name.toList ++ [':']).head? ≠ some ':' := by
  decide +kernel

/-! ## The lines of a story -/

theorem accepted_directiveLine {key : String} (hkey : Tame key.toList) (value : String) :
    Accepted (Line.directive key value).text.toList ↔ Follows value.toList := by
  rw [← accepted_directive hkey]
  simp [Line.text]

theorem accepted_speechLine {text : String} (h : Prose text.toList) (speaker : String) :
    Accepted (Line.speech speaker text).text.toList ↔ Leads speaker.toList := by
  rw [← accepted_speech h]
  simp [Line.text]

/-- A line of a story, if this is its narrator. -/
inductive Told (narrator : String) : Line → Prop
  | narration {text} : Prose text.toList → Told narrator (.speech narrator text)
  | speech {speaker text} :
      speaker ∈ heroines ++ heroes → Prose text.toList → Told narrator (.speech speaker text)
  | pause {seconds} : Accepted (Line.pause seconds).text.toList → Told narrator (.pause seconds)
  | effect {asset} : Accepted (Line.effect asset).text.toList → Told narrator (.effect asset)

/-- What is said of a place or a thing goes on to its own end. -/
theorem prose_append {front ending : String} (hfront : Tame front.toList)
    (hending : Prose ending.toList) : Prose (front ++ ending).toList := by
  rw [String.toList_append]
  exact hending.append_left hfront

theorem tame_append {front ending : String} (hfront : Tame front.toList)
    (hending : Tame ending.toList) : Tame (front ++ ending).toList := by
  rw [String.toList_append]
  exact hfront.append hending

theorem tame_phrases : ∀ phrase ∈ places ++ things,
    Tame phrase.toList ∧ Tame (withoutArticle phrase).toList := by
  decide +kernel

namespace Cast

variable {c : Cast} (h : c.Drawn)

include h

theorem Drawn.tame_place : Tame c.place.toList ∧ Tame (withoutArticle c.place).toList :=
  tame_phrases _ (List.mem_append_left _ h.place)

theorem Drawn.tame_thing : Tame c.thing.toList ∧ Tame c.theThing.toList :=
  tame_phrases _ (List.mem_append_right _ h.thing)

theorem Drawn.heroine_mem : c.heroine ∈ heroines ++ heroes :=
  List.mem_append_left heroes h.heroine

theorem Drawn.hero_mem : c.hero ∈ heroines ++ heroes :=
  List.mem_append_right heroines h.hero

theorem Drawn.told_opening : ∀ line ∈ c.opening, Told c.narrator line := by
  simp only [opening, List.forall_mem_cons]
  refine ⟨.narration ?_, .pause ?_, .narration ?_, .effect ?_, .pause ?_,
    .speech h.heroine_mem ?_, .pause ?_, .speech h.hero_mem ?_, .pause ?_, nofun⟩
  · exact prose_append (tame_append (by decide +kernel) h.tame_place.1) (by decide +kernel)
  · decide +kernel
  · exact prose_append (tame_append (by decide +kernel) h.tame_thing.1) (by decide +kernel)
  all_goals decide +kernel

theorem Drawn.told_firstBeat : ∀ line ∈ c.firstBeat, Told c.narrator line := by
  simp only [firstBeat, List.forall_mem_cons]
  refine ⟨.narration ?_, .effect ?_, .pause ?_, .speech h.heroine_mem ?_, .pause ?_, nofun⟩
  · exact prose_append (tame_append (by decide +kernel) h.tame_thing.2) (by decide +kernel)
  all_goals decide +kernel

theorem Drawn.told_secondBeat : ∀ line ∈ c.secondBeat, Told c.narrator line := by
  simp only [secondBeat, List.forall_mem_cons]
  refine ⟨.narration ?_, .effect ?_, .pause ?_, .speech h.hero_mem ?_, .pause ?_, nofun⟩
  all_goals decide +kernel

theorem Drawn.told_thirdBeat : ∀ line ∈ c.thirdBeat, Told c.narrator line := by
  simp only [thirdBeat, List.forall_mem_cons]
  refine ⟨.narration ?_, .effect ?_, .pause ?_, nofun⟩
  · refine prose_append (tame_append (tame_append ?_ h.tame_thing.2) ?_) ?_
    all_goals decide +kernel
  all_goals decide +kernel

theorem Drawn.told_close : ∀ line ∈ c.close, Told c.narrator line := by
  simp only [close, List.forall_mem_cons]
  refine ⟨.narration ?_, .pause ?_, .narration ?_, nofun⟩
  · exact prose_append (tame_append (by decide +kernel) h.tame_place.2) (by decide +kernel)
  all_goals decide +kernel

theorem Drawn.told_story : ∀ line ∈ c.story, Told c.narrator line := by
  simp only [story, List.forall_mem_append]
  exact ⟨⟨⟨⟨h.told_opening, h.told_firstBeat⟩, h.told_secondBeat⟩, h.told_thirdBeat⟩, h.told_close⟩

end Cast

/-! ## The lines of a script -/

/-- What holds of an empty line anyway holds of the lines of a text with line feeds if it holds of the
lines between them. -/
theorem forall_lines_intercalate {p : List Char → Prop} (hempty : p []) :
    ∀ texts : List String, texts ≠ [] →
      ((∀ raw ∈ Text.lines ("\n".intercalate texts ++ "\n").toList, p raw) ↔
        ∀ text ∈ texts, ∀ raw ∈ Text.lines text.toList, p raw)
  | [], h => absurd rfl h
  | [text], _ => by
      have hlast : ∀ raw ∈ Text.lines [], p raw := List.forall_mem_singleton.2 hempty
      rw [List.forall_mem_singleton, String.toList_append, String.intercalate_singleton]
      exact (Text.forall_lines_append_lineFeed hempty text.toList []).trans (and_iff_left hlast)
  | text :: next :: texts, _ => by
      rw [List.forall_mem_cons, ← forall_lines_intercalate hempty (next :: texts) (List.cons_ne_nil _ _),
        ← Text.forall_lines_append_lineFeed hempty, String.intercalate_cons_cons]
      simp

theorem forall_lines_generate {p : List Char → Prop} (hempty : p []) (o : Options) :
    (∀ raw ∈ Text.lines (generate o).toList, p raw) ↔
      ∀ line ∈ o.lines, ∀ raw ∈ Text.lines line.text.toList, p raw := by
  rw [generate, forall_lines_intercalate hempty _ (by simp [Options.lines]), List.forall_mem_map]

/-- A line of the story's own is a line of the script. -/
theorem mem_lines_generate {o : Options} {line : Line} (hline : line ∈ o.lines)
    (htame : Tame line.text.toList) (hne : line.text.toList ≠ []) :
    line.text.toList ∈ Text.lines (generate o).toList := by
  -- If all lines of the script were other ones, then so were all lines of this one.
  by_contra hnot
  have hother := (forall_lines_generate (p := (· ≠ line.text.toList)) hne.symm o).1
    (fun raw hraw heq => hnot (heq ▸ hraw)) line hline
  have hlines := Text.lines_of_ruled (.last fun c hc => (htame c hc).2)
  rw [hlines] at hother
  exact hother _ List.mem_cons_self rfl

/-! ## Acceptance -/

theorem accepted_directiveLines {key : String} (hkey : Tame key.toList) (value : Option String) :
    (∀ line ∈ directiveLine key value, Accepted line.text.toList) ↔
      ∀ v ∈ value, Follows v.toList := by
  cases value with
  | none => exact iff_of_true nofun nofun
  | some v =>
      have hone : (∀ w ∈ some v, Follows w.toList) ↔ Follows v.toList := by simp
      rw [hone, directiveLine]
      by_cases hv : v = ""
      · subst hv
        exact iff_of_true nofun nofun
      · rw [Option.filter_some, if_pos (by simpa using hv), List.forall_mem_singleton]
        exact accepted_directiveLine hkey v

theorem accepted_heading (o : Options) :
    (∀ line ∈ heading o, Accepted line.text.toList) ↔
      Follows o.title.toList ∧ (∀ music ∈ o.music, Follows music.toList) ∧
        ∀ ambience ∈ o.ambience, Follows ambience.toList := by
  have htitle := accepted_directiveLine (by decide +kernel : Tame "title".toList) o.title
  have hlang : Accepted (Line.directive "lang" "en").text.toList := by decide +kernel
  rw [heading, List.forall_mem_append, List.forall_mem_append, List.forall_mem_cons,
    List.forall_mem_singleton, htitle, and_iff_left hlang,
    accepted_directiveLines (by decide +kernel), accepted_directiveLines (by decide +kernel), and_assoc]

theorem prose_of_told {narrator speaker text : String} (h : Told narrator (.speech speaker text)) :
    Prose text.toList := by
  cases h with
  | narration hprose => exact hprose
  | speech _ hprose => exact hprose

theorem accepted_of_told {narrator : String} {line : Line} (h : Told narrator line)
    (hnarrator : Leads narrator.toList) : Accepted line.text.toList := by
  cases h with
  | narration hprose => exact (accepted_speechLine hprose _).2 hnarrator
  | speech hspeaker hprose => exact (accepted_speechLine hprose _).2 (leads_cast _ hspeaker).1
  | pause haccepted => exact haccepted
  | effect haccepted => exact haccepted

/-- Of the cast only the narrator can do harm, who speaks first. -/
theorem accepted_story {c : Cast} (h : c.Drawn) :
    (∀ line ∈ c.story, Accepted line.text.toList) ↔ Leads c.narrator.toList := by
  constructor
  · intro haccepted
    have hfirst : ∃ text rest, c.story = .speech c.narrator text :: rest := ⟨_, _, rfl⟩
    obtain ⟨text, rest, hstory⟩ := hfirst
    have hmem : Line.speech c.narrator text ∈ c.story := hstory ▸ List.mem_cons_self
    exact (accepted_speechLine (prose_of_told (h.told_story _ hmem)) _).1 (haccepted _ hmem)
  · exact fun hnarrator line hline => accepted_of_told (h.told_story line hline) hnarrator

/-- The heroine speaks. -/
theorem exists_utterance (o : Options) :
    ∃ raw ∈ Text.lines (generate o).toList,
      ∃ speaker text, Script.Reads true raw (some (.utterance speaker text)) := by
  obtain ⟨-, htame, hplain, hname⟩ := leads_cast _ o.drawn_cast.heroine_mem
  have hprose : Prose "Hello? I thought I heard something.".toList := by decide +kernel
  have hcolon : Tame [':', ' '] := by decide
  have htext : (Line.speech o.cast.heroine "Hello? I thought I heard something.").text.toList =
      o.cast.heroine.toList ++ ':' :: ' ' :: "Hello? I thought I heard something.".toList := by
    simp [Line.text]
  refine ⟨_, ?_, Script.reads_utterance hprose hplain hname⟩
  rw [← htext]
  refine mem_lines_generate (List.mem_append_right _ (by simp [Cast.story, Cast.opening])) ?_ ?_
  · rw [htext]
    exact htame.append (hcolon.append hprose.tame)
  · simp [htext]

theorem countUtterances_pos {script : String} {events : List Event}
    (h : Script.parse true script = .ok events) {raw : List Char}
    (hraw : raw ∈ Text.lines script.toList) {speaker text : String}
    (hreads : Script.Reads true raw (some (.utterance speaker text))) : 0 < countUtterances events := by
  obtain ⟨lines, said, hruled, hsaid, rfl⟩ := Script.parse_eq_ok_iff.1 h
  rw [Text.lines_of_ruled hruled] at hraw
  obtain ⟨s, hs, hreads'⟩ := Script.exists_of_forall₂ hsaid raw hraw
  have hsame := (Script.readLine_of_reads hreads).symm.trans (Script.readLine_of_reads hreads')
  obtain rfl := Except.ok.inj hsame
  exact List.countP_pos_iff.2 ⟨_, List.mem_filterMap.2 ⟨_, hs, rfl⟩, rfl⟩

/-- A generated story can be read just when the texts of its options do no harm where they stand, and
then somebody speaks in it. -/
theorem generate_accepted_iff (o : Options) :
    ((∃ events, Script.parse true (generate o) = .ok events) ↔
      Follows o.title.toList ∧ (∀ music ∈ o.music, Follows music.toList) ∧
        (∀ ambience ∈ o.ambience, Follows ambience.toList) ∧ Leads o.cast.narrator.toList) ∧
    ∀ events, Script.parse true (generate o) = .ok events → 0 < countUtterances events := by
  constructor
  · have hempty : Accepted Line.empty.text.toList := by decide +kernel
    have hheading := accepted_heading o
    have hstory := accepted_story o.drawn_cast
    rw [Script.exists_events_iff, forall_lines_generate Script.wellFormed_nil, Options.lines,
      List.forall_mem_append, List.forall_mem_append, List.forall_mem_singleton]
    change ((∀ line ∈ heading o, Accepted line.text.toList) ∧ Accepted Line.empty.text.toList) ∧
      (∀ line ∈ o.cast.story, Accepted line.text.toList) ↔ _
    rw [and_iff_left hempty, hheading, hstory, and_assoc, and_assoc]
  · intro events h
    obtain ⟨raw, hraw, speaker, text, hreads⟩ := exists_utterance o
    exact countUtterances_pos h hraw hreads

example : ¬ Leads " ".toList ∧ ¬ Leads "Pause".toList ∧ ¬ Follows "Night\nWalk".toList := by
  decide +kernel

end StoryMix.Story
