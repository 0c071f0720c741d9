import Mathlib.Data.List.Forall2
import StoryMix.Mix.Compile
import StoryMix.Proofs.Studio.Alongside
import StoryMix.Timeline.Build

/-!
# The same timeline in another working directory

Two timelines are built from the same events, each in a working directory of its own and each in a studio
of its own. If the tools answer by what they are asked and by nothing else (`Tools.Answering`), then
either both fail with the same error, or the timelines differ in where their segments lie and in nothing
else (`alongside_build`), and so do the graphs that are compiled from them (`compile_moved`).
-/

namespace StoryMix

/-! ## What differs and what does not -/

/-- The same file of two working directories: one path in both, or the same name in each. -/
def SameFile (w w' file file' : String) : Prop :=
  file' = file ∨ ∃ name, file = Path.join [w, name] ∧ file' = Path.join [w', name]

/-- The file is the one that the tool has named, or else the one that it was asked for. -/
theorem sameFile_getD {w w' : String} (file : Option String) (name : String) :
    SameFile w w' (file.getD (Path.join [w, name])) (file.getD (Path.join [w', name])) := by
  cases file with
  | none => exact .inr ⟨name, rfl, rfl⟩
  | some file => exact .inl rfl

structure Segment.Moved (w w' : String) (a b : Segment) : Prop where
  kind : b.kind = a.kind
  file : SameFile w w' a.file b.file
  startTime : b.startTime = a.startTime
  endTime : b.endTime = a.endTime

structure Timeline.Moved (w w' : String) (t t' : Timeline) : Prop where
  title : t'.title = t.title
  segments : List.Forall₂ (Segment.Moved w w') t.segments t'.segments
  effects : t'.effects = t.effects
  beds : t'.beds = t.beds
  duration : t'.duration = t.duration

namespace Mix

structure Graph.Moved (w w' : String) (g g' : Graph) : Prop where
  inputs : List.Forall₂ (SameFile w w') g.inputs g'.inputs
  filters : g'.filters = g.filters
  outputLabel : g'.outputLabel = g.outputLabel
  output : g'.output = g.output
  duration : g'.duration = g.duration

variable {w w' : String} {t t' : Timeline} {config : ProducerConfig}

theorem moved_refl (files : List String) : List.Forall₂ (SameFile w w') files files :=
  List.forall₂_same.2 fun _ _ => .inl rfl

/-- Chains number their inputs, so it does not matter where these lie. -/
theorem chainsOf_moved (h : t.Moved w w' t') : chainsOf t' config = chainsOf t config := by
  unfold chainsOf
  rw [h.segments.length_eq, h.effects, h.beds, h.duration]

theorem inputsOf_moved (h : t.Moved w w' t') :
    List.Forall₂ (SameFile w w') (inputsOf t config) (inputsOf t' config) := by
  unfold inputsOf
  rw [h.beds, h.effects]
  have hsegments : List.Forall₂ (SameFile w w') (t.segments.map Segment.file)
      (t'.segments.map Segment.file) := by
    rw [List.forall₂_map_left_iff, List.forall₂_map_right_iff]
    exact h.segments.imp fun _ _ hmoved => hmoved.file
  exact List.rel_append (List.rel_append hsegments (moved_refl _)) (moved_refl _)

/-- Timelines that differ in nothing else are compiled alike. -/
theorem compile_moved (h : t.Moved w w' t') (config : ProducerConfig) :
    (∃ f, compile t config = .error f ∧ compile t' config = .error f) ∨
      ∃ g g', compile t config = .ok g ∧ compile t' config = .ok g' ∧ g.Moved w w' g' := by
  by_cases hempty : t.segments = []
  · have hempty' : t'.segments = [] := by
      have hsegments := h.segments
      rw [hempty] at hsegments
      exact List.forall₂_nil_left_iff.1 hsegments
    exact .inl ⟨_, if_pos hempty, if_pos hempty'⟩
  · have hempty' : t'.segments ≠ [] := by
      intro hnil
      have hsegments := h.segments
      rw [hnil] at hsegments
      exact hempty (List.forall₂_nil_right_iff.1 hsegments)
    refine .inr ⟨_, _, if_neg hempty, if_neg hempty', ⟨inputsOf_moved h, ?_, rfl, ?_, h.duration⟩⟩
    · rw [chainsOf_moved h]
    · rw [h.title]

end Mix

/-! ## Tools that answer by what they are asked -/

/-- What tools answer. Where no file is named, it is the one that was asked for. -/
structure Answers where
  /-- By the voice reference and the text. -/
  voice : String → String → Except Thrown (Option String)
  /-- By the text that was last spoken into the file. -/
  probe : Option String → Except Thrown Float
  /-- By the length, the rate and the layout. -/
  silence : Float → Float → String → Except Thrown (Option String)
  asset : String → String → Except Thrown String
  /-- What stands at the path afterwards. -/
  mix : Mix.Graph → Except Thrown (Option String)
  /-- It does not matter for a mix in which working directory the segments lie. -/
  mix_moved : ∀ {w w' : String} {g g' : Mix.Graph}, g.Moved w w' g' → mix g' = mix g

/-- Begun in `s`, the action answers this and leaves alone what is refused. -/
structure Action.Replies {α : Type} (x : Action α) (s : Studio) (r : Except Thrown α) : Prop where
  answer : x.answer s = r
  refusals : (x.after s).refusals = s.refusals

/-- The tools give these answers, whatever the studio is. `heard` finds the text that was last spoken into
a file. -/
structure Tools.Answering (tools : Tools) (answers : Answers) (heard : Studio → String → Option String) :
    Prop where
  voice request s : (tools.voice request).Replies s
    ((answers.voice request.voiceReference request.text).map (·.getD request.outputPath))
  spoken request s file s' : tools.voice request s = .ok file s' → heard s' file = some request.text
  probe file s : (tools.probe file).Replies s (answers.probe (heard s file))
  silence request s : (tools.silence request).Replies s
    ((answers.silence request.seconds request.sampleRate request.channelLayout).map
      (·.getD request.outputPath))
  asset root id s : (tools.asset root id).Replies s (answers.asset root id)
  mix graph path s : ∃ file, (tools.mix graph path).Replies s ((answers.mix graph).map fun _ => file)
  mixed graph path s file s' : tools.mix graph path s = .ok file s' →
    answers.mix graph = .ok (s'.tree.read? (s'.resolve path))

namespace Alongside

open StoryMix.Action

variable {refusals : Refusals} {E : Thrown → Thrown → Prop} {α β : Type} {s t : Studio}
  {x : Action α} {y : Action β} {R : α → Studio → β → Studio → Prop}

/-- Two tools fail alike, or each gives its own reading of one answer. -/
theorem of_replies {γ : Type} (hs : s.refusals = refusals) (ht : t.refusals = refusals)
    (hE : ∀ e, E e e) {r : Except Thrown γ} {f : γ → α} {g : γ → β} (hx : x.Replies s (r.map f))
    (hy : y.Replies t (r.map g))
    (h : ∀ c, r = .ok c → x s = .ok (f c) (x.after s) → y t = .ok (g c) (y.after t) →
      R (f c) (x.after s) (g c) (y.after t)) : Alongside refusals E R (x s) (y t) := by
  cases r with
  | error e =>
      rw [eq_of_answer_error hx.answer, eq_of_answer_error hy.answer]
      exact .error (hE e) (hx.refusals.trans hs) (hy.refusals.trans ht)
  | ok c =>
      have hxs : x s = .ok (f c) (x.after s) := eq_of_answer_ok hx.answer
      have hyt : y t = .ok (g c) (y.after t) := eq_of_answer_ok hy.answer
      have hR := h c rfl hxs hyt
      rw [hxs, hyt]
      exact .ok hR (hx.refusals.trans hs) (hy.refusals.trans ht)

theorem of_same_reply {y : Action α} (hs : s.refusals = refusals) (ht : t.refusals = refusals)
    (hE : ∀ e, E e e) {r : Except Thrown α} (hx : x.Replies s r) (hy : y.Replies t r) :
    Alongside refusals E (fun a _ b _ => b = a) (x s) (y t) := by
  rw [← @id_eq _ r, ← Except.map_id] at hx hy
  exact .of_replies hs ht hE hx hy fun _ _ _ _ => rfl

end Alongside

namespace Timeline

variable {refusals : Refusals} {E : Thrown → Thrown → Prop} {tools : Tools} {answers : Answers}
  {heard : Studio → String → Option String} {config : ProducerConfig} {w w' : String} {s t : Studio}

section

variable (htools : tools.Answering answers heard) (hE : ∀ e, E e e)
  (hs : s.refusals = refusals) (ht : t.refusals = refusals)
include htools hE hs ht

/-- An asset is looked for in both runs in the same way. -/
theorem alongside_asset (root id : String) :
    Alongside refusals E (fun a _ b _ => b = a) (tools.asset root id s) (tools.asset root id t) :=
  .of_same_reply hs ht hE (htools.asset root id s) (htools.asset root id t)

/-- A line is spoken into the same file of either working directory, and there it is heard. -/
theorem alongside_voice (reference text name : String) :
    Alongside refusals E
      (fun a s' b t' => SameFile w w' a b ∧ heard s' a = some text ∧ heard t' b = some text)
      (tools.voice ⟨reference, text, Path.join [w, name]⟩ s)
      (tools.voice ⟨reference, text, Path.join [w', name]⟩ t) :=
  .of_replies hs ht hE (htools.voice _ s) (htools.voice _ t) fun file _ hspoken hspoken' =>
    ⟨sameFile_getD file name, htools.spoken _ s _ _ hspoken, htools.spoken _ t _ _ hspoken'⟩

theorem alongside_probe {file file' : String} (hheard : heard t file' = heard s file) :
    Alongside refusals E (fun a _ b _ => b = a) (tools.probe file s) (tools.probe file' t) :=
  .of_same_reply hs ht hE (htools.probe file s) (hheard ▸ htools.probe file' t)

theorem alongside_silence (seconds rate : Float) (layout name : String) :
    Alongside refusals E (fun a _ b _ => SameFile w w' a b)
      (tools.silence ⟨seconds, rate, layout, Path.join [w, name]⟩ s)
      (tools.silence ⟨seconds, rate, layout, Path.join [w', name]⟩ t) :=
  .of_replies hs ht hE (htools.silence _ s) (htools.silence _ t) fun file _ _ _ =>
    sameFile_getD file name

/-- A bed is looked for in both runs or in neither. -/
theorem alongside_resolveBed (events : List Event) (key : String) :
    Alongside refusals E (fun a _ b _ => b = a) (resolveBed tools config events key s)
      (resolveBed tools config events key t) := by
  unfold resolveBed
  cases nonEmptyDirective? events key with
  | none => exact .ok rfl hs ht
  | some id =>
      simp only [← bind_pure_comp]
      exact (alongside_asset htools hE hs ht _ _).bind fun _ _ _ _ h hs ht => .ok (congrArg some h) hs ht

theorem alongside_resolveBeds (events : List Event) :
    Alongside refusals E (fun a _ b _ => b = a) (resolveBeds tools config events s)
      (resolveBeds tools config events t) := by
  refine (alongside_resolveBed htools hE hs ht events "music").bind fun music _ music' _ hmusic hs ht => ?_
  refine (alongside_resolveBed htools hE hs ht events "ambience").bind
    fun ambience _ ambience' _ hambience hs ht => ?_
  rw [hmusic, hambience]
  exact .ok rfl hs ht

theorem alongside_speak (clock : Clock) (n : Nat) (speaker text : String) :
    Alongside refusals E (fun a _ b _ => a.1.Moved w w' b.1 ∧ b.2 = a.2)
      (speak tools config w clock n speaker text s) (speak tools config w' clock n speaker text t) := by
  refine (Alongside.ofExcept hs ht hE _).bind fun reference _ _ _ h hs ht => ?_
  obtain ⟨-, rfl, rfl, rfl⟩ := h
  refine (alongside_voice htools hE hs ht reference text _).bind fun file _ file' _ hfile hs ht => ?_
  obtain ⟨hfile, hheard, hheard'⟩ := hfile
  refine (alongside_probe htools hE hs ht (hheard'.trans hheard.symm)).bind
    fun duration _ duration' _ hduration hs ht => ?_
  obtain rfl := hduration
  refine (Alongside.say hs ht _ _ _ _ _ _).bind fun _ _ _ _ _ hs ht => ?_
  exact .ok ⟨⟨rfl, hfile, rfl, rfl⟩, rfl⟩ hs ht

theorem alongside_rest (clock : Clock) (n : Nat) (seconds : Float) :
    Alongside refusals E (fun a _ b _ => a.1.Moved w w' b.1 ∧ b.2 = a.2)
      (rest tools w clock n seconds s) (rest tools w' clock n seconds t) := by
  refine (alongside_silence htools hE hs ht seconds _ _ _).bind fun file _ file' _ hfile hs ht => ?_
  exact .ok ⟨⟨rfl, hfile, rfl, rfl⟩, rfl⟩ hs ht

theorem alongside_cue (clock : Clock) (asset : String) (anchor : Anchor) (offset : Float) :
    Alongside refusals E (fun a _ b _ => b = a) (cue tools config clock asset anchor offset s)
      (cue tools config clock asset anchor offset t) := by
  refine (Alongside.ofExcept hs ht hE _).bind fun startTime _ _ _ h hs ht => ?_
  obtain ⟨-, rfl, rfl, rfl⟩ := h
  refine (alongside_asset htools hE hs ht _ _).bind fun file _ file' _ hfile hs ht => ?_
  obtain rfl := hfile
  refine (Alongside.say hs ht _ _ _ _ _ _).bind fun _ _ _ _ _ hs ht => ?_
  exact .ok rfl hs ht

end

/-- What parts of two walks have placed. -/
structure Track.Moved (w w' : String) (a b : Track) : Prop where
  segments : List.Forall₂ (Segment.Moved w w') a.segments b.segments
  effects : b.effects = a.effects
  clock : b.clock = a.clock

/-- The walks go through the events together: their clocks agree before every event, so they agree after
it. -/
theorem alongside_walk (htools : tools.Answering answers heard) (hE : ∀ e, E e e) (clock : Clock)
    (made : Nat) (events : List Event) (hs : s.refusals = refusals) (ht : t.refusals = refusals) :
    Alongside refusals E (fun a _ b _ => a.Moved w w' b) (walk tools config w clock made events s)
      (walk tools config w' clock made events t) := by
  induction events generalizing clock made s t with
  | nil => exact .ok ⟨.nil, rfl, rfl⟩ hs ht
  | cons event events ih =>
      cases event with
      | utterance speaker text =>
          refine (alongside_speak htools hE hs ht clock (made + 1) speaker text).bind
            fun spoken _ spoken' _ h hs ht => ?_
          obtain ⟨segment, next⟩ := spoken
          obtain ⟨segment', next'⟩ := spoken'
          obtain ⟨hsegment, hnext⟩ := h
          obtain rfl : next' = next := hnext
          exact (ih next' (made + 1) hs ht).bind fun a _ b _ h hs ht =>
            .ok ⟨.cons hsegment h.segments, h.effects, h.clock⟩ hs ht
      | pause seconds =>
          refine (alongside_rest htools hE hs ht clock (made + 1) seconds).bind
            fun rested _ rested' _ h hs ht => ?_
          obtain ⟨segment, next⟩ := rested
          obtain ⟨segment', next'⟩ := rested'
          obtain ⟨hsegment, hnext⟩ := h
          obtain rfl : next' = next := hnext
          exact (ih next' (made + 1) hs ht).bind fun a _ b _ h hs ht =>
            .ok ⟨.cons hsegment h.segments, h.effects, h.clock⟩ hs ht
      | cue asset anchor offset =>
          refine (alongside_cue htools hE hs ht clock asset anchor offset).bind
            fun effect _ effect' _ heffect hs ht => ?_
          exact (ih clock made hs ht).bind fun a _ b _ h hs ht =>
            .ok ⟨h.segments, congrArg₂ List.cons heffect h.effects, h.clock⟩ hs ht
      | directive key value => exact ih clock made hs ht
      | other line => exact ih clock made hs ht

theorem alongside_build (htools : tools.Answering answers heard) (hE : ∀ e, E e e) (events : List Event)
    (hs : s.refusals = refusals) (ht : t.refusals = refusals) :
    Alongside refusals E (fun a _ b _ => a.Moved w w' b) (build tools config w events s)
      (build tools config w' events t) := by
  unfold build
  by_cases hcount : countUtterances events = 0
  · rw [if_pos hcount, if_pos hcount]
    exact .error (hE _) hs ht
  · rw [if_neg hcount, if_neg hcount]
    refine (Alongside.ofExcept hs ht hE _).bind fun _ _ _ _ h hs ht => ?_
    obtain ⟨-, -, rfl, rfl⟩ := h
    refine (alongside_resolveBeds htools hE hs ht events).bind fun beds _ beds' _ hbeds hs ht => ?_
    refine (alongside_walk htools hE .start 0 events hs ht).bind fun track _ track' _ htrack hs ht => ?_
    refine (Alongside.say hs ht _ _ _ _ _ _).bind fun _ _ _ _ _ hs ht => ?_
    exact .ok ⟨rfl, htrack.segments, htrack.effects, hbeds, congrArg Clock.currentTime htrack.clock⟩ hs ht

end Timeline

end StoryMix
