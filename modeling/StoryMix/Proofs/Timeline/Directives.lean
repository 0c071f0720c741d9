import StoryMix.Proofs.Studio.Run
import StoryMix.Timeline.Build

/-!
# Directives are about the whole document

A build asks for three directives, the title, the music and the ambience, and takes the first of each;
on its walk it passes all directives over. So what is built is a matter of two things (`build_congr`):
what the first directives with these keys say, and the events that are no directives. It makes no
difference then how the directives stand among the other events, nor that there are some which nobody
heeds: those with other keys, and those that come after one with the same key, even if that one is
empty.
-/

namespace StoryMix

def Event.isDirective : Event → Bool
  | directive .. => true
  | _ => false

/-- The directives of a script, in their order. -/
def directivesOf (events : List Event) : List Event :=
  events.filter Event.isDirective

/-- The events of a script that are no directives, in their order. -/
def bodyOf (events : List Event) : List Event :=
  events.filter (!·.isDirective)

/-! ## What is asked for -/

/-- The directives are all that is looked through. -/
theorem directive?_directivesOf (events : List Event) (key : String) :
    directive? (directivesOf events) key = directive? events key := by
  unfold directive? directivesOf
  induction events with
  | nil => rfl
  | cons event events ih =>
      rw [List.findSome?_cons, ← ih]
      cases event with
      | directive => rfl
      | utterance | pause | cue | other => rfl

theorem countUtterances_bodyOf (events : List Event) :
    countUtterances (bodyOf events) = countUtterances events := by
  unfold countUtterances bodyOf
  induction events with
  | nil => rfl
  | cons event events ih =>
      rw [List.countP_cons, ← ih]
      cases event with
      | directive => rfl
      | utterance | pause | cue | other => exact List.countP_cons ..

/-! ## Directives that nobody heeds -/

namespace Timeline

/-- The keys of the directives that a build asks for. -/
def headings : List String :=
  ["title", "music", "ambience"]

/-- Nobody heeds a directive with this key if it comes after these events: its key is not one of those
that are asked for, or one of the events has the same. -/
def Unheeded (before : List Event) (key : String) : Prop :=
  Text.lowered key ∉ headings ∨
    ∃ other value, Event.directive other value ∈ before ∧ Text.lowered other = Text.lowered key

/-- The second script is the first one, read on after the events `before`, without some directives that
nobody heeds there. -/
inductive Sheds : List Event → List Event → List Event → Prop
  | nil {before} : Sheds before [] []
  | keeps {before event events rest} :
      Sheds (before ++ [event]) events rest → Sheds before (event :: events) (event :: rest)
  | drops {before key value events rest} :
      Unheeded before key → Sheds (before ++ [.directive key value]) events rest →
      Sheds before (.directive key value :: events) rest

theorem lowered_of_mem_headings : ∀ key ∈ headings, Text.lowered key = key := by
  decide

theorem directiveValue?_directive {wanted key value : String} (h : Text.lowered key = wanted) :
    (Event.directive key value).directiveValue? wanted = some value :=
  if_pos h

/-- A heading that is found behind a directive which nobody heeds is found without it. -/
theorem findSome?_unheeded {before : List Event} {key value heading : String}
    (h : Unheeded before key) (hheading : heading ∈ headings) (events : List Event) :
    (before ++ [Event.directive key value] ++ events).findSome? (Event.directiveValue? heading) =
      (before ++ events).findSome? (Event.directiveValue? heading) := by
  by_cases hkey : Text.lowered key = heading
  · rcases h with hother | ⟨other, said, hmem, hsame⟩
    · exact absurd (hkey ▸ hheading) hother
    · -- What comes behind the other directive is not looked at.
      have hfound : (before.findSome? (Event.directiveValue? heading)).isSome = true :=
        List.findSome?_isSome_iff.2
          ⟨_, hmem, by rw [directiveValue?_directive (hsame.trans hkey)]; rfl⟩
      obtain ⟨found, hfound⟩ := Option.isSome_iff_exists.1 hfound
      have hstops (rest : List Event) :
          (before ++ rest).findSome? (Event.directiveValue? heading) = some found := by
        rw [List.findSome?_append, hfound]
        rfl
      rw [List.append_assoc, hstops, hstops]
  · have hpassed : (Event.directive key value).directiveValue? heading = none := if_neg hkey
    rw [List.findSome?_append, List.findSome?_append, List.findSome?_append, List.findSome?_cons,
      hpassed, List.findSome?_nil, Option.or_none]

theorem findSome?_of_sheds {before xs ys : List Event} (h : Sheds before xs ys) {heading : String}
    (hheading : heading ∈ headings) :
    (before ++ xs).findSome? (Event.directiveValue? heading) =
      (before ++ ys).findSome? (Event.directiveValue? heading) := by
  induction h with
  | nil => rfl
  | keeps _ ih => simpa using ih
  | drops hunheeded _ ih =>
      rw [List.append_cons, ih, findSome?_unheeded hunheeded hheading]

theorem directive?_of_sheds {xs ys : List Event} (h : Sheds [] xs ys) {heading : String}
    (hheading : heading ∈ headings) : directive? xs heading = directive? ys heading := by
  rw [directive?, directive?, lowered_of_mem_headings heading hheading]
  exact findSome?_of_sheds h hheading

theorem bodyOf_of_sheds {before xs ys : List Event} (h : Sheds before xs ys) :
    bodyOf xs = bodyOf ys := by
  induction h with
  | nil => rfl
  | @keeps _ event _ _ _ ih =>
      unfold bodyOf at *
      rw [List.filter_cons, List.filter_cons, ih]
  | drops _ _ ih => exact ih

/-! ## Builds -/

variable {tools : Tools} {config : ProducerConfig} {workDir : String}

theorem checkSpeakers_bodyOf (events : List Event) :
    checkSpeakers config (bodyOf events) = checkSpeakers config events := by
  unfold bodyOf
  induction events with
  | nil => rfl
  | cons event events ih =>
      cases event with
      | directive => exact ih
      | utterance speaker text =>
          rw [List.filter_cons_of_pos rfl, checkSpeakers, checkSpeakers, ih]
      | pause | cue | other => exact ih

/-- Directives are passed over on the walk. -/
theorem walk_bodyOf (clock : Clock) (made : Nat) (events : List Event) :
    walk tools config workDir clock made (bodyOf events) =
      walk tools config workDir clock made events := by
  unfold bodyOf
  induction events generalizing clock made with
  | nil => rfl
  | cons event events ih =>
      cases event with
      | directive => exact ih clock made
      | utterance | pause | cue =>
          rw [List.filter_cons_of_pos rfl, walk, walk]
          simp only [ih]
      | other => exact ih clock made

section Headings

variable {xs ys : List Event}
  (h : ∀ heading ∈ headings, directive? xs heading = directive? ys heading)
include h

theorem nonEmptyDirective?_congr {heading : String} (hheading : heading ∈ headings) :
    nonEmptyDirective? xs heading = nonEmptyDirective? ys heading := by
  rw [nonEmptyDirective?, h heading hheading, ← nonEmptyDirective?]

theorem titleOf_congr : titleOf xs = titleOf ys := by
  rw [titleOf, nonEmptyDirective?_congr h (by decide), ← titleOf]

theorem resolveBeds_congr : resolveBeds tools config xs = resolveBeds tools config ys := by
  unfold resolveBeds resolveBed
  rw [nonEmptyDirective?_congr h (by decide), nonEmptyDirective?_congr h (by decide)]

end Headings

/-- What is built is a matter of the headings and of the body. -/
theorem build_congr {xs ys : List Event} (hbody : bodyOf xs = bodyOf ys)
    (hheadings : ∀ heading ∈ headings, directive? xs heading = directive? ys heading) :
    build tools config workDir xs = build tools config workDir ys := by
  have hcount : countUtterances xs = countUtterances ys := by
    rw [← countUtterances_bodyOf, hbody, countUtterances_bodyOf]
  have hspeakers : checkSpeakers config xs = checkSpeakers config ys := by
    rw [← checkSpeakers_bodyOf, hbody, checkSpeakers_bodyOf]
  have hwalk : walk tools config workDir .start 0 xs = walk tools config workDir .start 0 ys := by
    rw [← walk_bodyOf, hbody, walk_bodyOf]
  unfold build
  rw [hcount, hspeakers, titleOf_congr hheadings, resolveBeds_congr hheadings, hwalk]

/-- Scripts with the same directives in the same order and the same other events in the same order are
built alike, however the ones stand among the others; and so is a script without some directives that
nobody heeds. It is the same action: done in whatever studio and with whatever tools, it makes the same
calls and has the same outcome. -/
theorem build_document (tools : Tools) (config : ProducerConfig) (workDir : String)
    (xs ys : List Event) :
    (directivesOf xs = directivesOf ys → bodyOf xs = bodyOf ys →
      build tools config workDir xs = build tools config workDir ys) ∧
    (Sheds [] xs ys → build tools config workDir xs = build tools config workDir ys) := by
  constructor
  · intro hdirectives hbody
    refine build_congr hbody fun heading _ => ?_
    rw [← directive?_directivesOf, hdirectives, directive?_directivesOf]
  · intro hsheds
    exact build_congr (bodyOf_of_sheds hsheds) fun _ => directive?_of_sheds hsheds

/-- A script whose first title is empty, with a later title and a language. -/
def untitled : List Event :=
  [.directive "title" "", .utterance "Ruby" "Hello", .directive "Title" "Late", .pause 1,
   .directive "lang" "en"]

/-- The later title stays unheeded, wherever it stands and if it is left out. -/
theorem build_document_untitled :
    (directivesOf untitled = directivesOf (directivesOf untitled ++ bodyOf untitled) ∧
      bodyOf untitled = bodyOf (directivesOf untitled ++ bodyOf untitled) ∧
      build .prompt (.soloist "Ruby" "/ruby.wav") "/w" untitled =
        build .prompt (.soloist "Ruby" "/ruby.wav") "/w"
          (directivesOf untitled ++ bodyOf untitled)) ∧
    Sheds [] untitled [.directive "title" "", .utterance "Ruby" "Hello", .pause 1] ∧
      build .prompt (.soloist "Ruby" "/ruby.wav") "/w" untitled =
        build .prompt (.soloist "Ruby" "/ruby.wav") "/w"
          [.directive "title" "", .utterance "Ruby" "Hello", .pause 1] := by
  have hdirectives : directivesOf untitled =
      directivesOf (directivesOf untitled ++ bodyOf untitled) := rfl
  have hbody : bodyOf untitled = bodyOf (directivesOf untitled ++ bodyOf untitled) := rfl
  have hsheds : Sheds [] untitled [.directive "title" "", .utterance "Ruby" "Hello", .pause 1] :=
    .keeps <| .keeps <|
      .drops (.inr ⟨"title", "", List.mem_cons_self, by decide⟩) <|
      .keeps <| .drops (.inl (by decide)) .nil
  exact ⟨⟨hdirectives, hbody, (build_document ..).1 hdirectives hbody⟩, hsheds,
    (build_document ..).2 hsheds⟩

end Timeline

end StoryMix
