import StoryMix.Story.Random

/-!
# Generated stories

Bedtime stories to try the renderer with. All have one shape, an opening, three beats and a close;
the seed chooses the place, the thing and the two visitors, and sound effects stand at every beat.
-/

namespace StoryMix.Story

/-- What a story is to be about. -/
structure Options where
  title : String
  seed : Option Float
  narrator : Option String
  music : Option String
  ambience : Option String

def places : List String :=
  ["a quiet lantern shop", "a sleepy library", "a warm kitchen at night", "a moonlit garden",
   "a tiny train station"]

def things : List String :=
  ["a pocket watch", "a paper umbrella", "a small music box", "a wind-up bird",
   "a map with silver ink"]

def heroines : List String :=
  ["Pearl", "Violet", "Opal", "Iris", "Jade", "Rose", "Amber"]

def heroes : List String :=
  ["Onyx", "Slate", "Moss", "Copper", "Ember"]

def defaultNarrator : String :=
  "Ruby"

/-- A phrase without the article in front of it. -/
def withoutArticle (phrase : String) : String :=
  let cs := phrase.toList
  if ['a', ' '].isPrefixOf cs then String.ofList (cs.drop 2)
  else if ['a', 'n', ' '].isPrefixOf cs then String.ofList (cs.drop 3)
  else phrase

/-- What the seed decides. -/
structure Cast where
  narrator : String
  place : String
  thing : String
  heroine : String
  hero : String

/-- The place, the thing, the heroine and the hero, chosen in this order. -/
def Cast.choose (narrator : String) (r : Random) : Cast where
  narrator := narrator
  place := r.pick places (by decide)
  thing := r.step.pick things (by decide)
  heroine := r.step.step.pick heroines (by decide)
  hero := r.step.step.step.pick heroes (by decide)

/-- One line of a story. The length of a pause is written as told. -/
inductive Line where
  | directive (key value : String)
  | empty
  | speech (speaker text : String)
  | pause (seconds : String)
  | effect (asset : String)

def Line.text : Line → String
  | directive key value => "@" ++ key ++ ": " ++ value
  | empty => ""
  | speech speaker text => speaker ++ ": " ++ text
  | pause seconds => "PAUSE: " ++ seconds
  | effect asset => "SFX: " ++ asset ++ " at=last_end offset=0.0"

/-- A directive, unless there is nothing to say. -/
def directiveLine (key : String) (value : Option String) : List Line :=
  match value.filter (· ≠ "") with
  | some value => [.directive key value]
  | none => []

/-- The lines above the story. -/
def heading (o : Options) : List Line :=
  [.directive "title" o.title, .directive "lang" "en"] ++ directiveLine "music" o.music ++
    directiveLine "ambience" o.ambience

namespace Cast

variable (c : Cast)

def theThing : String :=
  withoutArticle c.thing

def opening : List Line :=
  [.speech c.narrator
      ("Tonight, we visit " ++ c.place ++ ", where everything is soft and unhurried."),
   .pause "0.35",
   .speech c.narrator
      ("On the counter rests " ++ c.thing ++
        ". It seems ordinary, until it makes the faintest, friendliest sound."),
   .effect "sfx_soft_chime",
   .pause "0.35",
   .speech c.heroine "Hello? I thought I heard something.",
   .pause "0.25",
   .speech c.hero "Me too. But it sounds... polite.",
   .pause "0.35"]

def firstBeat : List Line :=
  [.speech c.narrator
      ("Together, they lean closer. The " ++ c.theThing ++
        " clicks once, as if asking permission."),
   .effect "sfx_soft_click",
   .pause "0.30",
   .speech c.heroine "You can help us fall asleep, can't you?",
   .pause "0.25"]

def secondBeat : List Line :=
  [.speech c.narrator "A gentle breeze moves through the room, though no windows are open.",
   .effect "sfx_gentle_wind",
   .pause "0.35",
   .speech c.hero "If you tell us a story, we'll listen quietly.",
   .pause "0.25"]

def thirdBeat : List Line :=
  [.speech c.narrator
      ("The " ++ c.theThing ++ " answers with a tiny melody, three notes and then a pause, " ++
        "like a lullaby learning your name."),
   .effect "sfx_musicbox_three_notes",
   .pause "0.45"]

def close : List Line :=
  [.speech c.narrator
      ("And as the last note fades, the whole " ++ withoutArticle c.place ++
        " feels lighter. Breathing becomes easy. Eyes grow heavy."),
   .pause "0.45",
   .speech c.narrator "Goodnight. Sleep deeply, and let the quiet keep watch."]

/-- The lines of the story itself. -/
def story : List Line :=
  c.opening ++ c.firstBeat ++ c.secondBeat ++ c.thirdBeat ++ c.close

end Cast

/-- The cast of a story with these options. An empty narrator counts as none. -/
def Options.cast (o : Options) : Cast :=
  Cast.choose ((o.narrator.filter (· ≠ "")).getD defaultNarrator) (Random.ofSeed (o.seed.getD 0))

/-- The lines of a whole script. -/
def Options.lines (o : Options) : List Line :=
  heading o ++ [.empty] ++ o.cast.story

/-- A script that tells a story. -/
def generate (o : Options) : String :=
  "\n".intercalate (o.lines.map Line.text) ++ "\n"

end StoryMix.Story
