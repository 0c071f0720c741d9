import StoryMix.Numeral.Fixed

/-!
# Mix graphs

The one mixing run of a render: the input files in order, and chains of filters that each read some
streams and make a labelled one. A chain is data here and becomes the text that the mixing tool reads
by `Chain.text`.
-/

namespace StoryMix.Mix

/-- A stream that some chain makes. Effects are numbered from one in their text. -/
inductive Label where
  | segment (i : Nat)
  | narration
  | music
  | ambience
  | effect (i : Nat)
  | total
  deriving DecidableEq, Repr

def Label.text : Label → String
  | segment i => "seg" ++ Numeral.natText i
  | narration => "narr"
  | music => "music"
  | ambience => "amb"
  | effect i => "sfx" ++ Numeral.natText (i + 1)
  | total => "mix"

/-- What a chain reads: an input file, or a stream made by another chain. -/
inductive Source where
  | input (i : Nat)
  | label (l : Label)
  deriving DecidableEq, Repr

def Source.text : Source → String
  | input i => "[" ++ Numeral.natText i ++ ":a]"
  | label l => "[" ++ l.text ++ "]"

/-- Seconds as an argument of a filter: to the microsecond, without trailing zeros. -/
def seconds (x : Float) : String :=
  String.ofList (Numeral.withoutTrailingZeros (Numeral.fixed 6 x).toList)

/-- Seconds in whole milliseconds. -/
def delayMs (x : Float) : Float :=
  Numeral.nearestWhole (x * 1000)

inductive Filter where
  /-- Brings a segment to one format. -/
  | normalize
  | concat (n : Nat)
  | volume (db : Float)
  /-- Repeats without end. -/
  | loop
  | trim (duration : Float)
  /-- Starts every channel later. -/
  | delay (startTime : Float)
  /-- Adds streams up as they are. -/
  | sum (n : Nat)

def Filter.text : Filter → String
  | normalize => "aformat=channel_layouts=mono,aresample=48000"
  | concat n => "concat=n=" ++ Numeral.natText n ++ ":v=0:a=1"
  | volume db => "volume=" ++ Numeral.text db ++ "dB"
  | loop => "aloop=loop=-1:size=2e+09"
  | trim duration => "atrim=0:" ++ seconds duration
  | delay startTime => "adelay=delays=" ++ Numeral.text (delayMs startTime) ++ ":all=1"
  | sum n => "amix=inputs=" ++ Numeral.natText n ++ ":duration=longest:normalize=0"

structure Chain where
  reads : List Source
  filters : List Filter
  makes : Label

def Chain.text (c : Chain) : String :=
  String.join (c.reads.map Source.text) ++ ",".intercalate (c.filters.map Filter.text) ++
    "[" ++ c.makes.text ++ "]"

/-- The name and the encoding of the finished file. -/
structure Output where
  fileName : String
  format : String
  codec : String
  bitrate : String
  deriving DecidableEq, Repr

/-- What the mixing tool is given. -/
structure Graph where
  inputs : List String
  filters : List String
  outputLabel : String
  output : Output
  duration : Float

/-- The filters as one text. -/
def Graph.filterText (g : Graph) : String :=
  ";".intercalate g.filters

end StoryMix.Mix
