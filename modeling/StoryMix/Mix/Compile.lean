import StoryMix.Config.Producer
import StoryMix.FileName
import StoryMix.Mix.Graph
import StoryMix.Timeline.Basic

/-!
# From a timeline to a mix graph

The inputs are the segments, then the beds that there are, music first, then the effects. Segments
are brought to one format and strung together, beds are looped, set to their gain and cut to the
length of the narration, effects are delayed to their time, and all of it is added up.
-/

namespace StoryMix.Mix

/-- A background bed that a timeline has, with its label and its gain. -/
structure Bed where
  label : Label
  file : String
  gain : Float

/-- The beds of a timeline. An empty file name counts as none. -/
def bedsOf (beds : Beds) (config : ProducerConfig) : List Bed :=
  let bed (label : Label) (file : Option String) (gain : Float) : List Bed :=
    ((file.filter (· ≠ "")).map fun f => ⟨label, f, gain⟩).toList
  bed .music beds.music config.musicGainDb ++ bed .ambience beds.ambience config.ambienceGainDb

def segmentChain (i : Nat) : Chain :=
  ⟨[.input i], [.normalize], .segment i⟩

def narrationChain (count : Nat) (gain : Float) : Chain :=
  ⟨(List.range count).map fun i => .label (.segment i), [.concat count, .volume gain], .narration⟩

def bedChain (duration : Float) (i : Nat) (bed : Bed) : Chain :=
  ⟨[.input i], [.loop, .volume bed.gain, .trim duration], bed.label⟩

def effectChain (i number : Nat) (startTime : Float) : Chain :=
  ⟨[.input i], [.delay startTime], .effect number⟩

def totalChain (labels : List Label) : Chain :=
  ⟨labels.map .label, [.sum labels.length], .total⟩

/-- The streams that are added up. -/
def summands (beds : List Bed) (effects : Nat) : List Label :=
  .narration :: beds.map Bed.label ++ (List.range effects).map .effect

/-- The chains of a timeline. -/
def chainsOf (t : Timeline) (config : ProducerConfig) : List Chain :=
  let k := t.segments.length
  let beds := bedsOf t.beds config
  (List.range k).map segmentChain ++ [narrationChain k config.narrationGainDb] ++
    beds.mapIdx (fun i bed => bedChain t.duration (k + i) bed) ++
    t.effects.mapIdx (fun i e => effectChain (k + beds.length + i) i e.startTime) ++
    [totalChain (summands beds t.effects.length)]

/-- The input files of a timeline. -/
def inputsOf (t : Timeline) (config : ProducerConfig) : List String :=
  t.segments.map Segment.file ++ (bedsOf t.beds config).map Bed.file ++
    t.effects.map Placement.file

/-- The name of the file that a title gives. -/
def outputFileName (title : String) : String :=
  fileStem title ++ ".mp3"

/-- The mix graph of a timeline, which must have a segment. -/
def compile (t : Timeline) (config : ProducerConfig) : Except Failure Graph :=
  if t.segments = [] then .error .emptyDocument
  else .ok {
    inputs := inputsOf t config
    filters := (chainsOf t config).map Chain.text
    outputLabel := Label.total.text
    output := ⟨outputFileName t.title, "mp3", "libmp3lame", "160k"⟩
    duration := t.duration }

end StoryMix.Mix
