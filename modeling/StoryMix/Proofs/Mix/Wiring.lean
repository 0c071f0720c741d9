import StoryMix.Proofs.Mix.Chains
import StoryMix.Proofs.Mix.Pads

/-!
# How a mix graph is wired

A mix graph is linear: every input goes through one filter of its own, the segments are strung together,
what comes of that is added to the beds and the effects, and nothing is left over or used twice. All of
it is said of the texts that the mixing tool is given (`WellWired`), and holds of them since they have
the names of the streams where the chains have the streams.
-/

namespace StoryMix.Mix

/-! ## What well wired means -/

/-- The `j`th filter reads the pad. -/
def Graph.Reads (g : Graph) (j : Nat) (pad : String) : Prop :=
  ∃ f, g.filters[j]? = some f ∧ pad ∈ reads f

/-- The `j`th filter makes the pad. -/
def Graph.Makes (g : Graph) (j : Nat) (pad : String) : Prop :=
  ∃ f, g.filters[j]? = some f ∧ makes f = pad

/-- An input file and what is done to its stream. -/
structure Item where
  file : String
  operation : String

def segmentItem (segment : Segment) : Item :=
  ⟨segment.file, "aformat=channel_layouts=mono,aresample=48000"⟩

def bedItem (duration gain : Float) (file : String) : Item :=
  ⟨file, "aloop=loop=-1:size=2e+09,volume=" ++ Numeral.text gain ++ "dB,atrim=0:" ++
    seconds duration⟩

def effectItem (effect : Placement) : Item :=
  ⟨effect.file, "adelay=delays=" ++ Numeral.text (delayMs effect.startTime) ++ ":all=1"⟩

def bedFiles (beds : Beds) : List String :=
  present beds.music ++ present beds.ambience

def itemsOf (t : Timeline) (config : ProducerConfig) : List Item :=
  t.segments.map segmentItem ++
    ((present t.beds.music).map (bedItem t.duration config.musicGainDb) ++
      (present t.beds.ambience).map (bedItem t.duration config.ambienceGainDb)) ++
    t.effects.map effectItem

/-- The graph is the linear graph of the timeline. -/
structure WellWired (t : Timeline) (config : ProducerConfig) (g : Graph) : Prop where
  inputs : g.inputs =
    t.segments.map Segment.file ++ bedFiles t.beds ++ t.effects.map Placement.file
  items : g.inputs = (itemsOf t config).map Item.file
  /-- A filter is the pads it reads, its operations, and the pad it makes. -/
  shaped : ∀ f ∈ g.filters, ∃ body, Bare body.toList ∧
    f = String.join ((reads f).map bracket) ++ body ++ bracket (makes f)
  input_once : ∀ i < g.inputs.length, ∃ j, ∀ j', g.Reads j' (stream i) ↔ j' = j
  input_within : ∀ i j, g.Reads j (stream i) → i < g.inputs.length
  /-- The filter that reads an input is that of the item there. -/
  input_own : ∀ i item, (itemsOf t config)[i]? = some item →
    ∀ f ∈ g.filters, stream i ∈ reads f →
      f = bracket (stream i) ++ item.operation ++ bracket (makes f)
  reads_nodup : ∀ f ∈ g.filters, (reads f).Nodup
  makes_nodup : (g.filters.map makes).Nodup
  /-- What is made is read by one filter, and that comes later. -/
  consumed : ∀ i pad, g.Makes i pad → pad ≠ g.outputLabel →
    ∃ j, i < j ∧ ∀ j', g.Reads j' pad ↔ j' = j
  /-- What is read is an input or was made earlier. -/
  supplied : ∀ j pad, g.Reads j pad → (∃ i, pad = stream i) ∨ ∃ i < j, g.Makes i pad
  output_last : g.filters.getLast?.map makes = some g.outputLabel
  output_unread : ∀ j, ¬ g.Reads j g.outputLabel
  concat : ∃ labels, labels = (g.filters.take t.segments.length).map makes ∧
    labels.length = t.segments.length ∧
    g.filters[t.segments.length]? =
      some (String.join (labels.map bracket) ++ ("concat=n=" ++ Numeral.natText labels.length ++
        ":v=0:a=1,volume=" ++ Numeral.text config.narrationGainDb ++ "dB") ++ bracket "narr")
  amix : ∃ labels, labels = ((g.filters.drop t.segments.length).dropLast).map makes ∧
    labels.length = 1 + (bedFiles t.beds).length + t.effects.length ∧
    g.filters.getLast? =
      some (String.join (labels.map bracket) ++ ("amix=inputs=" ++ Numeral.natText labels.length ++
        ":duration=longest:normalize=0") ++ bracket g.outputLabel)
  output_label : g.outputLabel = "mix"
  output : g.output = ⟨outputFileName t.title, "mp3", "libmp3lame", "160k"⟩
  duration : g.duration = t.duration

variable {t : Timeline} {config : ProducerConfig} {g : Graph}

/-! ## The items -/

theorem bedItems_eq :
    (present t.beds.music).map (bedItem t.duration config.musicGainDb) ++
        (present t.beds.ambience).map (bedItem t.duration config.ambienceGainDb) =
      (bedsOf t.beds config).map fun bed => bedItem t.duration bed.gain bed.file := by
  rw [bedsOf_eq, List.map_append, List.map_map, List.map_map]
  rfl

theorem length_bedsOf : (bedsOf t.beds config).length = (bedFiles t.beds).length := by
  rw [bedsOf_eq, bedFiles, List.length_append, List.length_append, List.length_map,
    List.length_map]

theorem map_file_itemsOf : (itemsOf t config).map Item.file =
    t.segments.map Segment.file ++ bedFiles t.beds ++ t.effects.map Placement.file := by
  have hbed : ∀ (gain : Float) (files : List String),
      (files.map (bedItem t.duration gain)).map Item.file = files := by
    intro gain files
    rw [List.map_map]
    exact List.map_id files
  rw [itemsOf, List.map_append, List.map_append, List.map_append, hbed, hbed, List.map_map,
    List.map_map]
  rfl

theorem inputsOf_eq : inputsOf t config = (itemsOf t config).map Item.file := by
  rw [itemsOf, bedItems_eq, List.map_append, List.map_append, List.map_map, List.map_map,
    List.map_map]
  rfl

theorem length_summands :
    (summands (bedsOf t.beds config) t.effects.length).length =
      1 + (bedFiles t.beds).length + t.effects.length := by
  simp only [summands, List.length_append, List.length_cons, List.length_map, List.length_range,
    length_bedsOf]
  omega

theorem length_inputsOf : (inputsOf t config).length =
    t.segments.length + (bedsOf t.beds config).length + t.effects.length := by
  simp only [inputsOf, List.length_append, List.length_map]

theorem segmentChain_body (i : Nat) (segment : Segment) :
    (segmentChain i).body = (segmentItem segment).operation := by
  simp [segmentChain, segmentItem, Chain.body, Filter.text]

theorem bedChain_body (duration : Float) (i : Nat) (bed : Bed) :
    (bedChain duration i bed).body = (bedItem duration bed.gain bed.file).operation := by
  rw [← String.toList_inj]
  simp [bedChain, bedItem, Chain.body, Filter.text]

theorem effectChain_body (i number : Nat) (effect : Placement) :
    (effectChain i number effect.startTime).body = (effectItem effect).operation := by
  simp [effectChain, effectItem, Chain.body, Filter.text]

/-- The chain that reads an input is that of its item. -/
theorem Stands.item_of_reads {i j : Nat} {c : Chain} {item : Item} (h : Stands t config j c)
    (hreads : .input i ∈ c.reads) (hitem : (itemsOf t config)[i]? = some item) :
    c.reads = [.input i] ∧ c.body = item.operation := by
  rw [itemsOf, bedItems_eq] at hitem
  cases h with
  | segment hj =>
      obtain rfl := Source.input.inj (List.mem_singleton.mp hreads)
      refine ⟨rfl, ?_⟩
      rw [List.append_assoc, List.getElem?_append_left (by simpa using hj), List.getElem?_map]
        at hitem
      obtain ⟨segment, -, rfl⟩ := Option.map_eq_some_iff.mp hitem
      exact segmentChain_body i segment
  | narration => simp [narrationChain] at hreads
  | bed hbed =>
      have hj := (List.getElem?_eq_some_iff.mp hbed).1
      obtain rfl := Source.input.inj (List.mem_singleton.mp hreads)
      refine ⟨rfl, ?_⟩
      rw [List.append_assoc, List.getElem?_append_right (by simp), List.length_map,
        Nat.add_sub_cancel_left, List.getElem?_append_left (by simpa using hj), List.getElem?_map,
        hbed] at hitem
      cases hitem
      exact bedChain_body _ _ _
  | effect he =>
      obtain rfl := Source.input.inj (List.mem_singleton.mp hreads)
      refine ⟨rfl, ?_⟩
      rw [List.getElem?_append_right (by simp), List.length_append, List.length_map,
        List.length_map, Nat.add_sub_cancel_left, List.getElem?_map, he] at hitem
      cases hitem
      exact effectChain_body _ _ _
  | total => simp [totalChain] at hreads

/-! ## From the chains to the texts -/

theorem map_name_label (labels : List Label) :
    (labels.map Source.label).map Source.name = labels.map Label.text := by
  rw [List.map_map]
  rfl

section Texts

variable (hfilters : g.filters = (chainsOf t config).map Chain.text)

include hfilters

theorem filter_iff {j : Nat} {f : String} :
    g.filters[j]? = some f ↔ ∃ c, Stands t config j c ∧ c.text = f := by
  rw [hfilters, List.getElem?_map, Option.map_eq_some_iff]
  simp only [stands_iff]

theorem mem_filters_iff {f : String} :
    f ∈ g.filters ↔ ∃ j c, Stands t config j c ∧ c.text = f := by
  rw [List.mem_iff_getElem?]
  simp only [filter_iff hfilters]

theorem reads_iff {j : Nat} {pad : String} :
    g.Reads j pad ↔ ∃ s, s.name = pad ∧ ∃ c, Stands t config j c ∧ s ∈ c.reads := by
  simp only [Graph.Reads, filter_iff hfilters]
  constructor
  · rintro ⟨f, ⟨c, hc, rfl⟩, hpad⟩
    rw [reads_text] at hpad
    obtain ⟨s, hs, rfl⟩ := List.mem_map.mp hpad
    exact ⟨s, rfl, c, hc, hs⟩
  · rintro ⟨s, rfl, c, hc, hs⟩
    exact ⟨_, ⟨c, hc, rfl⟩, by rw [reads_text]; exact List.mem_map_of_mem hs⟩

theorem reads_name_iff {j : Nat} {s : Source} :
    g.Reads j s.name ↔ ∃ c, Stands t config j c ∧ s ∈ c.reads := by
  rw [reads_iff hfilters]
  constructor
  · rintro ⟨s', hname, h⟩
    obtain rfl := Source.name_inj hname
    exact h
  · intro h
    exact ⟨s, rfl, h⟩

theorem makes_iff {j : Nat} {pad : String} :
    g.Makes j pad ↔ ∃ c, Stands t config j c ∧ c.makes.text = pad := by
  simp only [Graph.Makes, filter_iff hfilters]
  constructor
  · rintro ⟨f, ⟨c, hc, rfl⟩, hpad⟩
    rw [makes_text] at hpad
    exact ⟨c, hc, hpad⟩
  · rintro ⟨c, hc, hpad⟩
    exact ⟨_, ⟨c, hc, rfl⟩, by rw [makes_text]; exact hpad⟩

theorem reads_stream_iff {i j : Nat} :
    g.Reads j (stream i) ↔
      i < t.segments.length + (bedsOf t.beds config).length + t.effects.length ∧
        j = if i < t.segments.length then i else i + 1 := by
  refine (reads_name_iff (s := .input i) hfilters).trans ⟨?_, fun h => ?_⟩
  · rintro ⟨c, hc, hmem⟩
    exact (hc.input_mem_reads_iff i).mp hmem
  · have hj : j ≤ lastPlace t config := by
      unfold lastPlace
      obtain ⟨hi, rfl⟩ := h
      split <;> omega
    obtain ⟨c, hc⟩ := exists_stands hj
    exact ⟨c, hc, (hc.input_mem_reads_iff i).mpr h⟩

/-- What the `i`th chain makes has one reader, and that comes later. -/
theorem reads_label_iff {i j : Nat} {c : Chain} (hc : Stands t config i c) :
    g.Reads j c.makes.text ↔
      i < lastPlace t config ∧
        j = if i < t.segments.length then t.segments.length else lastPlace t config := by
  refine (reads_name_iff (s := .label c.makes) hfilters).trans ⟨?_, fun h => ?_⟩
  · rintro ⟨d, hd, hmem⟩
    obtain ⟨i', c', hc', hmakes, h⟩ := (hd.label_mem_reads_iff _).mp hmem
    obtain rfl := hc'.eq_of_makes hc hmakes
    exact h
  · have hj : j ≤ lastPlace t config := by
      unfold lastPlace at h ⊢
      obtain ⟨hi, rfl⟩ := h
      split <;> omega
    obtain ⟨d, hd⟩ := exists_stands hj
    exact ⟨d, hd, (hd.label_mem_reads_iff _).mpr ⟨i, c, hc, rfl, h⟩⟩

theorem map_makes_filters :
    g.filters.map makes =
      ((List.range t.segments.length).map Label.segment ++
        (summands (bedsOf t.beds config) t.effects.length ++ [Label.total])).map Label.text := by
  rw [← makes_chainsOf, hfilters, List.map_map, List.map_map]
  exact List.map_congr_left fun c _ => makes_text c

theorem take_makes_filters :
    (g.filters.take t.segments.length).map makes =
      ((List.range t.segments.length).map Label.segment).map Label.text := by
  rw [List.map_take, map_makes_filters hfilters, List.map_append]
  exact List.take_left' (by simp)

theorem drop_makes_filters :
    ((g.filters.drop t.segments.length).dropLast).map makes =
      (summands (bedsOf t.beds config) t.effects.length).map Label.text := by
  rw [List.map_dropLast, List.map_drop, map_makes_filters hfilters, List.map_append,
    List.drop_left' (by simp), List.map_append]
  exact List.dropLast_concat

theorem consumed_of_makes {i : Nat} {pad : String} (hmakes : g.Makes i pad)
    (hne : pad ≠ Label.total.text) : ∃ j, i < j ∧ ∀ j', g.Reads j' pad ↔ j' = j := by
  obtain ⟨c, hc, rfl⟩ := (makes_iff hfilters).mp hmakes
  have hle : i ≤ lastPlace t config := by
    have hlt := (List.getElem?_eq_some_iff.mp (stands_iff.mpr hc)).1
    rw [length_chainsOf] at hlt
    exact Nat.le_of_lt_succ hlt
  have hi : i < lastPlace t config := by
    refine Nat.lt_of_le_of_ne hle fun hlast => hne ?_
    subst hlast
    rw [hc.unique .total]
    rfl
  refine ⟨if i < t.segments.length then t.segments.length else lastPlace t config, ?_, ?_⟩
  · split <;> assumption
  · intro j'
    rw [reads_label_iff hfilters hc, and_iff_right hi]

theorem supplied_of_reads {j : Nat} {pad : String} (h : g.Reads j pad) :
    (∃ i, pad = stream i) ∨ ∃ i < j, g.Makes i pad := by
  obtain ⟨s, rfl, d, hd, hs⟩ := (reads_iff hfilters).mp h
  cases s with
  | input i => exact .inl ⟨i, rfl⟩
  | label l =>
      obtain ⟨i, c, hc, rfl, hi, rfl⟩ := (hd.label_mem_reads_iff l).mp hs
      refine .inr ⟨i, ?_, (makes_iff hfilters).mpr ⟨c, hc, rfl⟩⟩
      split <;> assumption

/-- The filter that strings the segments together has their labels before it, as many as it says. -/
theorem concat_filter :
    ∃ labels, labels = (g.filters.take t.segments.length).map makes ∧
      labels.length = t.segments.length ∧
      g.filters[t.segments.length]? =
        some (String.join (labels.map bracket) ++ ("concat=n=" ++ Numeral.natText labels.length ++
          ":v=0:a=1,volume=" ++ Numeral.text config.narrationGainDb ++ "dB") ++
            bracket "narr") := by
  have hlabels := take_makes_filters hfilters
  have hcount : ((g.filters.take t.segments.length).map makes).length = t.segments.length := by
    rw [hlabels, List.length_map, List.length_map, List.length_range]
  have hbody : (narrationChain t.segments.length config.narrationGainDb).body =
      "concat=n=" ++ Numeral.natText t.segments.length ++ ":v=0:a=1,volume=" ++
        Numeral.text config.narrationGainDb ++ "dB" := by
    rw [← String.toList_inj]
    simp [narrationChain, Chain.body, Filter.text]
  refine ⟨_, rfl, hcount, (filter_iff hfilters).mpr ⟨_, .narration, ?_⟩⟩
  rw [hcount, hlabels, Chain.text_eq, narrationChain_reads, map_name_label, hbody]
  rfl

/-- The filter that adds up has all labels from there on before it, as many as it says. -/
theorem sum_filter :
    ∃ labels, labels = ((g.filters.drop t.segments.length).dropLast).map makes ∧
      labels.length = 1 + (bedFiles t.beds).length + t.effects.length ∧
      g.filters.getLast? =
        some (String.join (labels.map bracket) ++ ("amix=inputs=" ++
          Numeral.natText labels.length ++ ":duration=longest:normalize=0") ++
            bracket Label.total.text) := by
  have hlabels := drop_makes_filters hfilters
  have hcount : (((g.filters.drop t.segments.length).dropLast).map makes).length =
      (summands (bedsOf t.beds config) t.effects.length).length := by
    rw [hlabels, List.length_map]
  have hlast : g.filters.getLast? = g.filters[lastPlace t config]? := by
    rw [List.getLast?_eq_getElem?, hfilters, List.length_map, length_chainsOf]
    rfl
  have hreads : (totalChain (summands (bedsOf t.beds config) t.effects.length)).reads =
      (summands (bedsOf t.beds config) t.effects.length).map .label := rfl
  have hbody : (totalChain (summands (bedsOf t.beds config) t.effects.length)).body =
      "amix=inputs=" ++ Numeral.natText (summands (bedsOf t.beds config) t.effects.length).length ++
        ":duration=longest:normalize=0" := by
    simp [totalChain, Chain.body, Filter.text]
  refine ⟨_, rfl, hcount.trans length_summands, ?_⟩
  rw [hlast]
  refine (filter_iff hfilters).mpr ⟨_, .total, ?_⟩
  rw [hcount, hlabels, Chain.text_eq, hreads, map_name_label, hbody]
  rfl

end Texts

theorem wellWired_of_compile (h : compile t config = .ok g) : WellWired t config g := by
  unfold compile at h
  split at h
  · cases h
  cases h
  have hlen := @length_inputsOf t config
  constructor
  case inputs => exact inputsOf_eq.trans map_file_itemsOf
  case items => exact inputsOf_eq
  case shaped =>
    intro f hf
    obtain ⟨c, -, rfl⟩ := List.mem_map.mp hf
    rw [reads_text, makes_text]
    exact ⟨c.body, c.bare_body, c.text_eq⟩
  case input_once =>
    intro i hi
    refine ⟨if i < t.segments.length then i else i + 1, fun j' => ?_⟩
    rw [reads_stream_iff rfl, and_iff_right (hlen ▸ hi)]
  case input_within =>
    intro i j hreads
    exact hlen ▸ ((reads_stream_iff rfl).mp hreads).1
  case input_own =>
    intro i item hitem f hf hreads
    obtain ⟨j, c, hc, rfl⟩ := (mem_filters_iff rfl).mp hf
    rw [reads_text] at hreads
    obtain ⟨s, hs, hname⟩ := List.mem_map.mp hreads
    obtain rfl : s = .input i := Source.name_inj hname
    obtain ⟨hsingle, hbody⟩ := hc.item_of_reads hs hitem
    rw [makes_text, c.text_eq, hsingle, hbody]
    simp [Source.name]
  case reads_nodup =>
    intro f hf
    obtain ⟨j, c, hc, rfl⟩ := (mem_filters_iff rfl).mp hf
    rw [reads_text]
    exact hc.reads_nodup.map fun _ _ => Source.name_inj
  case makes_nodup =>
    have hnodup := @makes_chainsOf_nodup t config
    rw [makes_chainsOf] at hnodup
    rw [map_makes_filters rfl]
    exact hnodup.map fun _ _ => Label.text_inj
  case consumed => exact fun i pad => consumed_of_makes rfl
  case supplied => exact fun j pad => supplied_of_reads rfl
  case output_last =>
    rw [← List.getLast?_map, map_makes_filters rfl, ← List.append_assoc, List.map_append]
    exact List.getLast?_concat
  case output_unread =>
    intro j hreads
    exact absurd ((reads_label_iff rfl .total).mp hreads).1 (Nat.lt_irrefl _)
  case concat => exact concat_filter rfl
  case amix => exact sum_filter rfl
  case output_label => rfl
  case output => rfl
  case duration => rfl

/-- Every timeline with a segment has a mix graph, and that is its linear graph. -/
theorem compile_wellWired (h : t.segments ≠ []) :
    ∃ g, compile t config = .ok g ∧ WellWired t config g := by
  have hok : ∃ g, compile t config = .ok g := by
    unfold compile
    rw [if_neg h]
    exact ⟨_, rfl⟩
  obtain ⟨g, hg⟩ := hok
  exact ⟨g, hg, wellWired_of_compile hg⟩

/-- A timeline with both beds and two effects. -/
def lullaby : Timeline where
  title := "Lullaby"
  segments := [⟨.speech "A", "/w/seg_0001_A.wav", 0, 1⟩, ⟨.silence, "/w/sil_0002.wav", 1, 1.5⟩]
  effects := [⟨"owl", "/sfx/owl.wav", 1⟩, ⟨"rain", "/sfx/rain.mp3", 0.25⟩]
  beds := ⟨some "/music/calm.mp3", some "/ambience/night.wav"⟩
  duration := 1.5

def lullabyConfig : ProducerConfig := ⟨"/assets", "/out", ⟨[]⟩, 0, -18, -22⟩

theorem compile_wellWired_lullaby :
    ∃ g, compile lullaby lullabyConfig = .ok g ∧ WellWired lullaby lullabyConfig g ∧
      g.inputs = ["/w/seg_0001_A.wav", "/w/sil_0002.wav", "/music/calm.mp3", "/ambience/night.wav",
        "/sfx/owl.wav", "/sfx/rain.mp3"] := by
  obtain ⟨g, hg, hwired⟩ := @compile_wellWired lullaby lullabyConfig nofun
  exact ⟨g, hg, hwired, hwired.inputs⟩

end StoryMix.Mix
