import StoryMix.Proofs.Numeral.Text
import StoryMix.Proofs.Path
import StoryMix.Render.Basic

/-!
# The names of files that are made

What a render makes has a name with an ending of its own: sounds end in `.wav`, a mix in `.mp3` and a
mix on its way in `.partial`, while a working directory has no point in its name. Titles and speakers
bring no slash into a name, so every name leads exactly one step down.
-/

namespace StoryMix

open StoryMix.Path (Plain)

theorem slashless_fileStem (s : String) : '/' ∉ (fileStem s).toList := by
  rw [fileStem, String.toList_ofList]
  intro h
  obtain ⟨c, -, hc⟩ := List.mem_map.mp h
  unfold stemChar at hc
  split at hc
  · rename_i hstem
    rw [hc] at hstem
    exact absurd hstem (by decide +kernel)
  · exact absurd hc (by decide)

theorem Numeral.Numeric.slashless {cs : List Char} (h : Numeric cs) : '/' ∉ cs := by
  intro hmem
  rcases h _ hmem with hd | hp
  · exact absurd hd (by decide)
  · exact absurd hp (by decide)

theorem Path.plain_of_length {name : Name} (h : '/' ∉ name) (hlen : 2 < name.length) :
    Plain name where
  slashless := h
  ne_nil := by
    rintro rfl
    exact absurd hlen (by decide)
  ne_dot := by
    rintro rfl
    exact absurd hlen (by decide)
  ne_above := by
    rintro rfl
    exact absurd hlen (by decide)

/-- Endings of which the one is not the other's tell names apart. -/
theorem ne_of_endings {name other ending ending' : List Char} (h : ending <:+ name)
    (h' : ending' <:+ other) (hlen : ending.length ≤ ending'.length)
    (hends : ¬ ending <:+ ending') : name ≠ other := by
  rintro rfl
  exact hends (List.suffix_of_suffix_length_le h h' hlen)

namespace Mix

theorem plain_outputFileName (title : String) : Plain (outputFileName title).toList := by
  have hstem := slashless_fileStem title
  refine Path.plain_of_length ?_ ?_
  · simp [outputFileName, hstem]
  · simp [outputFileName]

theorem suffix_outputFileName (title : String) :
    ".mp3".toList <:+ (outputFileName title).toList := by
  rw [outputFileName, String.toList_append]
  exact List.suffix_append _ _

end Mix

namespace Timeline

theorem numeric_segmentNumber (n : Nat) : Numeral.Numeric (segmentNumber n).toList := by
  rw [segmentNumber, String.toList_ofList]
  exact Numeral.numeric_append (Numeral.numeric_zeros _) (Numeral.numeric_digitsOf n)

def speechName (n : Nat) (speaker : String) : String :=
  "seg_" ++ segmentNumber n ++ "_" ++ fileStem speaker ++ ".wav"

def silenceName (n : Nat) : String :=
  "sil_" ++ segmentNumber n ++ ".wav"

theorem plain_speechName (n : Nat) (speaker : String) : Plain (speechName n speaker).toList := by
  have hnumber := (numeric_segmentNumber n).slashless
  have hstem := slashless_fileStem speaker
  refine Path.plain_of_length ?_ ?_
  · simp [speechName, hnumber, hstem]
  · simp [speechName]

theorem plain_silenceName (n : Nat) : Plain (silenceName n).toList := by
  have hnumber := (numeric_segmentNumber n).slashless
  refine Path.plain_of_length ?_ ?_
  · simp [silenceName, hnumber]
  · simp [silenceName]

theorem suffix_speechName (n : Nat) (speaker : String) :
    ".wav".toList <:+ (speechName n speaker).toList := by
  rw [speechName, String.toList_append]
  exact List.suffix_append _ _

theorem suffix_silenceName (n : Nat) : ".wav".toList <:+ (silenceName n).toList := by
  rw [silenceName, String.toList_append]
  exact List.suffix_append _ _

/-! ### What the number of a segment does to its name -/

theorem segmentNumber_inj {m n : Nat} (h : segmentNumber m = segmentNumber n) : m = n :=
  Numeral.padded_inj (String.ofList_inj.mp h)

theorem underscore_notMem_segmentNumber (n : Nat) : '_' ∉ (segmentNumber n).toList := by
  rw [segmentNumber, String.toList_ofList]
  exact fun h => absurd (Numeral.isDigit_of_mem_padded h) (by decide)

theorem toList_speechName (n : Nat) (speaker : String) :
    (speechName n speaker).toList =
      "seg_".toList ++ ((segmentNumber n).toList ++ '_' :: ((fileStem speaker).toList ++ ".wav".toList)) := by
  simp [speechName]

theorem toList_silenceName (n : Nat) :
    (silenceName n).toList = "sil_".toList ++ ((segmentNumber n).toList ++ ".wav".toList) := by
  simp [silenceName]

/-- The number stands before the first underscore after the opening, whoever the speaker is. -/
theorem number_eq_of_speechName {m n : Nat} {speaker other : String}
    (h : speechName m speaker = speechName n other) : m = n := by
  have split (k : Nat) (stem : List Char) :
      Text.splitFirst '_' ((segmentNumber k).toList ++ '_' :: stem) =
        some ((segmentNumber k).toList, stem) :=
    Text.splitFirst_eq_some.2 ⟨underscore_notMem_segmentNumber k, rfl⟩
  have hnames := congrArg String.toList h
  rw [toList_speechName, toList_speechName] at hnames
  have hsplit := congrArg (Text.splitFirst '_') (List.append_cancel_left hnames)
  rw [split, split, Option.some.injEq, Prod.mk.injEq] at hsplit
  exact segmentNumber_inj (String.toList_inj.1 hsplit.1)

theorem number_eq_of_silenceName {m n : Nat} (h : silenceName m = silenceName n) : m = n := by
  have hnames := congrArg String.toList h
  rw [toList_silenceName, toList_silenceName] at hnames
  exact segmentNumber_inj
    (String.toList_inj.1 (List.append_cancel_right (List.append_cancel_left hnames)))

theorem speechName_ne_silenceName (m n : Nat) (speaker : String) :
    speechName m speaker ≠ silenceName n := by
  intro h
  have hnames := congrArg String.toList h
  rw [toList_speechName, toList_silenceName] at hnames
  have hopens : "seg_".toList = "sil_".toList := (List.append_inj hnames (by decide)).1
  exact absurd hopens (by decide)

/-- A name that segment `n` can have. -/
inductive SegmentName (n : Nat) : String → Prop
  | speech (speaker : String) : SegmentName n (speechName n speaker)
  | silence : SegmentName n (silenceName n)

namespace SegmentName

variable {m n : Nat} {name : String}

theorem plain (h : SegmentName n name) : Plain name.toList := by
  cases h with
  | speech speaker => exact plain_speechName n speaker
  | silence => exact plain_silenceName n

theorem suffix (h : SegmentName n name) : ".wav".toList <:+ name.toList := by
  cases h with
  | speech speaker => exact suffix_speechName n speaker
  | silence => exact suffix_silenceName n

/-- A name tells the number of its segment. -/
theorem number_eq (h : SegmentName m name) (h' : SegmentName n name) : m = n := by
  cases h with
  | speech speaker =>
      generalize hname : speechName m speaker = name at h'
      cases h' with
      | speech other => exact number_eq_of_speechName hname
      | silence => exact absurd hname (speechName_ne_silenceName m n speaker)
  | silence =>
      generalize hname : silenceName m = name at h'
      cases h' with
      | speech other => exact absurd hname.symm (speechName_ne_silenceName n m other)
      | silence => exact number_eq_of_silenceName hname

theorem ne_outputFileName (h : SegmentName n name) (title : String) :
    name.toList ≠ (Mix.outputFileName title).toList :=
  ne_of_endings h.suffix (Mix.suffix_outputFileName title) (by decide) (by decide)

end SegmentName

end Timeline

namespace Render

theorem numeric_idOf (n : Nat) : Numeral.Numeric (idOf n).toList := by
  rw [idOf, String.toList_ofList]
  exact Numeral.numeric_append (Numeral.numeric_zeros _) (Numeral.numeric_digitsOf n)

/-- The name of the `n`th temporary directory, made for a render. -/
def workName (id : String) (n : Nat) : String :=
  "story-mixer-" ++ id ++ "-" ++ ("tmp" ++ Numeral.natText n)

theorem isDigit_of_mem_idOf {n : Nat} {c : Char} (h : c ∈ (idOf n).toList) : c.isDigit = true := by
  rw [idOf, String.toList_ofList] at h
  exact Numeral.isDigit_of_mem_padded h

theorem pointless_workName (k n : Nat) : '.' ∉ (workName (idOf k) n).toList := by
  have hid : '.' ∉ (idOf k).toList := fun h => absurd (isDigit_of_mem_idOf h) (by decide)
  have hnumber : '.' ∉ (Numeral.natText n).toList := by
    rw [Numeral.natText, String.toList_ofList]
    exact fun h => absurd (Nat.isDigit_of_mem_toDigits (by decide) (by decide) h) (by decide)
  simp [workName, hid, hnumber]

/-- The name that a finished file has while it is being copied. -/
def unfinishedName (fileName id : String) : String :=
  fileName ++ ("." ++ id ++ ".partial")

theorem suffix_unfinishedName (fileName id : String) :
    ".partial".toList <:+ (unfinishedName fileName id).toList := by
  rw [unfinishedName, String.toList_append, String.toList_append]
  exact (List.suffix_append _ _).trans (List.suffix_append _ _)

theorem unfinishedName_ne (fileName id title : String) :
    (unfinishedName fileName id).toList ≠ (Mix.outputFileName title).toList :=
  (ne_of_endings (Mix.suffix_outputFileName title) (suffix_unfinishedName fileName id)
    (by decide) (by decide)).symm

/-- The number in the name of an unfinished file can be read off its end. -/
theorem id_eq_of_unfinishedName {fileName fileName' id id' : String} (hid : '.' ∉ id.toList)
    (hid' : '.' ∉ id'.toList)
    (h : (unfinishedName fileName id).toList = (unfinishedName fileName' id').toList) : id = id' := by
  have hends : fileName.toList ++ '.' :: id.toList ++ ".partial".toList =
      fileName'.toList ++ '.' :: id'.toList ++ ".partial".toList := by
    simpa [unfinishedName] using h
  have hnames := List.append_cancel_right hends
  have split (name id : List Char) (hid : '.' ∉ id) :
      Text.splitFirst '.' (name ++ '.' :: id).reverse = some (id.reverse, name.reverse) := by
    refine Text.splitFirst_eq_some.2 ⟨?_, ?_⟩
    · rwa [List.mem_reverse]
    · simp
  have hreversed := split fileName.toList id.toList hid
  rw [hnames, split _ _ hid'] at hreversed
  have hids : id'.toList.reverse = id.toList.reverse := congrArg Prod.fst (Option.some.inj hreversed)
  exact (String.toList_inj.1 (List.reverse_inj.1 hids)).symm

section Names

variable {id : String} (hid : '/' ∉ id.toList)

include hid

theorem plain_workName (n : Nat) : Plain (workName id n).toList := by
  have hnumber := (Numeral.numeric_natText n).slashless
  refine Path.plain_of_length ?_ ?_
  · simp [workName, hnumber, hid]
  · simp [workName]

theorem plain_unfinishedName {fileName : String} (h : Plain fileName.toList) :
    Plain (unfinishedName fileName id).toList := by
  refine Path.plain_of_length ?_ ?_
  · simp [unfinishedName, hid, h.slashless]
  · simp [unfinishedName]
    omega

/-- The working directory is a name below the directory of temporary files. -/
theorem workDir_eq (n : Nat) :
    workDirStart id ++ "tmp" ++ Numeral.natText n = Path.join ["/tmp", workName id n] := by
  have hstart : Plain ("story-mixer-" ++ id ++ "-").toList := by
    refine Path.plain_of_length ?_ ?_
    · simp [hid]
    · simp
  rw [workDirStart, String.append_assoc, Path.join_append "/tmp" hstart (plain_workName hid n)]
  rfl

theorem unfinishedPath_eq (outDir : String) {fileName : String} (h : Plain fileName.toList) :
    unfinishedPath (Path.join [outDir, fileName]) id =
      Path.join [outDir, unfinishedName fileName id] := by
  have hname := Path.join_append outDir h (plain_unfinishedName hid h)
  rw [unfinishedPath, unfinishedName, ← hname]
  simp only [String.append_assoc]

end Names

end Render

end StoryMix
