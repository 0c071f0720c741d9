import StoryMix.Studio.FileTree

/-!
# Changes of a file tree

A tree is seen through the text at each path and through its directories; what the operations of a
render do is said of that view. A directory is vacant if there is nothing in it and not even itself,
and then no path in it is a directory (`isDir_of_vacant`).
-/

namespace StoryMix.FileTree

variable {t : FileTree}

/-! ## The view after a change -/

theorem read?_rename {source text : String} (h : t.read? source = some text) (target other : String) :
    (t.rename source target).read? other =
      if other = target then some text else if other = source then none else t.read? other := by
  rw [rename, h, read?_write, read?_erase]

/-- A move is seen in two places at most. -/
theorem read?_rename_other {source target other : String} (hsource : other ≠ source)
    (htarget : other ≠ target) : (t.rename source target).read? other = t.read? other := by
  cases h : t.read? source with
  | none => rw [rename, h]
  | some text => rw [read?_rename h, if_neg htarget, if_neg hsource]

/-- A file that is written and then moved. -/
theorem read?_rename_write (t : FileTree) (source target text other : String) :
    ((t.write source text).rename source target).read? other =
      if other = target then some text else if other = source then none else t.read? other := by
  have hsource : (t.write source text).read? source = some text := by
    rw [read?_write, if_pos rfl]
  rw [read?_rename hsource, read?_write]
  split
  · rfl
  · split <;> rfl

theorem mem_dirs_addDir {path d : String} : d ∈ (t.addDir path).dirs ↔ d = path ∨ d ∈ t.dirs := by
  unfold addDir
  split
  · rename_i hmem
    have hpath : path ∈ t.dirs := by simpa using hmem
    constructor
    · exact .inr
    · rintro (rfl | hd)
      · exact hpath
      · exact hd
  · exact List.mem_cons

theorem mem_dirs_remove {path d : String} :
    d ∈ (t.remove path).dirs ↔ d ∈ t.dirs ∧ within path d = false := by
  rw [remove, List.mem_filter, Bool.not_eq_true']

/-! ## Vacant directories -/

/-- Nothing is in the directory, and it is not there itself. -/
def Vacant (t : FileTree) (dir : String) : Prop :=
  ∀ path, within dir path = true → t.read? path = none ∧ path ∉ t.dirs

theorem within_iff {dir path : String} :
    within dir path = true ↔ path = dir ∨ Path.below dir path = true := by
  rw [within, Bool.or_eq_true, beq_iff_eq]

theorem within_self (path : String) : within path path = true :=
  within_iff.2 (.inl rfl)

theorem within_of_below {dir path : String} (h : Path.below dir path = true) : within dir path = true :=
  within_iff.2 (.inr h)

theorem exists_mem_of_read? {path text : String} (h : t.read? path = some text) :
    (path, text) ∈ t.files := by
  unfold read? at h
  obtain ⟨before, after, hfiles, -⟩ := List.lookup_eq_some_iff.mp h
  rw [hfiles]
  exact List.mem_append_right _ (List.mem_cons_self ..)

theorem read?_ne_none {file : String × String} (h : file ∈ t.files) : t.read? file.1 ≠ none := by
  unfold read?
  rw [Ne, List.lookup_eq_none_iff]
  intro hnone
  simpa using hnone file h

/-- A directory is the root, or was made, or has something below it. -/
theorem isDir_eq_false_iff {path : String} :
    t.isDir path = false ↔
      path ≠ "/" ∧ path ∉ t.dirs ∧ (∀ other, Path.below path other = true → t.read? other = none) ∧
        ∀ d ∈ t.dirs, Path.below path d = false := by
  unfold isDir
  simp only [Bool.or_eq_false_iff, List.any_eq_false, List.contains_eq_mem, decide_eq_false_iff_not,
    beq_eq_false_iff_ne, Bool.not_eq_true, and_assoc]
  refine and_congr_right fun _ => and_congr_right fun _ => and_congr_left fun _ => ?_
  constructor
  · intro hfiles other hother
    cases hread : t.read? other with
    | none => rfl
    | some text =>
        have hbelow := hfiles _ (exists_mem_of_read? hread)
        rw [hother] at hbelow
        cases hbelow
  · intro hnone file hfile
    rw [Bool.eq_false_iff]
    exact fun hbelow => read?_ne_none hfile (hnone _ hbelow)

/-- What makes a path a directory: it is the root, or there is a file below it, or a directory that was
made is within it. -/
theorem isDir_iff {path : String} :
    t.isDir path = true ↔ path = "/" ∨ (∃ other, Path.below path other = true ∧ t.read? other ≠ none) ∨
      ∃ d ∈ t.dirs, within path d = true := by
  simp only [isDir, Bool.or_eq_true, beq_iff_eq, List.contains_eq_mem, decide_eq_true_eq,
    List.any_eq_true]
  constructor
  · rintro (((hroot | hself) | ⟨file, hfile, hbelow⟩) | ⟨d, hd, hbelow⟩)
    · exact .inl hroot
    · exact .inr (.inr ⟨path, hself, within_self path⟩)
    · exact .inr (.inl ⟨file.1, hbelow, read?_ne_none hfile⟩)
    · exact .inr (.inr ⟨d, hd, within_of_below hbelow⟩)
  · rintro (hroot | ⟨other, hbelow, hread⟩ | ⟨d, hd, hwithin⟩)
    · exact .inl (.inl (.inl hroot))
    · obtain ⟨text, hsome⟩ := Option.ne_none_iff_exists'.1 hread
      exact .inl (.inr ⟨_, exists_mem_of_read? hsome, hbelow⟩)
    · rcases within_iff.1 hwithin with rfl | hbelow
      · exact .inl (.inl (.inr hd))
      · exact .inr ⟨d, hd, hbelow⟩

/-- Whether a path is a directory is told by what lies at and below it. -/
theorem isDir_congr {t' : FileTree} {path : String}
    (hfiles : ∀ other, Path.below path other = true → (t'.read? other = none ↔ t.read? other = none))
    (hdirs : ∀ d, within path d = true → (d ∈ t'.dirs ↔ d ∈ t.dirs)) : t'.isDir path = t.isDir path := by
  rw [Bool.eq_iff_iff, isDir_iff, isDir_iff]
  refine or_congr_right (or_congr ?_ ?_)
  · exact exists_congr fun other => and_congr_right fun hbelow => not_congr (hfiles other hbelow)
  · constructor
    · rintro ⟨d, hd, hwithin⟩
      exact ⟨d, (hdirs d hwithin).1 hd, hwithin⟩
    · rintro ⟨d, hd, hwithin⟩
      exact ⟨d, (hdirs d hwithin).2 hd, hwithin⟩

theorem fileAbove_iff {path : String} :
    t.fileAbove path = true ↔ ∃ other, Path.below other path = true ∧ t.read? other ≠ none := by
  rw [fileAbove, List.any_eq_true]
  constructor
  · rintro ⟨file, hfile, hbelow⟩
    exact ⟨file.1, hbelow, read?_ne_none hfile⟩
  · rintro ⟨other, hbelow, hread⟩
    obtain ⟨text, hsome⟩ := Option.ne_none_iff_exists'.1 hread
    exact ⟨_, exists_mem_of_read? hsome, hbelow⟩

/-- Whether a file stands in the place of a directory above is told by what lies there. -/
theorem fileAbove_congr {t' : FileTree} {path : String}
    (hfiles : ∀ other, Path.below other path = true → (t'.read? other = none ↔ t.read? other = none)) :
    t'.fileAbove path = t.fileAbove path := by
  rw [Bool.eq_iff_iff, fileAbove_iff, fileAbove_iff]
  exact exists_congr fun other => and_congr_right fun hbelow => not_congr (hfiles other hbelow)

/-- A tree with no new file, and no new directory but one, has new directories only at this one and above
it. -/
theorem isDir_of_new {t' : FileTree} {dir path : String}
    (hfiles : ∀ other, t.read? other = none → t'.read? other = none)
    (hdirs : ∀ d ∈ t'.dirs, d ∈ t.dirs ∨ d = dir) (h : t'.isDir path = true) :
    t.isDir path = true ∨ (within path dir = true ∧ dir ∈ t'.dirs) := by
  rw [isDir_iff] at h ⊢
  rcases h with hroot | ⟨other, hbelow, hread⟩ | ⟨d, hd, hwithin⟩
  · exact .inl (.inl hroot)
  · exact .inl (.inr (.inl ⟨other, hbelow, mt (hfiles other) hread⟩))
  · rcases hdirs d hd with hold | rfl
    · exact .inl (.inr (.inr ⟨d, hold, hwithin⟩))
    · exact .inr ⟨hwithin, hd⟩

/-- Where nothing is found, there is nothing below. -/
theorem vacant_of_absent {dir : String} (hdir : t.isDir dir = false) (hfile : t.read? dir = none) :
    Vacant t dir := by
  obtain ⟨-, hself, hfiles, hdirs⟩ := isDir_eq_false_iff.1 hdir
  intro path hpath
  rcases within_iff.1 hpath with rfl | hbelow
  · exact ⟨hfile, hself⟩
  · refine ⟨hfiles path hbelow, fun hmem => ?_⟩
    rw [hdirs path hmem] at hbelow
    cases hbelow

/-- The beginning that all paths below a directory have. -/
theorem below_iff {dir path : String} :
    Path.below dir path = true ↔
      (if dir = "/" then ['/'] else dir.toList ++ ['/']) <+: path.toList ∧
        (if dir = "/" then ['/'] else dir.toList ++ ['/']) ≠ path.toList := by
  unfold Path.below
  rw [Bool.and_eq_true, List.isPrefixOf_iff_prefix, bne_iff_ne]

theorem below_trans {dir path other : String} (h : Path.below dir path = true)
    (h' : Path.below path other = true) : Path.below dir other = true := by
  rw [below_iff] at h h' ⊢
  obtain ⟨hpath, hne⟩ := h
  obtain ⟨hother, hne'⟩ := h'
  generalize (if dir = "/" then ['/'] else dir.toList ++ ['/']) = base at hpath hne ⊢
  have hstep : path.toList <+: other.toList := by
    refine List.IsPrefix.trans ?_ hother
    split
    · rename_i hroot
      rw [hroot]
      exact List.prefix_rfl
    · exact List.prefix_append _ _
  refine ⟨hpath.trans hstep, fun heq => hne ?_⟩
  rw [← heq] at hstep
  exact hpath.eq_of_length_le hstep.length_le

theorem within_trans {dir path other : String} (h : within dir path = true)
    (h' : within path other = true) : within dir other = true := by
  rcases within_iff.1 h with rfl | hbelow
  · exact h'
  · rcases within_iff.1 h' with rfl | hbelow'
    · exact h
    · exact within_of_below (below_trans hbelow hbelow')

theorem within_root {dir : String} (h : within dir "/" = true) : dir = "/" := by
  rcases within_iff.1 h with heq | hbelow
  · exact heq.symm
  · obtain ⟨hbegins, hne⟩ := below_iff.mp hbelow
    split at hbegins
    · assumption
    · rename_i hroot
      rw [if_neg hroot] at hne
      exact absurd (hbegins.eq_of_length_le (by simp)) hne

theorem isDir_of_vacant {dir path : String} (h : Vacant t dir) (hroot : dir ≠ "/")
    (hpath : within dir path = true) : t.isDir path = false := by
  have hbelow : ∀ other, Path.below path other = true → within dir other = true := by
    intro other hother
    exact within_trans hpath (within_of_below hother)
  refine isDir_eq_false_iff.2 ⟨?_, (h path hpath).2, fun other hlower => ?_, fun d hd => ?_⟩
  · rintro rfl
    exact hroot (within_root hpath)
  · exact (h other (hbelow other hlower)).1
  · rw [Bool.eq_false_iff]
    exact fun hlower => (h d (hbelow d hlower)).2 hd

/-! ## Files and directories -/

theorem not_below_self (path : String) : Path.below path path = false := by
  rw [Bool.eq_false_iff, Ne, below_iff]
  rintro ⟨hbegins, hne⟩
  split at hbegins
  · rename_i hroot
    rw [if_pos hroot, hroot] at hne
    exact hne rfl
  · have hlen := hbegins.length_le
    rw [List.length_append, List.length_singleton] at hlen
    omega

/-- A file that is written makes a directory of what is above it only. -/
theorem isDir_write {path other : String} (text : String) (h : Path.below other path = false) :
    (t.write path text).isDir other = t.isDir other := by
  refine isDir_congr (fun file hbelow => ?_) fun _ _ => Iff.rfl
  have hne : file ≠ path := by
    rintro rfl
    rw [h] at hbelow
    cases hbelow
  rw [read?_write, if_neg hne]

theorem isDir_addDir {dir path : String} (h : within path dir = false) :
    (t.addDir dir).isDir path = t.isDir path := by
  refine isDir_congr (fun _ _ => by rw [read?_addDir]) fun d hd => ?_
  have hne : d ≠ dir := by
    rintro rfl
    rw [h] at hd
    cases hd
  rw [mem_dirs_addDir, or_iff_right hne]

/-- The tree without a file. A directory is not removed. -/
def unlink (t : FileTree) (path : String) : FileTree :=
  if t.isDir path then t else t.remove path

theorem read?_unlink_other {path other : String} (h : other ≠ path) :
    (t.unlink path).read? other = t.read? other := by
  unfold unlink
  cases hdir : t.isDir path with
  | true => rw [if_pos rfl]
  | false =>
      rw [if_neg Bool.false_ne_true, read?_remove]
      split
      · rename_i hwithin
        have hbelow : Path.below path other = true :=
          (within_iff.1 hwithin).resolve_left h
        exact ((isDir_eq_false_iff.1 hdir).2.2.1 other hbelow).symm
      · rfl

end StoryMix.FileTree
