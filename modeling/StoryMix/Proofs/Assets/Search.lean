import Mathlib.Logic.Basic
import StoryMix.Assets.Search
import StoryMix.Proofs.Studio.Answer
import StoryMix.Proofs.Studio.FileTree

/-!
# Which path an asset is found at

Four paths are tried in turn, and what counts is that there is something: a file, or a directory of that
name. `Finds` says what a search gives, once it is settled what is looked for. With files and
directories that is what is done (`finds_first`), so a file that comes later is hidden by a directory
that comes earlier, and by nothing else.
-/

namespace StoryMix

namespace Studio

variable {s : Studio} {path : String}

/-- There is a file at a path. A path with a slash at its end does not lead to a file. -/
def HasFile (s : Studio) (path : String) : Prop :=
  Path.endsInSlash path.toList = false ∧ ∃ text, s.tree.read? (s.resolve path) = some text

/-- There is a directory at a path: the root, or one that was made, or one with something below it. -/
def HasDir (s : Studio) (path : String) : Prop :=
  s.resolve path = "/" ∨ s.resolve path ∈ s.tree.dirs ∨
    ∃ other, Path.below (s.resolve path) other = true ∧
      ((∃ text, s.tree.read? other = some text) ∨ other ∈ s.tree.dirs)

theorem isDir_iff : s.tree.isDir (s.resolve path) = true ↔ s.HasDir path := by
  rw [← not_iff_not, Bool.not_eq_true, FileTree.isDir_eq_false_iff]
  constructor
  · rintro ⟨hroot, hself, hfiles, hdirs⟩ (h | h | ⟨other, hbelow, ⟨text, hread⟩ | hmade⟩)
    · exact hroot h
    · exact hself h
    · rw [hfiles other hbelow] at hread
      cases hread
    · rw [hdirs other hmade] at hbelow
      cases hbelow
  · intro h
    refine ⟨fun hroot => h (.inl hroot), fun hself => h (.inr (.inl hself)), fun other hbelow => ?_,
      fun other hmade => ?_⟩
    · cases hread : s.tree.read? other with
      | none => rfl
      | some text => exact absurd (.inr (.inr ⟨other, hbelow, .inl ⟨text, hread⟩⟩)) h
    · rw [Bool.eq_false_iff]
      exact fun hbelow => h (.inr (.inr ⟨other, hbelow, .inr hmade⟩))

theorem present_iff : s.present path = true ↔ s.HasFile path ∨ s.HasDir path := by
  unfold present FileTree.present
  rw [Bool.or_eq_true, Bool.and_eq_true, Bool.not_eq_true', Option.isSome_iff_exists, isDir_iff]
  exact or_comm

end Studio

namespace Assets

variable {root id : String} {s : Studio}

/-- A search for what is wanted: it gives the first of its paths with such a thing, and if there is
none it raises that the asset is missing and names all of them. Only the log is touched. -/
structure Finds (wanted : Studio → String → Prop) (root id : String) (s : Studio) : Prop where
  first : ∀ before path after, searchPaths root id = before ++ path :: after →
    (∀ other ∈ before, ¬ wanted s other) → wanted s path →
    ∃ log, find root id s = .ok path { s with log := log }
  missing : (∀ path ∈ searchPaths root id, ¬ wanted s path) →
    find root id s = .error (.failure (.assetResolution id (searchPaths root id))) s

theorem find_of_some {path : String} (h : (searchPaths root id).find? s.present = some path) :
    ∃ log, find root id s = .ok path { s with log := log } := by
  unfold find
  rw [Action.bind_of_ok (show (get : Action Studio) s = .ok s s from rfl), h]
  exact ⟨_, rfl⟩

theorem find_of_none (h : (searchPaths root id).find? s.present = none) :
    find root id s = .error (.failure (.assetResolution id (searchPaths root id))) s := by
  unfold find
  rw [Action.bind_of_ok (show (get : Action Studio) s = .ok s s from rfl), h]
  rfl

theorem finds_present (root id : String) (s : Studio) :
    Finds (fun s path => s.present path = true) root id s where
  first before path after hpaths hbefore hpath := by
    refine find_of_some (List.find?_eq_some_iff_append.2 ⟨hpath, before, after, hpaths, ?_⟩)
    exact fun other hother => by simpa using hbefore other hother
  missing hnone := find_of_none (List.find?_eq_none.2 hnone)

/-- What is wanted may be said in another way. -/
theorem Finds.congr {wanted wanted' : Studio → String → Prop} (h : Finds wanted root id s)
    (hsame : ∀ path ∈ searchPaths root id, wanted' s path ↔ wanted s path) :
    Finds wanted' root id s where
  first before path after hpaths hbefore hpath := by
    have hmem : ∀ other ∈ before ++ path :: after, wanted' s other ↔ wanted s other := hpaths ▸ hsame
    refine h.first before path after hpaths (fun other hother => ?_) ((hmem path (by simp)).1 hpath)
    exact fun hwanted => hbefore other hother ((hmem other (by simp [hother])).2 hwanted)
  missing hnone := h.missing fun path hpath hwanted => hnone path hpath ((hsame path hpath).2 hwanted)

theorem searchPaths_eq (root id : String) :
    searchPaths root id = [Path.join [root, id], Path.join [root, "sfx", id],
      Path.join [root, "music", id], Path.join [root, "ambience", id]] := by
  have hbare : Path.join [root, "", id] = Path.join [root, id] := by
    unfold Path.join
    simp only [List.map_cons, List.filter_cons]
    rfl
  rw [← hbare]
  rfl

/-- A directory hides a file that is looked for later. -/
theorem find_eq_ok_iff {before after : List String} {path : String}
    (hpaths : searchPaths root id = before ++ path :: after)
    (hbefore : ∀ other ∈ before, ¬ s.HasFile other) (hpath : s.HasFile path) :
    (∃ s', find root id s = .ok path s') ↔ ∀ other ∈ before, ¬ s.HasDir other := by
  constructor
  · rintro ⟨s', hfind⟩ other hother hdir
    obtain ⟨found, hfound⟩ := Option.isSome_iff_exists.1
      (List.find?_isSome.2 ⟨other, hother, Studio.present_iff.2 (.inr hdir)⟩)
    have hearly : (searchPaths root id).find? s.present = some found := by
      rw [hpaths, List.find?_append, hfound, Option.some_or]
    obtain ⟨log, hother⟩ := find_of_some hearly
    rw [hfind] at hother
    cases hother
    exact hbefore path (List.mem_of_find?_eq_some hfound) hpath
  · intro hdirs
    obtain ⟨log, hfind⟩ := (finds_present root id s).first before path after hpaths
      (fun other hother hpresent =>
        (Studio.present_iff.1 hpresent).elim (hbefore other hother) (hdirs other hother))
      (Studio.present_iff.2 (.inl hpath))
    exact ⟨_, hfind⟩

/-- The first of the four paths at which there is a file or a directory is where the asset is found. So
the first of them with a file is found just when none before it is that of a directory, and if none of
the four is that of a directory, files alone count. -/
theorem finds_first (root id : String) (s : Studio) :
    searchPaths root id = [Path.join [root, id], Path.join [root, "sfx", id],
        Path.join [root, "music", id], Path.join [root, "ambience", id]] ∧
      Finds (fun s path => s.HasFile path ∨ s.HasDir path) root id s ∧
      (∀ before path after, searchPaths root id = before ++ path :: after →
        (∀ other ∈ before, ¬ s.HasFile other) → s.HasFile path →
        ((∃ s', find root id s = .ok path s') ↔ ∀ other ∈ before, ¬ s.HasDir other)) ∧
      ((∀ path ∈ searchPaths root id, ¬ s.HasDir path) → Finds Studio.HasFile root id s) := by
  have hpresent := finds_present root id s
  refine ⟨searchPaths_eq root id, hpresent.congr fun path _ => Studio.present_iff.symm,
    fun before path after hpaths hbefore hpath => find_eq_ok_iff hpaths hbefore hpath, fun hdirs => ?_⟩
  refine hpresent.congr fun path hpath => ?_
  rw [Studio.present_iff, or_iff_left (hdirs path hpath)]

/-- A studio with these directories, in which the bell is a file among the sound effects. -/
def belfry (dirs : List String) : Studio :=
  .fresh (.ofLists [("/assets/sfx/bell", "ding")] dirs) "/" ⟨[]⟩ []

theorem searchPaths_bell : searchPaths "/assets" "bell" =
    ["/assets/bell"] ++ "/assets/sfx/bell" :: ["/assets/music/bell", "/assets/ambience/bell"] := by
  decide

theorem hasFile_belfry (dirs : List String) : (belfry dirs).HasFile "/assets/sfx/bell" :=
  ⟨by decide, "ding", FileTree.read?_ofLists ..⟩

theorem not_hasFile_belfry (dirs : List String) :
    ∀ other ∈ ["/assets/bell"], ¬ (belfry dirs).HasFile other := by
  intro other hother
  obtain rfl := List.mem_singleton.1 hother
  rintro ⟨-, text, hread⟩
  cases (FileTree.read?_ofLists [("/assets/sfx/bell", "ding")] dirs "/assets/bell").symm.trans hread

theorem finds_first_belfry :
    (∀ path ∈ searchPaths "/assets" "bell", ¬ (belfry []).HasDir path) ∧
      ∃ s', find "/assets" "bell" (belfry []) = .ok "/assets/sfx/bell" s' := by
  have hdirs : ∀ path ∈ searchPaths "/assets" "bell", ¬ (belfry []).HasDir path := by
    intro path hpath
    rw [← Studio.isDir_iff]
    exact (by decide : ∀ path ∈ searchPaths "/assets" "bell",
      ¬ (belfry []).tree.isDir ((belfry []).resolve path) = true) path hpath
  obtain ⟨log, hfind⟩ := ((finds_first "/assets" "bell" (belfry [])).2.2.2 hdirs).first
    _ _ _ searchPaths_bell (not_hasFile_belfry []) (hasFile_belfry [])
  exact ⟨hdirs, _, hfind⟩

/-- It is not files alone that are looked for: with a directory of its name above it, that is found and
the bell is not. -/
theorem belfry_not_finds_file :
    (belfry ["/assets/bell"]).HasFile "/assets/sfx/bell" ∧
      (belfry ["/assets/bell"]).HasDir "/assets/bell" ∧
      (∃ s', find "/assets" "bell" (belfry ["/assets/bell"]) = .ok "/assets/bell" s') ∧
      ¬ Finds Studio.HasFile "/assets" "bell" (belfry ["/assets/bell"]) := by
  have hfound : ∃ s', find "/assets" "bell" (belfry ["/assets/bell"]) = .ok "/assets/bell" s' := ⟨_, rfl⟩
  refine ⟨hasFile_belfry _, .inr (.inl (by decide)), hfound, fun hfinds => ?_⟩
  obtain ⟨log, hbell⟩ := hfinds.first _ _ _ searchPaths_bell (not_hasFile_belfry _) (hasFile_belfry _)
  obtain ⟨s', hdir⟩ := hfound
  rw [hdir] at hbell
  exact absurd (EStateM.Result.ok.inj hbell).1 (by decide)

end Assets

end StoryMix
