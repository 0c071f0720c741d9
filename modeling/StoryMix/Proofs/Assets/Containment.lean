import StoryMix.Proofs.Assets.Search
import StoryMix.Proofs.Path

/-!
# Where assets are looked for

An id is joined to the root of the assets as it is, so it can climb. What it comes to is a number of
directories that it climbs and the names that it goes down after that. From a directory below the root
the first climb only leads back to the root; every further one leaves it. Then the path lies within the
root just when it goes down again by the names that it has climbed away from: an id that does not climb
always stays within, and `..` right at the root never does, unless that is the root of the tree.
-/

namespace StoryMix

namespace Path

/-! ## Climbing and going down -/

/-- The names of a path with those that climb at its start, innermost name first. -/
def Climbs (stack : List Name) : Prop :=
  ∃ k down, (∀ name ∈ down, Plain name) ∧ stack = down ++ List.replicate k above

theorem Climbs.follow {stack : List Name} (h : Climbs stack) {name : Name} (hname : '/' ∉ name) :
    Climbs (Path.follow false stack name) := by
  obtain ⟨k, down, hdown, rfl⟩ := h
  by_cases hskip : name = [] ∨ name = ['.']
  · rw [follow_skipped hskip]
    exact ⟨k, down, hdown, rfl⟩
  by_cases habove : name = above
  · subst habove
    cases down with
    | cons top down =>
        obtain ⟨htop, hdown⟩ := List.forall_mem_cons.1 hdown
        exact ⟨k, down, hdown, follow_back htop.ne_above false _⟩
    | nil =>
        refine ⟨k + 1, [], nofun, ?_⟩
        cases k with
        | zero => rfl
        | succ k => rfl
  · obtain ⟨hnil, hdot⟩ := not_or.1 hskip
    rw [follow_entered hskip habove]
    exact ⟨k, name :: down, List.forall_mem_cons.2 ⟨⟨hname, hnil, hdot, habove⟩, hdown⟩, rfl⟩

theorem Climbs.foldl_follow {names stack : List Name} (hstack : Climbs stack)
    (h : ∀ name ∈ names, '/' ∉ name) : Climbs (names.foldl (Path.follow false) stack) := by
  induction names generalizing stack with
  | nil => exact hstack
  | cons name names ih =>
      obtain ⟨hname, hnames⟩ := List.forall_mem_cons.1 h
      exact ih (hstack.follow hname) hnames

/-- How many directories a path climbs, once what it takes back is left out. -/
def climb (path : String) : Nat :=
  ((collapsed false path.toList).takeWhile (· == above)).length

/-- The names that a path goes down after it has climbed. -/
def descent (path : String) : List Name :=
  (collapsed false path.toList).dropWhile (· == above)

theorem exists_collapsed_eq (path : String) :
    ∃ k down, collapsed false path.toList = List.replicate k above ++ down ∧
      ∀ name ∈ down, Plain name := by
  have hstart : Climbs [] := ⟨0, [], nofun, rfl⟩
  have hslashless : ∀ name ∈ Text.cut (· == '/') path.toList, '/' ∉ name :=
    fun _ => slashless_of_mem_cut
  obtain ⟨k, down, hdown, hstack⟩ := hstart.foldl_follow hslashless
  refine ⟨k, down.reverse, ?_, fun name hname => hdown name (List.mem_reverse.1 hname)⟩
  rw [collapsed, hstack, List.reverse_append, List.reverse_replicate]

/-- What is left of a path climbs first and then goes down. -/
theorem collapsed_eq (path : String) :
    collapsed false path.toList = List.replicate (climb path) above ++ descent path ∧
      ∀ name ∈ descent path, Plain name := by
  obtain ⟨k, down, hcollapsed, hdown⟩ := exists_collapsed_eq path
  have hclimb : ∀ name ∈ List.replicate k above, (name == above) = true := fun name hname =>
    beq_iff_eq.2 (List.eq_of_mem_replicate hname)
  rw [climb, descent, hcollapsed, List.takeWhile_append_of_pos hclimb,
    List.dropWhile_append_of_pos hclimb]
  cases down with
  | nil =>
      rw [List.takeWhile_nil, List.dropWhile_nil, List.append_nil, List.length_replicate]
      exact ⟨(List.append_nil _).symm, hdown⟩
  | cons name down =>
      have hname : ¬ (name == above) = true := fun heq =>
        (hdown name List.mem_cons_self).ne_above (beq_iff_eq.1 heq)
      rw [List.takeWhile_cons_of_neg (p := (· == above)) hname,
        List.dropWhile_cons_of_neg (p := (· == above)) hname, List.append_nil, List.length_replicate]
      exact ⟨rfl, hdown⟩

/-! ## Where a path leads from a directory -/

/-- The directory that a path leads to from the one along some names. -/
def leads (base : List Name) (path : String) : List Name :=
  base.take (base.length - climb path) ++ descent path

theorem foldl_follow_above {stack : List Name} (h : ∀ name ∈ stack, Plain name) (k : Nat) :
    (List.replicate k above).foldl (follow true) stack = stack.drop k := by
  induction k generalizing stack with
  | zero => rfl
  | succ k ih =>
      rw [List.replicate_succ, List.foldl_cons]
      cases stack with
      | nil => exact (@ih [] nofun).trans List.drop_nil
      | cons top below =>
          obtain ⟨htop, hbelow⟩ := List.forall_mem_cons.1 h
          rw [follow_back htop.ne_above]
          exact ih hbelow

theorem foldl_follow_cut {base : List Name} (h : ∀ name ∈ base, Plain name) (path : String) :
    (Text.cut (· == '/') path.toList).foldl (follow true) base.reverse =
      (leads base path).reverse := by
  obtain ⟨hcollapsed, hdescent⟩ := collapsed_eq path
  have hlead := (foldl_follow_collapsed (Text.cut (· == '/') path.toList) base.reverse).1
  change (collapsed false path.toList).foldl (follow true) base.reverse = _ at hlead
  have hreverse : ∀ name ∈ base.reverse, Plain name := fun name hname =>
    h name (List.mem_reverse.1 hname)
  rw [← hlead, hcollapsed, List.foldl_append, foldl_follow_above hreverse,
    foldl_follow_plain hdescent, leads, List.reverse_append, List.drop_reverse]

theorem plain_leads {base : List Name} (h : ∀ name ∈ base, Plain name) (path : String) :
    ∀ name ∈ leads base path, Plain name :=
  List.forall_mem_append.2
    ⟨fun name hname => h name (List.mem_of_mem_take hname), (collapsed_eq path).2⟩

theorem collapsed_concat_slash (absolute : Bool) (cs : List Char) :
    collapsed absolute (cs ++ ['/']) = collapsed absolute cs := by
  have hcut : Text.cut (· == '/') [] = [[]] := rfl
  rw [collapsed, collapsed, cut_slash, hcut, List.foldl_concat, follow_skipped (.inl rfl)]

theorem isAbsolute_normal {cs : List Char} (h : isAbsolute cs = true) :
    isAbsolute (normal cs) = true := by
  have hne : cs ≠ [] := by
    rintro rfl
    cases h
  unfold normal
  simp only [h, if_true, if_neg hne]
  split
  · rfl
  · rfl

/-- The shortest form of a path leads where the path itself leads. -/
theorem collapsed_normal {cs : List Char} (h : isAbsolute cs = true) :
    collapsed true (normal cs) = collapsed true cs := by
  have hne : cs ≠ [] := by
    rintro rfl
    cases h
  have hbody := collapsed_ofNames (plain_collapsed cs)
  unfold normal
  simp only [h, if_true, if_neg hne, List.singleton_append]
  split
  · rename_i hnil
    rw [hnil] at hbody
    exact hbody
  · rw [List.cons_append, collapsed_slash]
    split
    · rw [collapsed_concat_slash, hbody]
    · rw [List.append_nil, hbody]

theorem cut_joined {given : List (List Char)} (h : given ≠ []) :
    Text.cut (· == '/') (Text.joined ['/'] given) = given.flatMap (Text.cut (· == '/')) := by
  induction given with
  | nil => exact absurd rfl h
  | cons part given ih =>
      cases given with
      | nil => exact (List.append_nil _).symm
      | cons next given =>
          rw [Text.joined, List.append_assoc, List.singleton_append, cut_slash,
            ih (List.cons_ne_nil _ _), List.flatMap_cons (x := part)]
          exact List.cons_ne_nil _ _

theorem foldl_follow_parts {base : List Name} (h : ∀ name ∈ base, Plain name) (parts : List String) :
    (((parts.map String.toList).filter (· ≠ [])).flatMap (Text.cut (· == '/'))).foldl (follow true)
      base.reverse = (parts.foldl leads base).reverse := by
  induction parts generalizing base with
  | nil => rfl
  | cons part parts ih =>
      have hpart := ih (plain_leads h part)
      rw [← foldl_follow_cut h] at hpart
      rw [List.foldl_cons, ← hpart, List.map_cons]
      by_cases hempty : part.toList = []
      · -- An empty part is left out, and would be passed over if it were not.
        rw [List.filter_cons_of_neg (by simp [hempty]), hempty]
        rfl
      · rw [List.filter_cons_of_pos (by simp [hempty]), List.flatMap_cons, List.foldl_append]

/-- A joined path leads along its parts one after the other. -/
theorem resolvedNames_join_parts (cwd : String) {root : String} (h : isAbsolute root.toList = true)
    (parts : List String) :
    resolvedNames cwd (join (root :: parts)) = parts.foldl leads (collapsed true root.toList) := by
  have hne : root.toList ≠ [] := by
    intro hnil
    rw [hnil] at h
    cases h
  let given := (parts.map String.toList).filter (· ≠ [])
  have hgiven : ((root :: parts).map String.toList).filter (· ≠ []) = root.toList :: given :=
    List.filter_cons_of_pos (by simp [hne])
  have hjoin : (join (root :: parts)).toList = normal (Text.joined ['/'] (root.toList :: given)) := by
    unfold join
    dsimp only
    rw [hgiven, if_neg (List.cons_ne_nil _ _), String.toList_ofList]
  have habsolute : isAbsolute (Text.joined ['/'] (root.toList :: given)) = true := by
    cases given with
    | nil => exact h
    | cons next given =>
        change isAbsolute (root.toList ++ ['/'] ++ Text.joined ['/'] (next :: given)) = true
        rw [List.append_assoc, isAbsolute_append hne, h]
  have hroot : (Text.cut (· == '/') root.toList).foldl (follow true) [] =
      (collapsed true root.toList).reverse :=
    (List.reverse_reverse _).symm
  rw [resolvedNames_of_isAbsolute (hjoin ▸ isAbsolute_normal habsolute), hjoin,
    collapsed_normal habsolute, collapsed, cut_joined (List.cons_ne_nil _ _), List.flatMap_cons,
    List.foldl_append, hroot, foldl_follow_parts (plain_collapsed _), List.reverse_reverse]

end Path

namespace Assets

open Path (Name climb descent leads)

/-- Wherever relative paths begin, the path is the root or lies below it. -/
def Inside (root path : String) : Prop :=
  ∀ cwd, FileTree.within (Path.resolve cwd root) (Path.resolve cwd path) = true

/-- From so many directories above the root, the id goes down by the names that lead back to it. -/
def Returns (root id : String) (up : Nat) : Prop :=
  (Path.collapsed true root.toList).rtake up <+: descent id

instance (root id : String) (up : Nat) : Decidable (Returns root id up) :=
  inferInstanceAs (Decidable (_ <+: _))

variable {root : String}

theorem inside_iff (h : Path.isAbsolute root.toList = true) {path : String} {names : List Name}
    (hpath : ∀ cwd, Path.resolvedNames cwd path = names) :
    Inside root path ↔ Path.collapsed true root.toList <+: names := by
  have hnames : ∀ name ∈ names, Path.Plain name := hpath "" ▸ Path.plain_resolvedNames "" path
  have hwithin (cwd : String) :
      FileTree.within (Path.resolve cwd root) (Path.resolve cwd path) = true ↔
        Path.collapsed true root.toList <+: names := by
    rw [Path.resolve_eq, Path.resolve_eq, Path.resolvedNames_of_isAbsolute h, hpath cwd]
    exact Path.within_along (Path.plain_collapsed _) hnames
  exact ⟨fun hinside => (hwithin "").1 (hinside ""), fun hprefix cwd => (hwithin cwd).2 hprefix⟩

theorem prefix_take_append_iff {α : Type} {xs ys : List α} (n : Nat) :
    xs <+: xs.take n ++ ys ↔ xs.drop n <+: ys := by
  have h : xs.take n ++ xs.drop n <+: xs.take n ++ ys ↔ xs.drop n <+: ys :=
    List.prefix_append_right_inj _
  rwa [List.take_append_drop] at h

/-- The names that lead down from a directory are climbed first, and then those of the directory. -/
theorem prefix_leads_iff (base down : List Name) (id : String) :
    base <+: leads (base ++ down) id ↔ base.rtake (climb id - down.length) <+: descent id := by
  rw [leads, List.rtake, List.length_append, List.take_append]
  by_cases h : climb id ≤ down.length
  · have hall : base.length ≤ base.length + down.length - climb id := by omega
    have hnone : base.length - (climb id - down.length) = base.length := by omega
    rw [List.take_of_length_le hall, hnone, List.drop_length, List.append_assoc]
    exact iff_of_true (List.prefix_append _ _) List.nil_prefix
  · have hleft : base.length + down.length - climb id = base.length - (climb id - down.length) := by
      omega
    have hnone : base.length - (climb id - down.length) - base.length = 0 := by omega
    rw [hleft, hnone, List.take_zero, List.append_nil]
    exact prefix_take_append_iff _

theorem leads_searchDir (base : List Name) :
    ∀ dir ∈ searchDirs, leads base dir = base ++ descent dir := by
  have hdirs : ∀ dir ∈ searchDirs, climb dir = 0 := by decide
  intro dir hdir
  rw [leads, hdirs dir hdir, Nat.sub_zero, List.take_length]

theorem inside_join_iff (h : Path.isAbsolute root.toList = true) {dir : String}
    (hdir : dir ∈ searchDirs) (id : String) :
    Inside root (Path.join [root, dir, id]) ↔
      Returns root id (climb id - (descent dir).length) := by
  have hpath (cwd : String) : Path.resolvedNames cwd (Path.join [root, dir, id]) =
      leads (Path.collapsed true root.toList ++ descent dir) id := by
    rw [Path.resolvedNames_join_parts cwd h, List.foldl_cons, List.foldl_cons, List.foldl_nil,
      leads_searchDir _ dir hdir]
  rw [inside_iff h hpath, prefix_leads_iff]
  rfl

theorem returns_zero (root id : String) : Returns root id 0 := by
  rw [Returns, List.rtake_zero]
  exact List.nil_prefix

/-- An asset is found at one of the paths that are searched, and there is something at it. -/
theorem of_find_eq_ok {id path : String} {s s' : Studio} (h : find root id s = .ok path s') :
    path ∈ searchPaths root id ∧ s.present path = true := by
  cases hfound : (searchPaths root id).find? s.present with
  | none => cases (find_of_none hfound).symm.trans h
  | some found =>
      obtain ⟨log, hfind⟩ := find_of_some hfound
      cases hfind.symm.trans h
      exact ⟨List.mem_of_find?_eq_some hfound, List.find?_some hfound⟩

/-- A path that is searched lies within the root just when the id goes back to where it has climbed
away from, the directory that is searched left aside. So all of them do just when the id goes back from
as far as it climbs and from one step less, and what is found is one of them. An id that does not climb
is found within the root only. -/
theorem contained_iff (h : Path.isAbsolute root.toList = true) (id : String) :
    ((∀ path ∈ searchPaths root id, Inside root path) ↔
        Returns root id (climb id) ∧ Returns root id (climb id - 1)) ∧
      (∀ dir ∈ searchDirs, Inside root (Path.join [root, dir, id]) ↔
        Returns root id (climb id - (descent dir).length)) ∧
      (∀ s s' path, find root id s = .ok path s' → path ∈ searchPaths root id) ∧
      (climb id = 0 → ∀ s s' path, find root id s = .ok path s' → Inside root path) := by
  have hroot : (descent "").length = 0 := by decide
  have hbelow : ∀ dir ∈ ["sfx", "music", "ambience"], (descent dir).length = 1 := by decide
  have hall : (∀ path ∈ searchPaths root id, Inside root path) ↔
      Returns root id (climb id) ∧ Returns root id (climb id - 1) := by
    rw [searchPaths, List.forall_mem_map, searchDirs, List.forall_mem_cons,
      inside_join_iff h List.mem_cons_self, hroot, Nat.sub_zero]
    refine and_congr_right fun _ => ⟨fun hinside => ?_, fun hreturns dir hdir => ?_⟩
    · have hsfx := (inside_join_iff h (by decide) id).1 (hinside "sfx" (by decide))
      rwa [hbelow "sfx" (by decide)] at hsfx
    · rw [inside_join_iff h (List.mem_cons_of_mem _ hdir), hbelow dir hdir]
      exact hreturns
  refine ⟨hall, fun dir hdir => inside_join_iff h hdir id,
    fun s s' path hfind => (of_find_eq_ok hfind).1, fun hclimb s s' path hfind => ?_⟩
  have hreturns : Returns root id (climb id) ∧ Returns root id (climb id - 1) := by
    rw [hclimb]
    exact ⟨returns_zero root id, returns_zero root id⟩
  exact hall.2 hreturns path (of_find_eq_ok hfind).1

/-- Above the root of the assets there is the root of the tree, in an empty tree as well. -/
theorem contained_iff_above :
    searchPaths "/assets" ".." = ["/", "/assets", "/assets", "/assets"] ∧
      ¬ Inside "/assets" "/" ∧
      ∃ s', find "/assets" ".." (Studio.fresh .empty "/" ⟨[]⟩ []) = .ok "/" s' := by
  have hpaths : searchPaths "/assets" ".." = ["/", "/assets", "/assets", "/assets"] := by decide
  have habsolute : Path.isAbsolute "/assets".toList = true := by decide
  have habove : Inside "/assets" "/" ↔ Returns "/assets" ".." 1 :=
    (contained_iff habsolute "..").2.1 "" (by decide)
  exact ⟨hpaths, fun hinside => absurd (habove.1 hinside) (by decide), _, rfl⟩

end Assets

end StoryMix
