import Mathlib.Data.List.Induction
import StoryMix.Proofs.Text.Blank
import StoryMix.Studio.FileTree

/-!
# Names on a path

A path is the names that are followed along it. A name joined to a directory is one more name
(`resolvedNames_join`), whatever the directory's own text looks like, and lying within a directory is
beginning with its names (`within_along`). So two paths are told apart by their last names, and what
lies where is a matter of lists.
-/

namespace StoryMix.Path

/-- A name that leads down from a directory. -/
structure Plain (name : Name) : Prop where
  slashless : '/' ∉ name
  ne_nil : name ≠ []
  ne_dot : name ≠ ['.']
  ne_above : name ≠ above

/-- The path from the root along some names. -/
def along (names : List Name) : String :=
  String.ofList ('/' :: ofNames names)

theorem toList_along (names : List Name) : (along names).toList = '/' :: ofNames names :=
  String.toList_ofList

theorem resolve_eq (cwd path : String) : resolve cwd path = along (resolvedNames cwd path) :=
  rfl

/-! ## Cutting and joining at slashes -/

theorem cut_slash (xs ys : List Char) :
    Text.cut (· == '/') (xs ++ '/' :: ys) = Text.cut (· == '/') xs ++ Text.cut (· == '/') ys := by
  induction xs with
  | nil => rfl
  | cons c xs ih =>
      rw [List.cons_append, Text.cut, Text.cut, ih]
      split
      · rfl
      · cases h : Text.cut (· == '/') xs with
        | nil => exact absurd h (Text.cut_ne_nil _ _)
        | cons piece pieces => rfl

theorem cut_of_slashless {name : Name} (h : '/' ∉ name) : Text.cut (· == '/') name = [name] := by
  refine Text.cut_of_forall fun c hc => ?_
  rw [beq_eq_false_iff_ne]
  rintro rfl
  exact h hc

theorem slashless_of_mem_cut {cs : List Char} {name : Name} (h : name ∈ Text.cut (· == '/') cs) :
    '/' ∉ name :=
  fun hmem => by simpa using Text.of_mem_cut h _ hmem

theorem ofNames_cons {name : Name} {names : List Name} (h : names ≠ []) :
    ofNames (name :: names) = name ++ '/' :: ofNames names := by
  cases names with
  | nil => exact absurd rfl h
  | cons next names => simp [ofNames, Text.joined]

theorem ofNames_append {xs ys : List Name} (hxs : xs ≠ []) (hys : ys ≠ []) :
    ofNames (xs ++ ys) = ofNames xs ++ '/' :: ofNames ys := by
  induction xs with
  | nil => exact absurd rfl hxs
  | cons x xs ih =>
      rw [List.cons_append]
      cases xs with
      | nil => exact ofNames_cons hys
      | cons next xs =>
          have hne : next :: xs ≠ [] := List.cons_ne_nil _ _
          rw [ofNames_cons (List.append_ne_nil_of_left_ne_nil hne ys), ih hne, ofNames_cons hne]
          simp

theorem cut_ofNames {names : List Name} (hne : names ≠ []) (h : ∀ name ∈ names, '/' ∉ name) :
    Text.cut (· == '/') (ofNames names) = names := by
  induction names with
  | nil => exact absurd rfl hne
  | cons name names ih =>
      obtain ⟨hname, hnames⟩ := List.forall_mem_cons.mp h
      cases names with
      | nil => exact cut_of_slashless hname
      | cons next names =>
          rw [ofNames_cons (by simp), cut_slash, cut_of_slashless hname, ih (by simp) hnames]
          rfl

/-- What comes after the last name is part of it. -/
theorem ofNames_concat_append (names : List Name) (name suffix : Name) :
    ofNames (names ++ [name]) ++ suffix = ofNames (names ++ [name ++ suffix]) := by
  cases names with
  | nil => rfl
  | cons first names =>
      rw [ofNames_append (by simp) (by simp), ofNames_append (by simp) (by simp)]
      simp [ofNames, Text.joined]

/-! ## Following names -/

theorem follow_skipped {name : Name} (h : name = [] ∨ name = ['.']) (absolute : Bool)
    (stack : List Name) : follow absolute stack name = stack :=
  if_pos h

theorem follow_entered {name : Name} (h : ¬ (name = [] ∨ name = ['.'])) (habove : name ≠ above)
    (absolute : Bool) (stack : List Name) : follow absolute stack name = name :: stack := by
  unfold follow
  rw [if_neg h, if_neg habove]

theorem follow_back {top : Name} (h : top ≠ above) (absolute : Bool) (below : List Name) :
    follow absolute (top :: below) above = below := by
  unfold follow
  rw [if_neg (by decide), if_pos rfl]
  exact if_neg h

theorem follow_plain {absolute : Bool} {stack : List Name} {name : Name} (h : Plain name) :
    follow absolute stack name = name :: stack :=
  follow_entered (not_or.mpr ⟨h.ne_nil, h.ne_dot⟩) h.ne_above absolute stack

theorem foldl_follow_plain {absolute : Bool} {names : List Name} (h : ∀ name ∈ names, Plain name)
    (stack : List Name) : names.foldl (follow absolute) stack = names.reverse ++ stack := by
  induction names generalizing stack with
  | nil => rfl
  | cons name names ih =>
      obtain ⟨hname, hnames⟩ := List.forall_mem_cons.mp h
      rw [List.foldl_cons, follow_plain hname, ih hnames]
      simp

/-- From the root one only ever gets to plain names. -/
theorem plain_foldl_follow {names : List Name} (h : ∀ name ∈ names, '/' ∉ name) {stack : List Name}
    (hstack : ∀ name ∈ stack, Plain name) :
    ∀ name ∈ names.foldl (follow true) stack, Plain name := by
  induction names generalizing stack with
  | nil => exact hstack
  | cons name names ih =>
      obtain ⟨hname, hnames⟩ := List.forall_mem_cons.mp h
      refine ih hnames ?_
      unfold follow
      split
      · exact hstack
      split
      · split
        · exact nofun
        · rename_i top below
          have hbelow := (List.forall_mem_cons.mp hstack).2
          rw [if_neg (List.forall_mem_cons.mp hstack).1.ne_above]
          exact hbelow
      · rename_i hkept habove
        obtain ⟨hnil, hdot⟩ := not_or.mp hkept
        exact List.forall_mem_cons.mpr ⟨⟨hname, hnil, hdot, habove⟩, hstack⟩

theorem plain_collapsed (cs : List Char) : ∀ name ∈ collapsed true cs, Plain name := by
  intro name hname
  have hroot : ∀ name ∈ ([] : List Name), Plain name := fun _ h => absurd h List.not_mem_nil
  exact plain_foldl_follow (fun _ => slashless_of_mem_cut) hroot name (List.mem_reverse.mp hname)

theorem plain_resolvedNames (cwd path : String) : ∀ name ∈ resolvedNames cwd path, Plain name :=
  plain_collapsed _

theorem slashless_foldl_follow {absolute : Bool} {names stack : List Name}
    (h : ∀ name ∈ names, '/' ∉ name) (hstack : ∀ name ∈ stack, '/' ∉ name) :
    ∀ name ∈ names.foldl (follow absolute) stack, '/' ∉ name := by
  induction names generalizing stack with
  | nil => exact hstack
  | cons name names ih =>
      obtain ⟨hname, hnames⟩ := List.forall_mem_cons.mp h
      have habove : '/' ∉ above := by decide
      refine ih hnames ?_
      unfold follow
      split
      · exact hstack
      split
      · split
        · split
          · exact hstack
          · exact List.forall_mem_singleton.mpr habove
        · split
          · exact List.forall_mem_cons.mpr ⟨habove, hstack⟩
          · exact (List.forall_mem_cons.mp hstack).2
      · exact List.forall_mem_cons.mpr ⟨hname, hstack⟩

theorem slashless_collapsed (absolute : Bool) (cs : List Char) :
    ∀ name ∈ collapsed absolute cs, '/' ∉ name := by
  intro name hname
  have hroot : ∀ name ∈ ([] : List Name), '/' ∉ name := fun _ h => absurd h List.not_mem_nil
  exact slashless_foldl_follow (fun _ => slashless_of_mem_cut) hroot name
    (List.mem_reverse.mp hname)

theorem slashless_concat {names : List Name} {name : Name} (h : ∀ n ∈ names, '/' ∉ n)
    (hname : '/' ∉ name) : ∀ n ∈ names ++ [name], '/' ∉ n :=
  List.forall_mem_append.mpr ⟨h, List.forall_mem_singleton.mpr hname⟩

theorem isAbsolute_of_cut_ne_nil {cs : List Char} (h : ∀ piece ∈ Text.cut (· == '/') cs, piece ≠ []) :
    isAbsolute cs = false := by
  cases cs with
  | nil => rfl
  | cons c cs =>
      unfold isAbsolute
      rw [List.head?_cons, beq_eq_false_iff_ne]
      intro hc
      rw [Option.some.inj hc, Text.cut, if_pos (by decide)] at h
      exact h [] (List.mem_cons_self ..) rfl

/-- Every name leads somewhere, as those do that are left of a relative path. -/
def Kept (stack : List Name) : Prop :=
  ∀ name ∈ stack, ¬ (name = [] ∨ name = ['.'])

theorem Kept.follow {stack : List Name} (h : Kept stack) (name : Name) :
    Kept (follow false stack name) := by
  have habove : ¬ (above = [] ∨ above = ['.']) := by decide
  unfold Path.follow
  split
  · exact h
  split
  · split
    · exact List.forall_mem_singleton.mpr habove
    · split
      · exact List.forall_mem_cons.mpr ⟨habove, h⟩
      · exact (List.forall_mem_cons.mp h).2
  · exact List.forall_mem_cons.mpr ⟨‹_›, h⟩

/-- What a name does to a relative path it does to where the path leads; a name that `..` takes back
has been followed on both sides. -/
theorem foldl_follow_follow {stack : List Name} (h : Kept stack) (base : List Name) (name : Name) :
    (follow false stack name).reverse.foldl (follow true) base =
      follow true (stack.reverse.foldl (follow true) base) name := by
  by_cases hskip : name = [] ∨ name = ['.']
  · rw [follow_skipped hskip, follow_skipped hskip]
  by_cases habove : name = above
  · subst habove
    cases stack with
    | nil => rfl
    | cons top below =>
        by_cases htop : top = above
        · have hclimb : follow false (top :: below) above = above :: top :: below := by
            rw [htop]
            rfl
          rw [hclimb, List.reverse_cons (a := above), List.foldl_concat]
        · have hskip := (List.forall_mem_cons.mp h).1
          rw [follow_back htop, List.reverse_cons, List.foldl_concat, follow_entered hskip htop,
            follow_back htop]
  · rw [follow_entered hskip habove, List.reverse_cons, List.foldl_concat]

/-- What is left of a relative path leads where the path itself leads. -/
theorem foldl_follow_collapsed (names base : List Name) :
    ((names.foldl (follow false) []).reverse).foldl (follow true) base =
        names.foldl (follow true) base ∧ Kept (names.foldl (follow false) []) := by
  induction names using List.reverseRecOn with
  | nil => exact ⟨rfl, fun _ h => absurd h List.not_mem_nil⟩
  | append_singleton names name ih =>
      obtain ⟨hlead, hkept⟩ := ih
      rw [List.foldl_concat, List.foldl_concat, ← hlead]
      exact ⟨foldl_follow_follow hkept base name, hkept.follow name⟩

/-! ## A name joined to a directory -/

theorem isAbsolute_append {dir rest : List Char} (h : dir ≠ []) :
    isAbsolute (dir ++ rest) = isAbsolute dir := by
  cases dir with
  | nil => exact absurd rfl h
  | cons c dir => rfl

theorem collapsed_append {absolute : Bool} (dir : List Char) {name : Name} (h : Plain name) :
    collapsed absolute (dir ++ '/' :: name) = collapsed absolute dir ++ [name] := by
  unfold collapsed
  rw [cut_slash, cut_of_slashless h.slashless, List.foldl_concat, follow_plain h,
    List.reverse_cons]

theorem ofNames_concat_ne_nil (names : List Name) {name : Name} (h : name ≠ []) :
    ofNames (names ++ [name]) ≠ [] := by
  cases names with
  | nil => exact h
  | cons first names =>
      rw [ofNames_append (List.cons_ne_nil _ _) (List.cons_ne_nil _ _)]
      exact List.append_ne_nil_of_right_ne_nil _ (List.cons_ne_nil _ _)

theorem endsInSlash_append {name : Name} (h : Plain name) (before : List Char) :
    endsInSlash (before ++ name) = false := by
  unfold endsInSlash
  rw [List.getLast?_append_of_ne_nil _ h.ne_nil, beq_eq_false_iff_ne]
  exact fun hlast => h.slashless (List.mem_of_getLast? hlast)

theorem normal_eq {cs : List Char} (hne : cs ≠ []) (hend : endsInSlash cs = false)
    (hbody : ofNames (collapsed (isAbsolute cs) cs) ≠ []) :
    normal cs = (if isAbsolute cs then ['/'] else []) ++ ofNames (collapsed (isAbsolute cs) cs) := by
  unfold normal
  simp only [if_neg hne, if_neg hbody, hend, Bool.false_eq_true, if_false, List.append_nil]

/-- A joined path begins as the directory's does and goes along its names to the new one. -/
theorem toList_join (dir : String) {name : String} (h : Plain name.toList) :
    (join [dir, name]).toList =
      (if isAbsolute dir.toList then ['/'] else []) ++
        ofNames (collapsed (isAbsolute dir.toList) dir.toList ++ [name.toList]) := by
  have hname : name.toList ≠ [] := h.ne_nil
  unfold join
  dsimp only
  by_cases hdir : dir.toList = []
  · have hgiven : ([dir, name].map String.toList).filter (· ≠ []) = [name.toList] := by
      simp [hdir, hname]
    have hrelative : isAbsolute name.toList = false := by
      unfold isAbsolute
      rw [beq_eq_false_iff_ne]
      exact fun hhead => h.slashless (List.mem_of_head? hhead)
    have hnames : collapsed false name.toList = [name.toList] := by
      unfold collapsed
      rw [cut_of_slashless h.slashless, List.foldl_cons, follow_plain h]
      rfl
    rw [hgiven, if_neg (List.cons_ne_nil _ _), String.toList_ofList, hdir]
    change normal name.toList = _
    rw [normal_eq hname (endsInSlash_append h []) (by rw [hrelative, hnames]; exact hname),
      hrelative, hnames]
    rfl
  · have hgiven : ([dir, name].map String.toList).filter (· ≠ []) = [dir.toList, name.toList] := by
      simp [hdir, hname]
    have hjoined : Text.joined ['/'] [dir.toList, name.toList] = dir.toList ++ '/' :: name.toList := by
      simp [Text.joined]
    have habsolute : isAbsolute (dir.toList ++ '/' :: name.toList) = isAbsolute dir.toList :=
      isAbsolute_append hdir
    have hends : endsInSlash (dir.toList ++ '/' :: name.toList) = false := by
      rw [List.append_cons]
      exact endsInSlash_append h _
    have hbody := ofNames_concat_ne_nil (collapsed (isAbsolute dir.toList) dir.toList) hname
    rw [← collapsed_append _ h, ← habsolute] at hbody
    rw [hgiven, if_neg (List.cons_ne_nil _ _), String.toList_ofList, hjoined,
      normal_eq (List.append_ne_nil_of_left_ne_nil hdir _) hends hbody, habsolute, collapsed_append _ h]

theorem join_append (dir : String) {name suffix : String} (h : Plain name.toList)
    (h' : Plain (name ++ suffix).toList) :
    join [dir, name] ++ suffix = join [dir, name ++ suffix] := by
  rw [← String.toList_inj, String.toList_append, toList_join dir h, toList_join dir h',
    List.append_assoc, ofNames_concat_append, String.toList_append]

theorem collapsed_slash (absolute : Bool) (cs : List Char) :
    collapsed absolute ('/' :: cs) = collapsed absolute cs := by
  unfold collapsed
  rw [Text.cut, if_pos (by decide), List.foldl_cons]
  rfl

/-- A path that begins at the root says itself where it leads. -/
theorem resolvedNames_of_isAbsolute {path : String} (h : isAbsolute path.toList = true)
    (cwd : String) : resolvedNames cwd path = collapsed true path.toList := by
  rw [resolvedNames, if_pos h]

theorem resolvedNames_of_relative {path : String} (h : isAbsolute path.toList = false)
    (cwd : String) :
    resolvedNames cwd path =
      ((Text.cut (· == '/') path.toList).foldl (follow true)
        ((Text.cut (· == '/') cwd.toList).foldl (follow true) [])).reverse := by
  rw [resolvedNames, h, if_neg Bool.false_ne_true, collapsed, cut_slash, List.foldl_append]

theorem collapsed_ofNames {names : List Name} (h : ∀ name ∈ names, Plain name) :
    collapsed true (ofNames names) = names := by
  unfold collapsed
  cases names with
  | nil => rfl
  | cons name names =>
      rw [cut_ofNames (List.cons_ne_nil _ _) fun n hn => (h n hn).slashless,
        foldl_follow_plain h, List.append_nil, List.reverse_reverse]

theorem isAbsolute_resolve (cwd path : String) : isAbsolute (resolve cwd path).toList = true := by
  rw [resolve_eq, toList_along]
  rfl

/-- A resolved path leads to itself, from wherever it is followed. -/
theorem resolve_resolve (dir cwd path : String) : resolve dir (resolve cwd path) = resolve cwd path := by
  rw [resolve_eq dir, resolvedNames_of_isAbsolute (isAbsolute_resolve cwd path), resolve_eq cwd,
    toList_along, collapsed_slash, collapsed_ofNames (plain_resolvedNames cwd path)]

theorem resolve_ne_empty (cwd path : String) : resolve cwd path ≠ "" := by
  intro h
  have habsolute := isAbsolute_resolve cwd path
  rw [h] at habsolute
  cases habsolute

theorem resolvedNames_join (cwd dir : String) {name : String} (h : Plain name.toList) :
    resolvedNames cwd (join [dir, name]) = resolvedNames cwd dir ++ [name.toList] := by
  have htext := toList_join dir h
  cases habsolute : isAbsolute dir.toList with
  | true =>
      rw [habsolute, if_pos rfl, List.singleton_append] at htext
      have hnames : ∀ n ∈ collapsed true dir.toList ++ [name.toList], Plain n :=
        List.forall_mem_append.mpr ⟨plain_collapsed _, List.forall_mem_singleton.mpr h⟩
      rw [resolvedNames_of_isAbsolute habsolute, resolvedNames_of_isAbsolute (by rw [htext]; rfl),
        htext, collapsed_slash, collapsed_ofNames hnames]
  | false =>
      rw [habsolute, if_neg Bool.false_ne_true, List.nil_append] at htext
      obtain ⟨hlead, hkept⟩ := foldl_follow_collapsed (Text.cut (· == '/') dir.toList)
        ((Text.cut (· == '/') cwd.toList).foldl (follow true) [])
      have hnames := slashless_concat (slashless_collapsed false dir.toList) h.slashless
      have hcut := cut_ofNames (List.append_ne_nil_of_right_ne_nil _ (List.cons_ne_nil _ _)) hnames
      have hrelative : isAbsolute (join [dir, name]).toList = false := by
        rw [htext]
        refine isAbsolute_of_cut_ne_nil ?_
        rw [hcut]
        intro n hn
        rcases List.mem_append.mp hn with hn | hn
        · exact (not_or.mp (hkept n (List.mem_reverse.mp hn))).1
        · exact List.mem_singleton.mp hn ▸ h.ne_nil
      rw [resolvedNames_of_relative habsolute, resolvedNames_of_relative hrelative, htext,
        hcut, List.foldl_concat, follow_plain h, List.reverse_cons,
        collapsed, hlead]

/-! ## Lying within a directory -/

theorem ofNames_ne_nil {names : List Name} (hne : names ≠ []) (h : ∀ name ∈ names, Plain name) :
    ofNames names ≠ [] := by
  cases names with
  | nil => exact absurd rfl hne
  | cons name names =>
      intro hnil
      have hcut := cut_ofNames hne fun n hn => (h n hn).slashless
      rw [hnil] at hcut
      exact (h name (List.mem_cons_self ..)).ne_nil (List.cons.inj hcut).1.symm

theorem along_inj {xs ys : List Name} (hx : ∀ name ∈ xs, Plain name) (hy : ∀ name ∈ ys, Plain name)
    (h : along xs = along ys) : xs = ys := by
  have hnames : ofNames xs = ofNames ys := (List.cons.inj (String.ofList_inj.mp h)).2
  rw [← collapsed_ofNames hx, ← collapsed_ofNames hy, hnames]

/-- Paths with different last names lead to different places. -/
theorem last_eq_of_resolve {cwd path other : String} {xs ys : List Name} {m n : Name}
    (hpath : resolvedNames cwd path = xs ++ [m]) (hother : resolvedNames cwd other = ys ++ [n])
    (h : resolve cwd path = resolve cwd other) : m = n := by
  have hnames := along_inj (plain_resolvedNames cwd path) (plain_resolvedNames cwd other) h
  have hlast := congrArg List.getLast? hnames
  rw [hpath, hother, List.getLast?_concat, List.getLast?_concat] at hlast
  exact Option.some.inj hlast

/-- A text that goes on after the names of a directory is that of its names and more. -/
theorem ofNames_slash_iff {dir path : List Name} (hne : dir ≠ []) (hdir : ∀ name ∈ dir, Plain name)
    (hpath : ∀ name ∈ path, Plain name) :
    (∃ rest, ofNames dir ++ '/' :: rest = ofNames path) ↔ ∃ rest, rest ≠ [] ∧ path = dir ++ rest := by
  constructor
  · rintro ⟨rest, hrest⟩
    have hpathne : path ≠ [] := by
      rintro rfl
      exact absurd hrest (by simp [ofNames, Text.joined])
    have hcut := congrArg (Text.cut (· == '/')) hrest
    rw [cut_slash, cut_ofNames hne fun n hn => (hdir n hn).slashless,
      cut_ofNames hpathne fun n hn => (hpath n hn).slashless] at hcut
    exact ⟨_, Text.cut_ne_nil _ rest, hcut.symm⟩
  · rintro ⟨rest, hrest, rfl⟩
    exact ⟨ofNames rest, (ofNames_append hne hrest).symm⟩

/-- Below a directory lies what has its names first and then more. -/
theorem below_along {dir path : List Name} (hdir : ∀ name ∈ dir, Plain name)
    (hpath : ∀ name ∈ path, Plain name) :
    below (along dir) (along path) = true ↔ ∃ rest, rest ≠ [] ∧ path = dir ++ rest := by
  unfold below
  rw [Bool.and_eq_true, List.isPrefixOf_iff_prefix, bne_iff_ne, toList_along, toList_along]
  by_cases hroot : dir = []
  · subst hroot
    have hslash : along [] = "/" := rfl
    rw [hslash, if_pos rfl]
    constructor
    · rintro ⟨-, hne⟩
      refine ⟨path, ?_, rfl⟩
      rintro rfl
      exact hne rfl
    · rintro ⟨_, hne, rfl⟩
      refine ⟨⟨ofNames path, rfl⟩, fun heq => ?_⟩
      exact ofNames_ne_nil hne hpath (List.cons.inj heq).2.symm
  · have hslash : along dir ≠ "/" := by
      intro h
      exact ofNames_ne_nil hroot hdir (List.cons.inj (String.ofList_inj.mp h)).2
    rw [if_neg hslash]
    constructor
    · rintro ⟨⟨rest, hrest⟩, -⟩
      exact (ofNames_slash_iff hroot hdir hpath).mp ⟨rest, by simpa using hrest⟩
    · rintro ⟨rest, hrest, rfl⟩
      have hmore := ofNames_ne_nil hrest (List.forall_mem_append.mp hpath).2
      rw [ofNames_append hroot hrest]
      refine ⟨⟨ofNames rest, by simp⟩, fun heq => hmore ?_⟩
      have hlen := congrArg List.length heq
      simp only [List.length_append, List.length_cons, List.length_nil] at hlen
      exact List.eq_nil_of_length_eq_zero (by omega)

theorem within_along {dir path : List Name} (hdir : ∀ name ∈ dir, Plain name)
    (hpath : ∀ name ∈ path, Plain name) :
    FileTree.within (along dir) (along path) = true ↔ dir <+: path := by
  unfold FileTree.within
  rw [Bool.or_eq_true, beq_iff_eq, below_along hdir hpath]
  constructor
  · rintro (heq | ⟨rest, -, rfl⟩)
    · obtain rfl := along_inj hpath hdir heq
      exact List.prefix_rfl
    · exact List.prefix_append dir rest
  · rintro ⟨rest, rfl⟩
    by_cases hrest : rest = []
    · left
      rw [hrest, List.append_nil]
    · exact .inr ⟨rest, hrest, rfl⟩

/-- What lies within a directory, however it is written, begins with the names of the directory. -/
theorem prefix_of_within {dir : List Name} (hdir : ∀ name ∈ dir, Plain name) {path : String}
    (h : FileTree.within (along dir) path = true) : dir <+: Text.cut (· == '/') path.toList.tail := by
  by_cases hroot : dir = []
  · rw [hroot]
    exact List.nil_prefix
  have hcut : Text.cut (· == '/') (ofNames dir) = dir :=
    cut_ofNames hroot fun name hname => (hdir name hname).slashless
  rcases Bool.or_eq_true_iff.1 h with heq | hbelow
  · have hnames : dir = Text.cut (· == '/') path.toList.tail := by
      rw [eq_of_beq heq, toList_along, List.tail_cons, hcut]
    exact hnames ▸ List.prefix_rfl
  · have hslash : along dir ≠ "/" := by
      intro h
      exact ofNames_ne_nil hroot hdir (List.cons.inj (String.ofList_inj.mp h)).2
    unfold below at hbelow
    rw [if_neg hslash, Bool.and_eq_true, List.isPrefixOf_iff_prefix, toList_along] at hbelow
    obtain ⟨⟨rest, hrest⟩, -⟩ := hbelow
    rw [← hrest, List.cons_append, List.cons_append, List.tail_cons, List.append_assoc,
      List.singleton_append, cut_slash, hcut]
    exact List.prefix_append _ _

/-- Of two directories that the same path lies in, one holds the other. -/
theorem comparable_of_within {xs ys : List Name} (hx : ∀ name ∈ xs, Plain name)
    (hy : ∀ name ∈ ys, Plain name) {path : String} (h : FileTree.within (along xs) path = true)
    (h' : FileTree.within (along ys) path = true) : xs <+: ys ∨ ys <+: xs :=
  List.prefix_or_prefix_of_prefix (prefix_of_within hx h) (prefix_of_within hy h')

/-! ## Paths that are told apart -/

/-- The path leads one step down from the directory, wherever relative paths begin. -/
def ChildOf (dir path : String) : Prop :=
  ∃ name, Plain name ∧ ∀ cwd, resolvedNames cwd path = resolvedNames cwd dir ++ [name]

/-- The paths lead to different places, wherever relative paths begin. -/
def Apart (path other : String) : Prop :=
  ∀ cwd, resolve cwd path ≠ resolve cwd other

theorem childOf_join (dir : String) {name : String} (h : Plain name.toList) :
    ChildOf dir (join [dir, name]) :=
  ⟨name.toList, h, fun cwd => resolvedNames_join cwd dir h⟩

theorem apart_join (dir : String) {name other : String} (h : Plain name.toList)
    (h' : Plain other.toList) (hne : name.toList ≠ other.toList) :
    Apart (join [dir, name]) (join [dir, other]) := by
  intro cwd heq
  exact hne (last_eq_of_resolve (resolvedNames_join cwd dir h) (resolvedNames_join cwd dir h') heq)

end StoryMix.Path
