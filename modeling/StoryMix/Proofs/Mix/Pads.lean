import StoryMix.Mix.Compile
import StoryMix.Proofs.Numeral.Text

/-!
# The pads of a filter

A filter's text begins with the names of the streams it reads and ends with the name of the one it
makes, each in brackets. Here these names are read back off the text. No operation's text has a bracket
in it, whatever numbers stand in it, so of the text of a chain exactly the names that were put there are
found again (`reads_text`, `makes_text`), and no two streams have the same name (`Source.name_inj`).
-/

namespace StoryMix.Mix

/-- The texts between brackets, in order; what is open so far is carried along. -/
def padsFrom : Option (List Char) → List Char → List String
  | _, [] => []
  | none, c :: cs => if c = '[' then padsFrom (some []) cs else padsFrom none cs
  | some pad, c :: cs =>
    if c = ']' then String.ofList pad :: padsFrom none cs else padsFrom (some (pad ++ [c])) cs

def pads (filter : String) : List String :=
  padsFrom none filter.toList

/-- The streams that a filter reads. -/
def reads (filter : String) : List String :=
  (pads filter).dropLast

/-- The stream that a filter makes. -/
def makes (filter : String) : String :=
  (pads filter).getLast?.getD ""

def bracket (pad : String) : String :=
  "[" ++ pad ++ "]"

/-- The stream of the `i`th input file. -/
def stream (i : Nat) : String :=
  Numeral.natText i ++ ":a"

/-- The name of a source, without its brackets. -/
def Source.name : Source → String
  | input i => stream i
  | label l => l.text

theorem Source.text_eq (s : Source) : s.text = bracket s.name := by
  cases s with
  | input i => simp only [Source.text, Source.name, bracket, stream, String.append_assoc]; rfl
  | label l => rfl

/-! ## Texts without a bracket -/

def Bare (cs : List Char) : Prop :=
  ∀ c ∈ cs, c ≠ '[' ∧ c ≠ ']'

theorem bare_append {xs ys : List Char} : Bare (xs ++ ys) ↔ Bare xs ∧ Bare ys := by
  exact List.forall_mem_append

theorem bare_of_numeric {cs : List Char} (h : Numeral.Numeric cs) : Bare cs := by
  intro c hc
  rcases h c hc with hd | hmem
  · constructor <;> (rintro rfl; exact absurd hd (by decide))
  · constructor <;> (rintro rfl; exact absurd hmem (by decide))

/-- What an operation's number has for a text. -/
theorem bare_seconds (x : Float) : Bare (seconds x).toList := by
  rw [seconds, String.toList_ofList]
  exact bare_of_numeric
    ((Numeral.numeric_fixed 6 x).subset (Numeral.withoutTrailingZeros_subset _))

theorem bare_text (x : Float) : Bare (Numeral.text x).toList :=
  bare_of_numeric (Numeral.numeric_text x)

theorem bare_natText (n : Nat) : Bare (Numeral.natText n).toList :=
  bare_of_numeric (Numeral.numeric_natText n)

instance (cs : List Char) : Decidable (Bare cs) :=
  List.decidableBAll _ cs

theorem Filter.bare_text (f : Filter) : Bare f.text.toList := by
  cases f with
  | normalize => decide
  | loop => decide
  | concat n =>
      simp only [Filter.text, String.toList_append, bare_append]
      exact ⟨⟨by decide, bare_natText n⟩, by decide⟩
  | volume db =>
      simp only [Filter.text, String.toList_append, bare_append]
      exact ⟨⟨by decide, Mix.bare_text db⟩, by decide⟩
  | trim duration =>
      simp only [Filter.text, String.toList_append, bare_append]
      exact ⟨by decide, bare_seconds duration⟩
  | delay startTime =>
      simp only [Filter.text, String.toList_append, bare_append]
      exact ⟨⟨by decide, Mix.bare_text _⟩, by decide⟩
  | sum n =>
      simp only [Filter.text, String.toList_append, bare_append]
      exact ⟨⟨by decide, bare_natText n⟩, by decide⟩

theorem Label.bare_text (l : Label) : Bare l.text.toList := by
  cases l with
  | segment i =>
      rw [Label.text, String.toList_append, bare_append]
      exact ⟨by decide, bare_natText i⟩
  | effect i =>
      rw [Label.text, String.toList_append, bare_append]
      exact ⟨by decide, bare_natText (i + 1)⟩
  | narration => decide
  | music => decide
  | ambience => decide
  | total => decide

theorem bare_stream (i : Nat) : Bare (stream i).toList := by
  rw [stream, String.toList_append, bare_append]
  exact ⟨bare_natText i, by decide⟩

theorem Source.bare_name (s : Source) : Bare s.name.toList := by
  cases s with
  | input i => exact bare_stream i
  | label l => exact l.bare_text

/-- The operations of a chain as one text. -/
def Chain.body (c : Chain) : String :=
  ",".intercalate (c.filters.map Filter.text)

theorem bare_intercalate {texts : List String} (h : ∀ text ∈ texts, Bare text.toList) :
    Bare (",".intercalate texts).toList := by
  induction texts with
  | nil => decide
  | cons text rest ih =>
      have htext := h text (List.mem_cons_self ..)
      cases rest with
      | nil => simpa using htext
      | cons next rest =>
          rw [String.intercalate_cons_cons, String.toList_append, String.toList_append]
          have hrest := ih fun other hother => h other (List.mem_cons_of_mem _ hother)
          exact bare_append.mpr ⟨bare_append.mpr ⟨htext, by decide⟩, hrest⟩

theorem Chain.bare_body (c : Chain) : Bare c.body.toList := by
  refine bare_intercalate fun text htext => ?_
  obtain ⟨f, -, rfl⟩ := List.mem_map.mp htext
  exact f.bare_text

/-! ## Reading the pads back -/

theorem padsFrom_bare {cs rest : List Char} (h : Bare cs) :
    padsFrom none (cs ++ rest) = padsFrom none rest := by
  induction cs with
  | nil => rfl
  | cons c cs ih =>
      have hc : c ≠ '[' := (h c (List.mem_cons_self ..)).1
      rw [List.cons_append, padsFrom, if_neg hc]
      exact ih fun d hd => h d (List.mem_cons_of_mem _ hd)

theorem padsFrom_open {pad rest : List Char} (h : Bare pad) (sofar : List Char) :
    padsFrom (some sofar) (pad ++ ']' :: rest) =
      String.ofList (sofar ++ pad) :: padsFrom none rest := by
  induction pad generalizing sofar with
  | nil => rw [List.nil_append, padsFrom, if_pos rfl, List.append_nil]
  | cons c cs ih =>
      have hc : c ≠ ']' := (h c (List.mem_cons_self ..)).2
      rw [List.cons_append, padsFrom, if_neg hc,
        ih (fun d hd => h d (List.mem_cons_of_mem _ hd)), List.append_assoc]
      rfl

theorem padsFrom_bracket {pad : String} {rest : List Char} (h : Bare pad.toList) :
    padsFrom none ((bracket pad).toList ++ rest) = pad :: padsFrom none rest := by
  have htext : (bracket pad).toList ++ rest = '[' :: (pad.toList ++ ']' :: rest) := by
    simp [bracket]
  rw [htext, padsFrom, if_pos rfl, padsFrom_open h, List.nil_append, String.ofList_toList]

theorem padsFrom_brackets {names : List String} {rest : List Char}
    (h : ∀ name ∈ names, Bare name.toList) :
    padsFrom none ((String.join (names.map bracket)).toList ++ rest) =
      names ++ padsFrom none rest := by
  induction names with
  | nil => simp
  | cons name names ih =>
      have hrest := ih fun other hother => h other (List.mem_cons_of_mem _ hother)
      rw [List.map_cons, String.join_cons, String.toList_append, List.append_assoc,
        padsFrom_bracket (h name (List.mem_cons_self ..)), hrest, List.cons_append]

/-- A filter that reads these streams, has no bracket in its operation and makes that stream. -/
theorem pads_filter {names : List String} {body name : String}
    (hnames : ∀ name ∈ names, Bare name.toList) (hbody : Bare body.toList)
    (hname : Bare name.toList) :
    pads (String.join (names.map bracket) ++ body ++ bracket name) = names ++ [name] := by
  have hlast := @padsFrom_bracket name [] hname
  rw [List.append_nil] at hlast
  rw [pads, String.toList_append, String.toList_append, List.append_assoc,
    padsFrom_brackets hnames, padsFrom_bare hbody, hlast, padsFrom]

theorem Chain.text_eq (c : Chain) :
    c.text = String.join ((c.reads.map Source.name).map bracket) ++ c.body ++
      bracket c.makes.text := by
  have hreads : c.reads.map Source.text = (c.reads.map Source.name).map bracket := by
    rw [List.map_map]
    exact List.map_congr_left fun s _ => s.text_eq
  rw [Chain.text, hreads]
  simp only [Chain.body, bracket, String.append_assoc]

theorem Chain.pads_text (c : Chain) :
    pads c.text = c.reads.map Source.name ++ [c.makes.text] := by
  rw [c.text_eq]
  refine pads_filter (fun name hname => ?_) c.bare_body c.makes.bare_text
  obtain ⟨s, -, rfl⟩ := List.mem_map.mp hname
  exact s.bare_name

@[simp]
theorem reads_text (c : Chain) : reads c.text = c.reads.map Source.name := by
  rw [reads, c.pads_text, List.dropLast_concat]

@[simp]
theorem makes_text (c : Chain) : makes c.text = c.makes.text := by
  rw [makes, c.pads_text, List.getLast?_concat, Option.getD_some]

/-! ## Different streams have different names -/

theorem stream_inj {i j : Nat} (h : stream i = stream j) : i = j := by
  have hlist := congrArg String.toList h
  simp only [stream, String.toList_append] at hlist
  exact Numeral.natText_inj (String.toList_inj.mp (List.append_cancel_right hlist))

theorem numbered_inj {stem : String} {i j : Nat}
    (h : stem ++ Numeral.natText i = stem ++ Numeral.natText j) : i = j := by
  have hlist := congrArg String.toList h
  simp only [String.toList_append] at hlist
  exact Numeral.natText_inj (String.toList_inj.mp (List.append_cancel_left hlist))

theorem Label.effect_text_inj {i j : Nat} (h : (effect i).text = (effect j).text) : i = j :=
  Nat.succ.inj (numbered_inj h)

/-- The first three letters tell the kinds of label apart, and the numbers the labels of one kind. -/
theorem Label.text_inj {l l' : Label} (h : l.text = l'.text) : l = l' := by
  have hstart : l.text.toList.take 3 = l'.text.toList.take 3 := by rw [h]
  cases l <;> cases l' <;>
    first
    | rfl
    | exact congrArg segment (numbered_inj h)
    | exact congrArg effect (effect_text_inj h)
    | simp [Label.text] at hstart

theorem colon_notMem_label (l : Label) : ':' ∉ l.text.toList := by
  have hnat : ∀ n, ':' ∉ (Numeral.natText n).toList := by
    intro n hmem
    rcases Numeral.numeric_natText n _ hmem with h | h <;> exact absurd h (by decide)
  cases l with
  | segment i => simpa [Label.text] using hnat i
  | effect i => simpa [Label.text] using hnat (i + 1)
  | narration => decide
  | music => decide
  | ambience => decide
  | total => decide

theorem stream_ne_label (i : Nat) (l : Label) : stream i ≠ l.text := by
  intro h
  have hcolon : ':' ∈ (stream i).toList := by simp [stream]
  rw [h] at hcolon
  exact colon_notMem_label l hcolon

theorem Source.name_inj {s s' : Source} (h : s.name = s'.name) : s = s' := by
  cases s with
  | input i =>
      cases s' with
      | input j => exact congrArg _ (stream_inj h)
      | label l => exact (stream_ne_label i l h).elim
  | label l =>
      cases s' with
      | input j => exact (stream_ne_label j l h.symm).elim
      | label l' => exact congrArg _ (Label.text_inj h)

end StoryMix.Mix
