import StoryMix.Text.Blank

/-!
# Patterns

What a text may look like, and the first way in which it fits: of two alternatives the first that leads
to a fit of the whole, of a repetition as many rounds as possible or, where it is told to be brief, as
few. An earlier choice is taken back when what follows does not fit.
-/

namespace StoryMix.Text

/-- A character at which a line ends. -/
def endsLine (c : Char) : Bool :=
  c == '\n' || c == '\r' || c.toNat == 0x2028 || c.toNat == 0x2029

/-- A place in a text: the character before it and what follows, and the pieces held on the way. -/
structure Place where
  before : Option Char
  rest : List Char
  held : List (Nat × List Char)

namespace Place

/-- The start of a text. -/
def start (cs : List Char) : Place :=
  ⟨none, cs, []⟩

/-- The place after the next character, if `p` accepts that character. -/
def next? (p : Char → Bool) (here : Place) : Option Place :=
  match here.rest with
  | [] => none
  | c :: cs => if p c then some ⟨some c, cs, here.held⟩ else none

def atLineStart (here : Place) : Bool :=
  here.before.all endsLine

def atLineEnd (here : Place) : Bool :=
  here.rest.head?.all endsLine

/-- A later place that holds the text since this one under a number. -/
def hold (here : Place) (n : Nat) (later : Place) : Place :=
  { later with held := (n, here.rest.take (here.rest.length - later.rest.length)) :: later.held }

/-- The piece held under a number; empty if there is none. -/
def piece (here : Place) (n : Nat) : List Char :=
  (here.held.lookup n).getD []

end Place

inductive Pattern where
  | nothing
  | lineStart
  | lineEnd
  /-- One character that is accepted. -/
  | one (accepts : Char → Bool)
  | both (p q : Pattern)
  /-- The first if it leads to a fit, else the second. -/
  | either (p q : Pattern)
  /-- As many rounds as possible, each of one character at least. -/
  | many (p : Pattern)
  /-- As few rounds as possible, each of one character at least. -/
  | few (p : Pattern)
  /-- Holds the text that fits under a number. -/
  | hold (n : Nat) (p : Pattern)

namespace Pattern

/-- What becomes of a place: the end of a fit, if there is one from here on. -/
abbrev Search :=
  Place → Option Place

/-- The answer of the first search, else that of the second. -/
def firstOf (f g : Search) : Search := fun here =>
  match f here with
  | some last => some last
  | none => g here

/-- Up to `n` rounds, as many as possible, and then what follows. -/
def manyRounds (round : Search → Search) (after : Search) : Nat → Search
  | 0 => after
  | n + 1 => firstOf (round (manyRounds round after n)) after

/-- Up to `n` rounds, as few as possible, and then what follows. -/
def fewRounds (round : Search → Search) (after : Search) : Nat → Search
  | 0 => after
  | n + 1 => firstOf after (round (fewRounds round after n))

/-- The first fit of a pattern that lets what comes `after` it fit too. -/
def search : Pattern → Search → Search
  | nothing, after => after
  | lineStart, after => fun here => if here.atLineStart then after here else none
  | lineEnd, after => fun here => if here.atLineEnd then after here else none
  | one p, after => fun here => (here.next? p).bind after
  | both p q, after => p.search (q.search after)
  | either p q, after => firstOf (p.search after) (q.search after)
  | many p, after => fun here => manyRounds p.search after here.rest.length here
  | few p, after => fun here => fewRounds p.search after here.rest.length here
  | hold n p, after => fun here => p.search (fun later => after (here.hold n later)) here

/-- The end of the first fit that begins here. -/
def fit? (p : Pattern) : Search :=
  p.search some

/-- Patterns one after the other. -/
def all : List Pattern → Pattern
  | [] => nothing
  | [p] => p
  | p :: ps => both p (all ps)

/-- The first of several patterns that leads to a fit. -/
def anyOf : List Pattern → Pattern
  | [] => one fun _ => false
  | [p] => p
  | p :: ps => either p (anyOf ps)

def optional (p : Pattern) : Pattern :=
  either p nothing

def char (c : Char) : Pattern :=
  one (· == c)

def word (s : String) : Pattern :=
  all (s.toList.map char)

/-- At least one round, and then as many as possible. -/
def atLeastOne (p : Pattern) : Pattern :=
  both p (many p)

/-- A run of blanks, which may be empty. -/
def blanks : Pattern :=
  many (one isBlank)

/-- A piece of a text that was gone through: a character outside all fits, or the end of a fit. -/
inductive Piece where
  | outside (c : Char)
  | fit (last : Place)

/-- Goes through a text and looks for a fit at each place, after a fit from its end on. -/
def piecesFrom (p : Pattern) : Nat → Place → List Piece
  | 0, _ => []
  | n + 1, here =>
    match p.fit? here with
    | some last => .fit last :: p.piecesFrom n { last with held := [] }
    | none =>
      match here.rest with
      | [] => []
      | c :: cs => .outside c :: p.piecesFrom n ⟨some c, cs, []⟩

/-- The pieces of a text. A fit must not be empty. -/
def pieces (p : Pattern) (cs : List Char) : List Piece :=
  p.piecesFrom (cs.length + 1) (.start cs)

/-- The fits in a text. -/
def fits (p : Pattern) (cs : List Char) : List Place :=
  (p.pieces cs).filterMap fun
    | .outside _ => none
    | .fit last => some last

/-- The text with the piece held under a number in place of each fit. -/
def replaced (p : Pattern) (n : Nat) (cs : List Char) : List Char :=
  (p.pieces cs).flatMap fun
    | .outside c => [c]
    | .fit last => last.piece n

end Pattern

end StoryMix.Text
