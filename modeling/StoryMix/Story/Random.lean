import StoryMix.Failure
import StoryMix.Numeral.Exact

/-!
# Seeded choices

A small generator of 32-bit words: the state goes up by a fixed odd number and is then scrambled. The
same seed always gives the same words, so a generated story can be had again. Every state occurs
once before any comes back, since the step is odd.
-/

namespace StoryMix.Story

structure Random where
  state : UInt32
  deriving DecidableEq, Repr

namespace Random

/-- The seed counts modulo `2 ^ 32`, its fraction left aside. -/
def ofSeed (seed : Float) : Random :=
  ⟨Numeral.wrapped seed⟩

def increment : UInt32 :=
  0x6D2B79F5

/-- Spreads the bits of a state over a word. -/
def scramble (state : UInt32) : UInt32 :=
  let once := (state ^^^ (state >>> 15)) * (state ||| 1)
  let twice := once ^^^ (once + (once ^^^ (once >>> 7)) * (once ||| 61))
  twice ^^^ (twice >>> 14)

/-- The state after one more word. -/
def step (r : Random) : Random :=
  ⟨r.state + increment⟩

/-- The next word. -/
def word (r : Random) : UInt32 :=
  scramble r.step.state

/-- How many words there are. -/
def wordCount : Nat :=
  0x100000000

/-- The next word as a fraction of their number. -/
def fraction (r : Random) : Float :=
  r.word.toNat.toFloat / wordCount.toFloat

theorem index_lt (r : Random) {n : Nat} (h : 0 < n) :
    r.word.toNat * n / wordCount < n := by
  have hw : r.word.toNat < wordCount := r.word.toNat_lt
  apply Nat.div_lt_of_lt_mul
  exact Nat.mul_lt_mul_of_pos_right hw h

/-- A member of a list: the next word says how far along it stands. -/
def pick {α : Type} (r : Random) (items : List α) (h : 0 < items.length) : α :=
  items.get ⟨r.word.toNat * items.length / wordCount, r.index_lt h⟩

/-- A member of a list, which must not be empty, and the generator after the choice. -/
def pick? {α : Type} (r : Random) (items : List α) : Except Thrown (α × Random) :=
  if h : 0 < items.length then .ok (r.pick items h, r.step)
  else .error (.error "Cannot pick from an empty list")

end Random

end StoryMix.Story
