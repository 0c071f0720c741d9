import StoryMix.Proofs.Script.Parse
import StoryMix.Proofs.Text.Lines

/-!
# Scripts one after the other

Nothing is carried from one line of a script to the next but the number of the line. So two texts with
a line feed between them are read one after the other: first come the events of the first text and then
those of the second, and of two errors the one in the first text counts. An error in the second is the
same as if it were read alone, but for the number of its line (`parse_append`).
-/

namespace StoryMix

/-- The failure with another number for its line, if it tells one. -/
def Failure.atLine (line : Nat) : Failure → Failure
  | .anchor written (some _) => .anchor written (some (Float.ofNat line))
  | .parse _ raw reason => .parse (Float.ofNat line) raw reason
  | f => f

theorem directive?_append (xs ys : List Event) (key : String) :
    directive? (xs ++ ys) key = (directive? xs key).or (directive? ys key) :=
  List.findSome?_append

namespace Script

/-- The error when `k` lines come before the text: the same in the same line, which has another number. -/
def ScriptError.later (k : Nat) (e : ScriptError) : ScriptError :=
  { e with line := e.line + k }

theorem ScriptError.failure_later (k : Nat) (e : ScriptError) :
    (e.later k).failure = e.failure.atLine (e.line + k) := by
  obtain ⟨line, raw, fault⟩ := e
  cases fault <;> rfl

variable {strict : Bool}

theorem readLines_later (n k : Nat) (lines : List (List Char)) :
    readLines strict (n + k) lines = (readLines strict n lines).mapError (·.later k) := by
  induction lines generalizing n with
  | nil => rfl
  | cons raw rest ih =>
      rw [readLines, readLines, Nat.add_right_comm, ih]
      cases readLine strict raw with
      | error fault => rfl
      | ok said => cases readLines strict (n + 1) rest <;> rfl

theorem readLines_append (n : Nat) (xs ys : List (List Char)) :
    readLines strict n (xs ++ ys) =
      (readLines strict n xs).bind fun first =>
        (readLines strict (n + xs.length) ys).map (first ++ ·) := by
  induction xs generalizing n with
  | nil =>
      change readLines strict n ys = (readLines strict n ys).map ([] ++ ·)
      cases readLines strict n ys <;> rfl
  | cons raw rest ih =>
      rw [List.cons_append, readLines, readLines, ih, List.length_cons, Nat.add_right_comm,
        Nat.add_assoc]
      cases readLine strict raw with
      | error fault => rfl
      | ok said =>
          cases readLines strict (n + 1) rest with
          | error e => rfl
          | ok first =>
              simp only [Except.bind]
              cases readLines strict (n + (rest.length + 1)) ys with
              | error e => rfl
              | ok later => exact congrArg Except.ok (List.append_assoc ..).symm

/-- Two texts with a line feed between them. A carriage return at the end of the first would take the
line feed for its own. -/
theorem parse_append_eq {a : String} (h : a.toList.getLast? ≠ some '\r') (b : String) :
    parse strict (a ++ "\n" ++ b) =
      (parse strict a).bind fun first =>
        ((parse strict b).mapError (·.later (Text.lines a.toList).length)).map (first ++ ·) := by
  have hlines : Text.lines (a ++ "\n" ++ b).toList =
      Text.lines a.toList ++ Text.lines b.toList := by
    rw [← Text.lines_append_lineFeed h, String.toList_append, String.toList_append,
      List.append_assoc]
    rfl
  simp only [parse, hlines, readLines_append, readLines_later]

/-- Reading is compositional: the events of both texts if both can be read, the error of the first if
it cannot, or else the error of the second, counted from the beginning of the first. -/
theorem parse_append (strict : Bool) {a : String} (h : a.toList.getLast? ≠ some '\r') (b : String) :
    (∀ first later, parse strict a = .ok first → parse strict b = .ok later →
      parse strict (a ++ "\n" ++ b) = .ok (first ++ later) ∧
        ∀ key, directive? (first ++ later) key =
          (directive? first key).or (directive? later key)) ∧
    (∀ e, parse strict a = .error e → parse strict (a ++ "\n" ++ b) = .error e) ∧
    (∀ first e, parse strict a = .ok first → parse strict b = .error e →
      parse strict (a ++ "\n" ++ b) = .error (e.later (Text.lines a.toList).length) ∧
        (e.later (Text.lines a.toList).length).failure =
          e.failure.atLine (e.line + (Text.lines a.toList).length)) := by
  refine ⟨fun first later hfirst hlater => ⟨?_, directive?_append first later⟩, fun e herror => ?_,
    fun first e hfirst herror => ⟨?_, e.failure_later _⟩⟩
  · rw [parse_append_eq h, hfirst, hlater]
    rfl
  · rw [parse_append_eq h, herror]
    rfl
  · rw [parse_append_eq h, hfirst, herror]
    rfl

/-- Two lines and then one that can be read, or one that cannot; and that one first. -/
theorem parse_append_opening :
    parse true ("@title: Duet\nRuby: Hello" ++ "\n" ++ "Ruby: Bye") =
        .ok [.directive "title" "Duet", .utterance "Ruby" "Hello", .utterance "Ruby" "Bye"] ∧
      parse true ("PAUSE: long" ++ "\n" ++ "Ruby: Bye") =
        .error ⟨1, "PAUSE: long", .pauseNotANumber⟩ ∧
      parse true ("@title: Duet\nRuby: Hello" ++ "\n" ++ "PAUSE: long") =
        .error ⟨3, "PAUSE: long", .pauseNotANumber⟩ := by
  have hopening : parse true "@title: Duet\nRuby: Hello" =
      .ok [.directive "title" "Duet", .utterance "Ruby" "Hello"] := by decide +kernel
  have hclosing : parse true "Ruby: Bye" = .ok [.utterance "Ruby" "Bye"] := by decide +kernel
  have hlong : parse true "PAUSE: long" = .error ⟨1, "PAUSE: long", .pauseNotANumber⟩ := by
    decide +kernel
  have hend : "@title: Duet\nRuby: Hello".toList.getLast? ≠ some '\r' := by decide
  exact ⟨((parse_append true hend _).1 _ _ hopening hclosing).1,
    (parse_append true (by decide) _).2.1 _ hlong,
    ((parse_append true hend _).2.2 _ _ hopening hlong).1⟩

end Script

end StoryMix
