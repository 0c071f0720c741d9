import StoryMix.Failure

/-!
# Arguments

The words of a command line fall, from left to right, into arguments: a switch, which stands alone, or
an option and its value. `Argument.words` writes an argument back; a value does not start with two
hyphens. Arguments of different names may stand in any order, and of an option that is given more than
once the last value counts, unless all are asked for.
-/

namespace StoryMix

inductive Argument where
  | switch (name : String)
  | option (name value : String)
  deriving DecidableEq, Repr

/-- The words that an argument is written with. -/
def Argument.words : Argument → List String
  | switch name => [name]
  | option name value => [name, value]

/-- The names that a command knows. -/
structure Flags where
  options : List String
  switches : List String

/-- A word that cannot be the value of an option. -/
def looksLikeFlag (word : String) : Bool :=
  ['-', '-'].isPrefixOf word.toList

def unknownArgument (word : String) : Failure :=
  .configuration ("Unknown argument: " ++ word)

def missingValue (name : String) : Failure :=
  .configuration (name ++ " requires a value")

/-- The arguments that words fall into. -/
def readArguments (flags : Flags) : List String → Except Failure (List Argument)
  | [] => .ok []
  | word :: rest =>
    if flags.switches.contains word then
      (.switch word :: ·) <$> readArguments flags rest
    else if flags.options.contains word then
      match rest with
      | [] => .error (missingValue word)
      | value :: rest =>
        if looksLikeFlag value then .error (missingValue word)
        else (.option word value :: ·) <$> readArguments flags rest
    else .error (unknownArgument word)

namespace Arguments

/-- All values of an option, in order. -/
def values (name : String) (arguments : List Argument) : List String :=
  arguments.filterMap fun
    | .option n value => if n = name then some value else none
    | .switch _ => none

/-- The last value of an option. -/
def last? (name : String) (arguments : List Argument) : Option String :=
  (values name arguments).getLast?

/-- A switch is given. -/
def has (name : String) (arguments : List Argument) : Bool :=
  arguments.contains (.switch name)

/-- The last value of an option that must be given and not be empty. -/
def required (command name what : String) (arguments : List Argument) : Except Failure String :=
  match (last? name arguments).filter (· ≠ "") with
  | some value => .ok value
  | none => .error (.configuration (command ++ " requires " ++ name ++ " <" ++ what ++ ">"))

end Arguments

end StoryMix
