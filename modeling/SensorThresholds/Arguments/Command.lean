/-!
What may stand on a command line and what was found on one. A command has texts that have to be
there, in order, options with one value out of a few, and flags that are counted. What was found
goes by the names of these.
-/

namespace SensorThresholds

/-- An option with one of some values, and the value it has when it is not written. -/
structure Choice where
  long : String
  values : List String
  default : String

/-- An option without a value that may be written any number of times. -/
structure Flag where
  long : String
  short : Char

structure Command where
  positionals : List String
  choices : List Choice
  flags : List Flag

@[ext]
structure Matches where
  value : String → Option String
  count : String → Nat

namespace Matches

def empty : Matches := ⟨fun _ => none, fun _ => 0⟩

def given (m : Matches) (name text : String) : Matches :=
  { m with value := fun other => if other = name then some text else m.value other }

/-- One more of a flag. The count stays at the largest number of eight bits. -/
def counted (m : Matches) (name : String) : Matches :=
  { m with
    count := fun other => if other = name then min (m.count other + 1) 255 else m.count other }

/-- What is found once nothing more is written. -/
def withDefaults (m : Matches) (command : Command) : Matches :=
  { m with
    value := fun name =>
      (m.value name).or ((command.choices.find? (·.long = name)).map Choice.default) }

end Matches

/-- The name of the next text. -/
def Command.next? (command : Command) (m : Matches) : Option String :=
  command.positionals.find? fun name => (m.value name).isNone

end SensorThresholds
