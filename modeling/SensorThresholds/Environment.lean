import SensorThresholds.Text.Utf8

/-!
Environment variables: names with values of any bytes. A value that is not text counts as unset.
-/

namespace SensorThresholds

structure Environment where
  bindings : List (String × List UInt8)
  deriving DecidableEq, Repr

namespace Environment

def empty : Environment := ⟨[]⟩

def get? (env : Environment) (name : String) : Option String :=
  (env.bindings.find? (·.1 == name)).bind fun (_, bytes) => Utf8.read? bytes

def set (env : Environment) (name value : String) : Environment :=
  ⟨(name, Utf8.encode value) :: env.bindings⟩

/-- Sets a variable that is not set to a text yet. -/
def setDefault (env : Environment) (name value : String) : Environment :=
  if (env.get? name).isSome then env else env.set name value

end Environment
end SensorThresholds
