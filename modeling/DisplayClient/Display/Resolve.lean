import DisplayClient.Fault

/-!
# Finding the display

A client connects to the display that it is given, or else to the one that
the environment names.
-/

namespace DisplayClient.DisplayName

/-- Reads a display name; the fault holds the whole text. -/
def parse (name : String) : Except Fault DisplayName :=
  match parse? name with
  | some target => .ok target
  | none => .error (.invalidDisplay name)

/-- The display to connect to: `name`, or else what `environment` names. -/
def resolve (name environment : Option String) : Except Fault DisplayName :=
  match name, environment with
  | some name, _ => parse name
  | none, some name => parse name
  | none, none => .error .displayUnset

end DisplayClient.DisplayName
