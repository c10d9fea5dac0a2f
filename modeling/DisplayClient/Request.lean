/-!
# Requests

What a request says of its answer: whether there is a reply, and whether an
error is kept for the caller or delivered among the events.
-/

namespace DisplayClient

/-- How a request is answered. -/
structure Request where
  /-- No reply comes. -/
  isVoid : Bool
  /-- An error is kept for the caller. -/
  isChecked : Bool
  deriving DecidableEq, Inhabited

namespace Request

/-- A request with a reply. -/
def reply : Request := ⟨false, true⟩

/-- A request without a reply, whose error is kept. -/
def checkedVoid : Request := ⟨true, true⟩

/-- A request without a reply, whose error is delivered among the events. -/
def uncheckedVoid : Request := ⟨true, false⟩

def describe (r : Request) : String :=
  s!"RequestDescriptor \x7b is_void: {r.isVoid}, is_checked: {r.isChecked} \x7d"

end Request

end DisplayClient
