import DisplayClient.ObjectType.Basic

/-!
# Sample object types

Types whose sizes and decoders are as awkward as a protocol may make them:
to try lists and casts on.
-/

namespace DisplayClient.ObjectType

/-- Any bytes; the first says how long the object is. -/
def firstByteSized : ObjectType View :=
  (whole (.named "Sized8")).sized fun v => (v.bytes.headD 0).toNat

/-- Any bytes, that claim to be as long as anything can be. -/
def huge : ObjectType View := (whole (.named "Huge")).sized fun _ => Size.max

/-- Any bytes, that claim to take no room. -/
def sizeless : ObjectType View := (whole (.named "Nil")).sized fun _ => 0

/-- Two bytes, the first of which is not 255. -/
def picky : ObjectType View :=
  keeping (.named "Picky") fun v => do
    let first ← v.uint8At 0
    if first = 0xff then .error (.invalidExtension (.refused "picky")) else v.cut 0 2

end DisplayClient.ObjectType
