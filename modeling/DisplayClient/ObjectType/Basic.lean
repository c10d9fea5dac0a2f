import DisplayClient.Memory.Window

/-!
# Object types

Everything that a protocol sends is decoded as an object of some type. A type
is its tag, a decoder, the view that an object keeps of its bytes, and the
size of an object, by which lists step from one object to the next. The
decoder is given a view that may go on past the object.
-/

namespace DisplayClient

/-- How objects `α` are decoded. -/
structure ObjectType (α : Type) where
  tag : TypeTag
  /-- Decodes the object at the start of a view. -/
  fromView : View → Except Fault α
  /-- The bytes that an object keeps. -/
  view : α → View
  /-- How many bytes an object occupies: those that it keeps, unless the type says otherwise. -/
  size : α → Nat := fun a => (view a).length

namespace ObjectType

/-- Objects that are a part of the view that they are decoded from. -/
def keeping (tag : TypeTag) (keep : View → Except Fault View) : ObjectType View where
  tag := tag
  fromView := keep
  view := id

/-- Objects that keep the whole view. -/
def whole (tag : TypeTag) : ObjectType View := keeping tag .ok

def bytes : ObjectType View := whole .view

/-- The same objects, with another measure of their size. -/
def sized {α : Type} (type : ObjectType α) (size : α → Nat) : ObjectType α :=
  ⟨type.tag, type.fromView, type.view, size⟩

end ObjectType

end DisplayClient
