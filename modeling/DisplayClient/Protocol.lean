/-!
# Numbers that the protocol fixes
-/

namespace DisplayClient.Protocol

/-- The version of the protocol. -/
def version : UInt16 := 11

/-- The revision of that version. -/
def revision : UInt16 := 0

/-- The resource id that stands for no resource. -/
def noResource : UInt32 := 0

/-- The attribute of a window that takes it from the window around it. -/
def copyFromParent : UInt32 := 0

/-- The time that stands for the current time. -/
def currentTime : UInt32 := 0

/-- The key symbol that stands for no symbol. -/
def noSymbol : UInt32 := 0

end DisplayClient.Protocol
