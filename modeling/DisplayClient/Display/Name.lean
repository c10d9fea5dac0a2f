import DisplayClient.Text.Decimal
import DisplayClient.Text.Separator

/-!
# Display names

A display name says where a server listens: `[protocol/][host]:number[.screen]`.
The number starts after the last colon, so that a host may hold colons, and
the protocol ends at the first slash. A protocol that is marked by a slash is
not empty; the host may be.
-/

namespace DisplayClient

/-- The TCP port of display 0. -/
abbrev tcpPortBase : Nat := 6000

/-- Where a server listens. -/
structure DisplayName where
  /-- The protocol to reach it by, if the name says one. -/
  protocol : Option String
  /-- The host; empty for the local machine. -/
  host : String
  /-- Which of the host's displays. -/
  number : UInt16
  /-- The screen to start on. -/
  screen : UInt64
  deriving DecidableEq, Inhabited

namespace DisplayName

/-- The full spelling, with the screen. -/
def text (d : DisplayName) : String :=
  let place :=
    match d.protocol with
    | some protocol => protocol ++ "/" ++ d.host
    | none => d.host
  place ++ ":" ++ toString d.number.toNat ++ "." ++ toString d.screen.toNat

/-- Reads what stands before the last colon: the protocol and the host. -/
def place? (place : List Char) : Option (Option (List Char) × List Char) :=
  match Text.cutFirst '/' place with
  | none => some (none, place)
  | some ([], _) => none
  | some (protocol, host) => some (some protocol, host)

/-- Reads what stands after the last colon: the display's number and the screen. -/
def numbers? (numbers : List Char) : Option (UInt16 × UInt64) :=
  match Text.cutFirst '.' numbers with
  | none => do
    let number ← Text.decimal? UInt16.size numbers
    return (UInt16.ofNat number, 0)
  | some (number, screen) => do
    let screen ← Text.decimal? UInt64.size screen
    let number ← Text.decimal? UInt16.size number
    return (UInt16.ofNat number, UInt64.ofNat screen)

def parse? (name : String) : Option DisplayName := do
  let (place, numbers) ← Text.cutLast ':' name.toList
  let (protocol, host) ← place? place
  let (number, screen) ← numbers? numbers
  return ⟨protocol.map String.ofList, String.ofList host, number, screen⟩

/-- Whether the name is one of the local machine. -/
def isLocal (d : DisplayName) : Bool :=
  d.host.isEmpty || d.protocol == some "unix"

/-- The TCP port that the display listens on: there is none past 65535. -/
def tcpPort (d : DisplayName) : Nat := min 65535 (tcpPortBase + d.number.toNat)

end DisplayName

end DisplayClient
