import DisplayClient.Session.Basic

/-!
# Cookies

A cookie stands for a request that was sent. What the request comes to is
asked for by the cookie: the reply, if there is one, or the error, if it is
kept for the caller.
-/

namespace DisplayClient

/-- A request that was sent. -/
structure Cookie where
  sequence : UInt32
  /-- How it is to be answered. -/
  request : Request
  deriving DecidableEq, Inhabited

def Cookie.describe (c : Cookie) : String :=
  s!"Cookie \x7b sequence: {c.sequence}, request: {c.request.describe} \x7d"

namespace Session

variable {σ α : Type} [Transport σ]

/-- Sends an encoded request. -/
def send (request : Request) (data : Buffer) : Step (Session σ) Cookie := do
  let sequence ← onServer (Transport.send request data)
  Step.log (.requestSent sequence request)
  return ⟨sequence, request⟩

/-- Raises the error of a void and checked request, if it had one. -/
def check (cookie : Cookie) : Step (Session σ) Unit := do
  if cookie.request.isVoid && cookie.request.isChecked then
    match ← onServer (Transport.awaitError cookie.sequence) with
    | none => return ()
    | some raw => raiseRaw raw
  else
    Step.fail .notCheckable

/-- The reply to a request, as a `type`; an error is raised. -/
def reply (cookie : Cookie) (type : ObjectType α) : Step (Session σ) α := do
  if cookie.request.isVoid then
    Step.fail .noReply
  else
    match ← onServer (Transport.awaitReply cookie.sequence) with
    | .error raw => raiseRaw raw
    | .reply raw =>
      let view ← Reply.trim (View.root raw)
      type.fromView view

end Session

end DisplayClient
