import DisplayClient.Transport.Script

/-!
# What a client collects of a script

A client collects the next event, what a request came to, or the error of a
request that it checks. Each is a `Piece` of the script, which is gone once it
is taken (`Script.take`). A piece that is taken leaves the others as they were
(`agrees_without`), and it does not matter which piece is taken first
(`without_comm`): what a request came to and its error are two pieces, even where
one error was scripted for both.
-/

namespace DisplayClient

/-- What a client collects with one call. -/
inductive Piece where
  | event
  | reply (sequence : UInt32)
  | error (sequence : UInt32)
  deriving DecidableEq

namespace Piece

/-- The number of the request that a piece belongs to. -/
def sequence? : Piece → Option UInt32
  | .event => none
  | .reply sequence | .error sequence => some sequence

/-- The pieces that are written with an outcome. An error is there for a check, too. -/
def ofOutcome (sequence : UInt32) : ReplyOutcome → List Piece
  | .reply _ => [.reply sequence]
  | .error _ => [.reply sequence, .error sequence]

end Piece

namespace Script

/-- The script without a piece. -/
def take : Piece → Script → Script
  | .event, s => { s with events := s.events.tail }
  | .reply sequence, s => { s with replies := update s.replies sequence none }
  | .error sequence, s => { s with errors := update s.errors sequence none }

/-- The script without a piece, if there is one to take. -/
def without : Option Piece → Script → Script
  | none, s => s
  | some p, s => s.take p

/-- The scripts have the same piece. -/
def Agrees : Piece → Script → Script → Prop
  | .event, s, t => s.events = t.events
  | .reply sequence, s, t => s.replies sequence = t.replies sequence
  | .error sequence, s, t => s.errors sequence = t.errors sequence

theorem Agrees.refl (p : Piece) (s : Script) : Agrees p s s := by
  cases p <;> rfl

theorem Agrees.trans {p : Piece} {s t u : Script} (h : Agrees p s t) (h' : Agrees p t u) :
    Agrees p s u := by
  cases p <;> exact Eq.trans h h'

theorem update_of_ne {α β : Type} [DecidableEq α] (f : α → β) {a x : α} (h : x ≠ a) (b : β) :
    update f a b x = f x := if_neg h

theorem update_comm {α β : Type} [DecidableEq α] (f : α → β) (a a' : α) (b : β) :
    update (update f a b) a' b = update (update f a' b) a b := by
  funext x
  simp only [update]
  split <;> split <;> rfl

theorem agrees_take {p q : Piece} (h : p ≠ q) (s : Script) : Agrees p (s.take q) s := by
  cases q with
  | event =>
    cases p with
    | event => exact absurd rfl h
    | reply | error => rfl
  | reply sequence =>
    cases p with
    | event | error => rfl
    | reply => exact update_of_ne _ (fun heq => h (congrArg Piece.reply heq)) _
  | error sequence =>
    cases p with
    | event | reply => rfl
    | error => exact update_of_ne _ (fun heq => h (congrArg Piece.error heq)) _

theorem take_comm (p q : Piece) (s : Script) : take p (take q s) = take q (take p s) := by
  cases p with
  | event => cases q <;> rfl
  | reply sequence =>
    cases q with
    | event | error => rfl
    | reply => simp only [take, update_comm s.replies]
  | error sequence =>
    cases q with
    | event | reply => rfl
    | error => simp only [take, update_comm s.errors]

theorem agrees_without {p : Piece} {q? : Option Piece} (h : q? ≠ some p) (s : Script) :
    Agrees p (s.without q?) s := by
  cases q? with
  | none => exact .refl p s
  | some q => exact agrees_take (fun heq => h (congrArg some heq.symm)) s

theorem without_comm (p? q? : Option Piece) (s : Script) :
    without p? (without q? s) = without q? (without p? s) := by
  cases p? with
  | none => rfl
  | some p =>
    cases q? with
    | none => rfl
    | some q => exact take_comm p q s

theorem sent_without (s : Script) (p? : Option Piece) : (s.without p?).sent = s.sent := by
  cases p? with
  | none => rfl
  | some p => cases p <;> rfl

theorem nextSequence_without (s : Script) (p? : Option Piece) :
    (s.without p?).nextSequence = s.nextSequence := by
  cases p? with
  | none => rfl
  | some p => cases p <;> rfl

/-! ## Writing outcomes -/

/-- Scripts what a request comes to. -/
def scriptOutcome (sequence : UInt32) : ReplyOutcome → Script → Script
  | .reply raw => scriptReply sequence raw
  | .error raw => scriptError sequence raw

theorem replies_scriptOutcome (sequence : UInt32) (outcome : ReplyOutcome) (s : Script) :
    (s.scriptOutcome sequence outcome).replies sequence = some outcome := by
  cases outcome <;> exact if_pos rfl

theorem errors_scriptError (sequence : UInt32) (raw : Buffer) (s : Script) :
    (s.scriptError sequence raw).errors sequence = some raw := if_pos rfl

theorem agrees_scriptOutcome {p : Piece} {sequence : UInt32} {outcome : ReplyOutcome}
    (h : p ∉ Piece.ofOutcome sequence outcome) (s : Script) :
    Agrees p (s.scriptOutcome sequence outcome) s := by
  cases outcome with
  | reply raw =>
    cases p with
    | event | error => rfl
    | reply => exact update_of_ne _ (fun heq => h (by simp [Piece.ofOutcome, heq])) _
  | error raw =>
    cases p with
    | event => rfl
    | reply => exact update_of_ne _ (fun heq => h (by simp [Piece.ofOutcome, heq])) _
    | error => exact update_of_ne _ (fun heq => h (by simp [Piece.ofOutcome, heq])) _

/-! ## The calls that collect -/

theorem nextEvent_eq_take (s : Script) : (nextEvent s).2 = s.take .event := by
  cases s with
  | mk events => cases events <;> rfl

theorem awaitReply_eq_take (sequence : UInt32) (s : Script) :
    (awaitReply sequence s).2 = s.take (.reply sequence) := by
  rw [awaitReply, take]
  split
  next hnone =>
    have hsame : update s.replies sequence none = s.replies := by
      funext x
      rw [update]
      split
      next hx => rw [hx, hnone]
      next => rfl
    rw [hsame]
  next => rfl

end Script

end DisplayClient
