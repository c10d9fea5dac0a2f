import DisplayClient.Proofs.Session.Collecting
import Mathlib.Data.List.Nodup

/-!
# The numbers of the requests

A script numbers the requests that it receives one after the other
(`Script.Receives`), whoever sends them. The cookies that a client was given
in a run are numbered in the order in which it sent their requests, with gaps
where others sent theirs (`Session.issued_numbers`); as long as the numbers do
not wrap, no two cookies have the same (`Session.nodup_issued`).
-/

namespace DisplayClient

namespace Script

/-- From one script to the other, so many requests are received, each with the next number. -/
structure Receives (count : Nat) (s t : Script) : Prop where
  sent_eq : t.sent.length = s.sent.length + count
  next_eq : t.nextSequence = s.nextSequence + UInt32.ofNat count

theorem Receives.none {s t : Script} (hsent : t.sent = s.sent)
    (hnext : t.nextSequence = s.nextSequence) : Receives 0 s t where
  sent_eq := congrArg List.length hsent
  next_eq := by rw [hnext, show UInt32.ofNat 0 = 0 from rfl, UInt32.add_zero]

theorem Receives.trans {count count' : Nat} {s t u : Script} (h : Receives count s t)
    (h' : Receives count' t u) : Receives (count + count') s u where
  sent_eq := by rw [h'.sent_eq, h.sent_eq, Nat.add_assoc]
  next_eq := by rw [h'.next_eq, h.next_eq, UInt32.ofNat_add, UInt32.add_assoc]

theorem receives_send (request : Request) (data : Buffer) (s : Script) :
    Receives 1 s (send request data s).2 where
  sent_eq := List.length_append
  next_eq := rfl

/-- So many numbers, from the first one on. -/
def numbers (first : UInt32) (count : Nat) : List UInt32 :=
  (List.range count).map (first + UInt32.ofNat ·)

theorem numbers_one (first : UInt32) : numbers first 1 = [first] := by
  simp [numbers]

theorem numbers_add (first : UInt32) (count count' : Nat) :
    numbers first (count + count') =
      numbers first count ++ numbers (first + UInt32.ofNat count) count' := by
  simp only [numbers, List.range_add, List.map_append, List.map_map]
  congr 2
  funext i
  simp only [Function.comp_apply, UInt32.ofNat_add, UInt32.add_assoc]

theorem nodup_numbers (first : UInt32) {count : Nat} (h : count ≤ 2 ^ 32) :
    (numbers first count).Nodup := by
  refine List.Nodup.map_on (fun i hi j hj heq => ?_) List.nodup_range
  have hi : i < 2 ^ 32 := Nat.lt_of_lt_of_le (List.mem_range.mp hi) h
  have hj : j < 2 ^ 32 := Nat.lt_of_lt_of_le (List.mem_range.mp hj) h
  have hsame : (UInt32.ofNat i).toNat = (UInt32.ofNat j).toNat :=
    congrArg UInt32.toNat ((UInt32.add_right_inj first).mp heq)
  rwa [UInt32.toNat_ofNat_of_lt' hi, UInt32.toNat_ofNat_of_lt' hj] at hsame

end Script

namespace Session

variable {s : Session Script}

theorem send_of_closed (hclosed : s.connection.isConnected = false) (request : Request)
    (data : Buffer) : send request data s = ⟨.error .disconnected, s, []⟩ :=
  onServer_bind_of_closed hclosed _ _

theorem send_of_open (hopen : s.connection.isConnected = true) (request : Request)
    (data : Buffer) :
    send request data s =
      ⟨.ok ⟨s.server.nextSequence, request⟩,
        { s with server := (Script.send request data s.server).2 },
        [.requestSent s.server.nextSequence request]⟩ := by
  have hsent : Transport.send request data s.server =
      (.ok s.server.nextSequence, (Script.send request data s.server).2) := rfl
  exact Step.bind_of_ok (onServer_of_ok hopen hsent)

end Session

namespace Action

/-- Whatever the action does to the server, every request that comes in gets the next number. -/
def NumbersRequests : Action Script → Prop
  | .server change => ∀ script, ∃ count, Script.Receives count script (change script)
  | _ => True

/-- The cookie that the client was given, if it sent a request. -/
def issued? {σ : Type} : (a : Action σ) → Except Fault a.Value → Option Cookie
  | .send _ _, .ok cookie => some cookie
  | _, _ => none

theorem numbersRequests_of_keeps {change : Script → Script}
    (h : ∀ script, (change script).sent = script.sent ∧
      (change script).nextSequence = script.nextSequence) :
    (Action.server change).NumbersRequests :=
  fun script => ⟨0, .none (h script).1 (h script).2⟩

variable {a : Action Script}

theorem receives_call (h : a.NumbersRequests) (script : Script) :
    ∃ count, Script.Receives count script (a.call script) := by
  have hcollected (hcollects : a.Collects) :
      ∃ count, Script.Receives count script (a.call script) := by
    rw [hcollects.call_eq]
    exact ⟨0, .none (script.sent_without _) (script.nextSequence_without _)⟩
  cases a with
  | server change => exact h script
  | send request data => exact ⟨1, Script.receives_send request data script⟩
  | nextEvent => exact hcollected .nextEvent
  | nextEvent? => exact hcollected .nextEvent?
  | reply cookie type => exact hcollected (.reply cookie type)
  | check cookie => exact hcollected (.check cookie)
  | _ => exact ⟨0, .none rfl rfl⟩

theorem receives_after (h : a.NumbersRequests) (s : Session Script) :
    ∃ count, Script.Receives count s.server (a.after s).server := by
  rcases a.server_after s with hsame | hcalled
  · exact ⟨0, .none (congrArg Script.sent hsame) (congrArg Script.nextSequence hsame)⟩
  · rw [hcalled]
    exact receives_call h s.server

/-- Only a client that sends a request gets a cookie, with the next number. -/
theorem issued?_eq_some {cookie : Cookie} {s : Session Script}
    (h : a.issued? (a.perform s).result = some cookie) :
    Script.Receives 1 s.server (a.after s).server ∧ cookie.sequence = s.server.nextSequence := by
  cases a with
  | send request data =>
    rw [after]
    simp only [perform] at h
    cases hopen : s.connection.isConnected with
    | false =>
      rw [Session.send_of_closed hopen] at h
      cases h
    | true =>
      rw [Session.send_of_open hopen] at h ⊢
      cases h
      exact ⟨Script.receives_send request data s.server, rfl⟩
  | _ => cases h

theorem issued_numbers (h : a.NumbersRequests) (s : Session Script) :
    ∃ count, Script.Receives count s.server (a.after s).server ∧
      ((a.issued? (a.perform s).result).toList.map Cookie.sequence).Sublist
        (Script.numbers s.server.nextSequence count) := by
  cases hissued : a.issued? (a.perform s).result with
  | none =>
    obtain ⟨count, hreceives⟩ := receives_after h s
    exact ⟨count, hreceives, List.nil_sublist _⟩
  | some cookie =>
    obtain ⟨hreceives, hsequence⟩ := issued?_eq_some hissued
    refine ⟨1, hreceives, ?_⟩
    rw [Script.numbers_one, ← hsequence]
    exact List.Sublist.refl _

end Action

namespace Session

/-- The cookies that the client was given in a run, in order. -/
def issued (s : Session Script) (actions : List (Action Script)) : List Cookie :=
  (s.transcript actions).filterMap fun entry => entry.1.issued? entry.2

theorem issued_cons (s : Session Script) (a : Action Script) (actions : List (Action Script)) :
    s.issued (a :: actions) =
      (a.issued? (a.perform s).result).toList ++ (a.after s).issued actions := by
  rw [issued, transcript, answer, List.filterMap_cons]
  cases a.issued? (a.perform s).result <;> rfl

theorem issued_numbers {actions : List (Action Script)}
    (h : ∀ a ∈ actions, a.NumbersRequests) (s : Session Script) :
    ∃ count, Script.Receives count s.server (s.run actions).server ∧
      ((s.issued actions).map Cookie.sequence).Sublist
        (Script.numbers s.server.nextSequence count) := by
  induction actions generalizing s with
  | nil => exact ⟨0, .none rfl rfl, List.nil_sublist _⟩
  | cons a actions ih =>
    obtain ⟨count, hfirst, hissued⟩ := Action.issued_numbers (h a List.mem_cons_self) s
    obtain ⟨count', hrest, hissued'⟩ := ih (fun b hb => h b (List.mem_cons_of_mem a hb)) (a.after s)
    refine ⟨count + count', hfirst.trans hrest, ?_⟩
    rw [issued_cons, List.map_append, Script.numbers_add]
    rw [hfirst.next_eq] at hissued'
    exact hissued.append hissued'

theorem nodup_issued {actions : List (Action Script)} (h : ∀ a ∈ actions, a.NumbersRequests)
    {s : Session Script}
    (hfew : (s.run actions).server.sent.length < s.server.sent.length + 2 ^ 32) :
    ((s.issued actions).map Cookie.sequence).Nodup := by
  obtain ⟨count, hreceives, hissued⟩ := issued_numbers h s
  have hcount : count ≤ 2 ^ 32 := by
    have hsent := hreceives.sent_eq
    omega
  exact (Script.nodup_numbers _ hcount).sublist hissued

end Session

end DisplayClient
