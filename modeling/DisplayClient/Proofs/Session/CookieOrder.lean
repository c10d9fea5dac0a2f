import DisplayClient.Proofs.Session.Issuing
import Mathlib.Data.List.Perm.Basic

/-!
# Cookies in any order

A client may resolve its cookies in any order, and take events in between: it
gets the same for each of them and the same events, and leaves the same behind
(`Session.sameOutcome_of_reordering`). In a transcript, the entries of the
events are those of a run that only takes events
(`Session.transcript_events`), and the entry of a cookie is what it would be
if the cookie came first (`Session.transcript_cookies`).
-/

namespace DisplayClient

namespace Action

variable {a b : Action Script} {s : Session Script}

/-- The actions do not resolve cookies of the same number. -/
def Apart (a b : Action Script) : Prop :=
  ∀ c, a.resolved? = some c → ∀ d, b.resolved? = some d → c.sequence ≠ d.sequence

/-- Resolving a cookie leaves the events as they were. -/
theorem Collects.events_after (h : a.Collects) (hopen : s.connection.isConnected = true)
    (hevent : a.takesEvent = false) : (a.after s).server.events = s.server.events := by
  obtain ⟨cookie, hresolved⟩ := h.resolved?_of_not_takesEvent hevent
  have hpiece : a.piece? ≠ some .event := by
    intro hsame
    have hnumber := sequence?_of_piece? hsame
    rw [hresolved] at hnumber
    cases hnumber
  rw [h.after_eq hopen]
  exact Script.agrees_without hpiece s.server

theorem Apart.piece?_ne (h : a.Apart b) {cookie : Cookie} (hresolved : b.resolved? = some cookie)
    {p : Piece} (hpiece : b.piece? = some p) : a.piece? ≠ some p := by
  intro hsame
  have hnumber : p.sequence? = some cookie.sequence := by
    rw [sequence?_of_piece? hpiece, hresolved]
    rfl
  rw [sequence?_of_piece? hsame] at hnumber
  obtain ⟨other, hother, heq⟩ := Option.map_eq_some_iff.mp hnumber
  exact h other hother cookie hresolved heq

/-- Collecting something leaves a cookie of another number as it was. -/
theorem result_after_of_apart (hopen : s.connection.isConnected = true) (ha : a.Collects)
    {cookie : Cookie} (hb : b.resolved? = some cookie) (h : a.Apart b) :
    (b.perform (a.after s)).result = (b.perform s).result :=
  ha.result_after (.of_resolved? hb) hopen fun _ hpiece => h.piece?_ne hb hpiece

end Action

namespace Session

variable {s t : Session Script} {calls calls' : List (Action Script)}

/-! ## Runs that collect -/

theorem run_of_collects (hcollects : ∀ a ∈ calls, a.Collects)
    (hopen : s.connection.isConnected = true) :
    s.run calls =
      { s with server := calls.foldl (fun script a => script.without a.piece?) s.server } := by
  induction calls generalizing s with
  | nil => rfl
  | cons a calls ih =>
    obtain ⟨ha, hrest⟩ := List.forall_mem_cons.mp hcollects
    rw [run_cons, ha.after_eq hopen]
    exact ih hrest hopen

/-- What calls leave that only collect does not hang on their order. -/
theorem run_perm (hcollects : ∀ a ∈ calls, a.Collects) (hperm : calls.Perm calls')
    (hopen : s.connection.isConnected = true) : s.run calls = s.run calls' := by
  have hcollects' : ∀ a ∈ calls', a.Collects := fun a ha => hcollects a (hperm.mem_iff.mpr ha)
  rw [run_of_collects hcollects hopen, run_of_collects hcollects' hopen,
    hperm.foldl_eq' fun a _ b _ script => Script.without_comm b.piece? a.piece? script]

/-- Calls that only take events hang on the events alone. -/
theorem transcript_congr_of_takesEvent (hevents : ∀ a ∈ calls, a.takesEvent = true)
    (hopen : s.connection.isConnected = true) (hconnection : t.connection = s.connection)
    (hqueue : t.server.events = s.server.events) : t.transcript calls = s.transcript calls := by
  induction calls generalizing s t with
  | nil => rfl
  | cons a calls ih =>
    obtain ⟨ha, hrest⟩ := List.forall_mem_cons.mp hevents
    have hopen' : t.connection.isConnected = true := by rw [hconnection, hopen]
    have hcollects := Action.Collects.of_takesEvent ha
    have hpiece := Action.piece?_of_takesEvent ha
    have hresult : (a.perform t).result = (a.perform s).result :=
      hcollects.result_congr hopen hconnection fun p hp => by
        rw [hpiece] at hp
        cases hp
        exact hqueue
    have htaken (u : Session Script) (hu : u.connection.isConnected = true) :
        a.after u = u.withEvents u.server.events.tail := by
      rw [hcollects.after_eq hu, hpiece]
      rfl
    have hlater : (a.after t).transcript calls = (a.after s).transcript calls := by
      rw [htaken s hopen, htaken t hopen']
      exact ih hrest hopen hconnection (congrArg List.tail hqueue)
    rw [transcript, transcript, answer, answer, hresult, hlater]

/-- Where cookies are resolved in between does not change which events come. -/
theorem transcript_events (hcollects : ∀ a ∈ calls, a.Collects)
    (hopen : s.connection.isConnected = true) :
    (s.transcript calls).filter (·.1.takesEvent) =
      s.transcript (calls.filter Action.takesEvent) := by
  induction calls generalizing s with
  | nil => rfl
  | cons a calls ih =>
    obtain ⟨ha, hrest⟩ := List.forall_mem_cons.mp hcollects
    have hopen' := ha.isConnected_after hopen
    simp only [transcript, List.filter_cons, answer_fst, ih hrest hopen']
    cases hevent : a.takesEvent with
    | true => rfl
    | false =>
      have hqueue := ha.events_after hopen hevent
      exact transcript_congr_of_takesEvent (fun b hb => (List.mem_filter.mp hb).2) hopen
        (ha.connection_after hopen) hqueue

/-- What is collected in between does not change what a cookie comes to. -/
theorem transcript_cookies (hcollects : ∀ a ∈ calls, a.Collects)
    (hapart : calls.Pairwise Action.Apart) (hopen : s.connection.isConnected = true) :
    (s.transcript calls).filter (!·.1.takesEvent) =
      (calls.filter (!·.takesEvent)).map s.answer := by
  induction calls generalizing s with
  | nil => rfl
  | cons a calls ih =>
    obtain ⟨ha, hrest⟩ := List.forall_mem_cons.mp hcollects
    obtain ⟨hfirst, hapart⟩ := List.pairwise_cons.mp hapart
    have hopen' := ha.isConnected_after hopen
    -- Whatever the first call takes, it is not what a later cookie stands for.
    have hlater : (calls.filter (!·.takesEvent)).map (a.after s).answer =
        (calls.filter (!·.takesEvent)).map s.answer := by
      refine List.map_congr_left fun b hb => ?_
      obtain ⟨hmem, hb⟩ := List.mem_filter.mp hb
      obtain ⟨cookie, hresolved⟩ := (hrest b hmem).resolved?_of_not_takesEvent (by simpa using hb)
      rw [answer, answer, Action.result_after_of_apart hopen ha hresolved (hfirst b hmem)]
    simp only [transcript, List.filter_cons, answer_fst, ih hrest hapart hopen', hlater]
    cases a.takesEvent <;> rfl

/-! ## Orders -/

/-- Two orders in which a client may resolve some of its cookies, each of them once and in the same
way, and take as many events in between, wherever it takes them. -/
structure Reordering (cookies : List Cookie) (calls calls' : List (Action Script)) : Prop where
  collects : ∀ a ∈ calls, a.Collects
  issued : ∀ a ∈ calls, ∀ cookie, a.resolved? = some cookie → cookie ∈ cookies
  once : (calls.filterMap Action.resolved?).Nodup
  perm : calls.Perm calls'
  events_eq : calls.filter Action.takesEvent = calls'.filter Action.takesEvent

/-- It makes no difference in which of two orders a client makes its calls. -/
structure SameOutcome (s : Session Script) (calls calls' : List (Action Script)) : Prop where
  /-- Each call gives the same. -/
  answers : (s.transcript calls).Perm (s.transcript calls')
  /-- The same events come, one after the other. -/
  events : (s.transcript calls).filter (·.1.takesEvent) =
    (s.transcript calls').filter (·.1.takesEvent)
  /-- The same is left. -/
  state : s.run calls = s.run calls'

/-- Cookies of different numbers, each resolved once, are resolved apart. -/
theorem Reordering.pairwise_apart {cookies : List Cookie} (h : Reordering cookies calls calls')
    (hnodup : (cookies.map Cookie.sequence).Nodup) : calls.Pairwise Action.Apart := by
  have hsequences : ((calls.filterMap Action.resolved?).map Cookie.sequence).Nodup := by
    refine List.Nodup.map_on (fun c hc d hd heq => ?_) h.once
    obtain ⟨a, ha, hc⟩ := List.mem_filterMap.mp hc
    obtain ⟨b, hb, hd⟩ := List.mem_filterMap.mp hd
    exact List.inj_on_of_nodup_map hnodup (h.issued a ha c hc) (h.issued b hb d hd) heq
  exact List.pairwise_filterMap.mp (List.pairwise_map.mp hsequences)

theorem sameOutcome_of_reordering {cookies : List Cookie} (h : Reordering cookies calls calls')
    (hnodup : (cookies.map Cookie.sequence).Nodup) (hopen : s.connection.isConnected = true) :
    s.SameOutcome calls calls' := by
  have hcollects' : ∀ a ∈ calls', a.Collects := fun a ha => h.collects a (h.perm.mem_iff.mpr ha)
  have hapart := h.pairwise_apart hnodup
  have hapart' : calls'.Pairwise Action.Apart :=
    h.perm.pairwise hapart fun hab d hd c hc heq => hab c hc d hd heq.symm
  have hevents : (s.transcript calls).filter (·.1.takesEvent) =
      (s.transcript calls').filter (·.1.takesEvent) := by
    rw [transcript_events h.collects hopen, transcript_events hcollects' hopen, h.events_eq]
  have hcookies : ((s.transcript calls).filter (!·.1.takesEvent)).Perm
      ((s.transcript calls').filter (!·.1.takesEvent)) := by
    rw [transcript_cookies h.collects hapart hopen, transcript_cookies hcollects' hapart' hopen]
    exact (h.perm.filter _).map _
  refine ⟨?_, hevents, run_perm h.collects h.perm hopen⟩
  -- A transcript is its events and its cookies, each in order; how they alternate is forgotten.
  have hsplit (entries : List ((a : Action Script) × Except Fault a.Value)) :
      (entries.filter (·.1.takesEvent) ++ entries.filter (!·.1.takesEvent)).Perm entries :=
    List.filter_append_perm _ entries
  have hparts : ((s.transcript calls).filter (·.1.takesEvent) ++
        (s.transcript calls).filter (!·.1.takesEvent)).Perm
      ((s.transcript calls').filter (·.1.takesEvent) ++
        (s.transcript calls').filter (!·.1.takesEvent)) := by
    rw [hevents]
    exact hcookies.append_left _
  exact (hsplit _).symm.trans (hparts.trans (hsplit _))

end Session

end DisplayClient
