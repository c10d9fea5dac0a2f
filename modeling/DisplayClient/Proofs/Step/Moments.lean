import DisplayClient.Step

/-!
# Writes and what is told of them

An operation that makes several writes goes through as many moments, each with
the state before a write and after it (`moments`). An operation that logs what
there is to tell of its moments, in their order, `Tells` of its writes. So does
a sequence of such operations (`Tells.append`), and an operation on a part of a
state (`Tells.map`).
-/

namespace DisplayClient

/-- The moments of a course of writes: what there is before each of them and after it. -/
def moments {σ ω : Type} (write : σ → ω → σ) : List ω → σ → List (σ × σ)
  | [], _ => []
  | w :: ws, s => (s, write s w) :: moments write ws (write s w)

theorem moments_append {σ ω : Type} (write : σ → ω → σ) (ws ws' : List ω) (s : σ) :
    moments write (ws ++ ws') s = moments write ws s ++ moments write ws' (ws.foldl write s) := by
  induction ws generalizing s with
  | nil => rfl
  | cons w ws ih => simp only [List.cons_append, moments, ih, List.foldl_cons]

/-- Writes in a part of a state have the moments of that part. -/
theorem moments_map {σ τ ω ξ : Type} {write : σ → ω → σ} {write' : τ → ξ → τ} {f : σ → τ}
    {g : ω → ξ} (h : ∀ s w, write' (f s) (g w) = f (write s w)) (ws : List ω) (s : σ) :
    moments write' (ws.map g) (f s) = (moments write ws s).map (Prod.map f f) := by
  induction ws generalizing s with
  | nil => rfl
  | cons w ws ih =>
    simp only [List.map_cons, moments, h, ih]
    rfl

/-- An operation makes the writes, one after the other, and tells of each moment what there is to be
told of it, in order; if it fails, there is nothing to tell. -/
structure Tells {σ ω α : Type} (write : σ → ω → σ) (told : σ → σ → List LogLine) (writes : List ω)
    (before : σ) (result : Except Fault α) (after : σ) (lines : List LogLine) : Prop where
  after_eq : after = writes.foldl write before
  lines_eq : lines = (moments write writes before).flatMap fun moment => told moment.1 moment.2
  quiet_of_error {fault : Fault} : result = .error fault → lines = []

namespace Tells

variable {σ τ ω ξ α β : Type} {write : σ → ω → σ} {told : σ → σ → List LogLine} {s t u : σ}
  {ws ws' : List ω} {lines lines' : List LogLine}

theorem none (s : σ) (result : Except Fault α) : Tells write told [] s result s [] :=
  ⟨rfl, rfl, fun _ => rfl⟩

theorem of_ok {a : α} (hafter : t = ws.foldl write s)
    (hlines : lines = (moments write ws s).flatMap fun moment => told moment.1 moment.2) :
    Tells write told ws s (.ok a) t lines :=
  ⟨hafter, hlines, nofun⟩

theorem append {a : α} {b : β} (h : Tells write told ws s (.ok a) t lines)
    (h' : Tells write told ws' t (.ok b) u lines') :
    Tells write told (ws ++ ws') s (.ok b) u (lines ++ lines') := by
  refine of_ok ?_ ?_
  · rw [List.foldl_append, ← h.after_eq, h'.after_eq]
  · rw [moments_append, List.flatMap_append, ← h.lines_eq, ← h.after_eq, ← h'.lines_eq]

/-- Writes that change nothing leave nothing to tell. -/
theorem eq_nil_of_fixed {result : Except Fault α} (h : Tells write told ws s result t lines)
    (hfixed : ∀ w ∈ ws, write s w = s) (htold : told s s = []) : lines = [] := by
  have hquiet : ((moments write ws s).flatMap fun moment => told moment.1 moment.2) = [] := by
    clear h
    induction ws with
    | nil => rfl
    | cons w ws ih =>
      obtain ⟨hfirst, hrest⟩ := List.forall_mem_cons.mp hfixed
      rw [moments, hfirst, List.flatMap_cons, htold, ih hrest, List.nil_append]
  exact h.lines_eq.trans hquiet

/-- An operation on a part of a state, of which the rest has nothing to tell. -/
theorem map {result : Except Fault α} (h : Tells write told ws s result t lines)
    {write' : τ → ξ → τ} {told' : τ → τ → List LogLine} {f : σ → τ} {g : ω → ξ}
    (hwrite : ∀ s w, write' (f s) (g w) = f (write s w))
    (htold : ∀ s t, told' (f s) (f t) = told s t) :
    Tells write' told' (ws.map g) (f s) result (f t) lines where
  after_eq := by
    rw [List.foldl_map, h.after_eq]
    exact (List.foldl_hom f fun s w => hwrite s w).symm
  lines_eq := by
    rw [moments_map hwrite, List.flatMap_map, h.lines_eq]
    simp only [Prod.map, htold]
  quiet_of_error := h.quiet_of_error

end Tells

end DisplayClient
