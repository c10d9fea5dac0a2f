import DisplayClient.ObjectType.Counted
import DisplayClient.Proofs.Sequence.Row
import DisplayClient.Proofs.Sequence.Windows

/-!
# Sequences that go on

A sequence can be decoded in one go, or as a first part and then a second from
where the view of the first ends: one way succeeds where the other does, and
the items and the bytes are the same (`Splits`). For objects that tell their
own size this is because a row can be cut and continued anywhere
(`Consists.split`, `Consists.join`), for items of one size because each is
decoded from a window of its own (`Windowed.split`, `Windowed.join`). So all
kinds of sequences split (`sequences_split`).
-/

namespace DisplayClient.Sequence

variable {α : Type}

/-- The sequence has the items of the first and then those of the second, and its view is the part
of the parent from `start` on that is as long as theirs together. -/
structure Joined (parent : View) (start : Nat) (first second s : Sequence α) : Prop where
  items_eq : s.items = first.items ++ second.items
  cut_eq : parent.cut start (first.view.length + second.view.length) = .ok s.view

/-- From `start` on, `m + n` items are decoded exactly if `m` are and then `n` from where these end,
and the sequence of all of them is the two joined. -/
structure Splits (parent : View) (decode : Nat → Nat → Except Fault (Sequence α))
    (start m n : Nat) : Prop where
  ok_iff : (∃ s, decode start (m + n) = .ok s) ↔
    ∃ first, decode start m = .ok first ∧
      ∃ second, decode (start + first.view.length) n = .ok second
  joined {first second s : Sequence α} : decode start m = .ok first →
    decode (start + first.view.length) n = .ok second → decode start (m + n) = .ok s →
    Joined parent start first second s

variable {parent : View} {start m n : Nat}

theorem splits_of_iff {decode : Nat → Nat → Except Fault (Sequence α)}
    {holds : Nat → Nat → Sequence α → Prop}
    (hiff : ∀ {start count s}, decode start count = .ok s ↔ holds start count s)
    (hsplit : ∀ {s}, holds start (m + n) s → ∃ first, holds start m first ∧
      ∃ second, holds (start + first.view.length) n second)
    (hjoin : ∀ {first second}, holds start m first → holds (start + first.view.length) n second →
      ∃ s, holds start (m + n) s ∧ Joined parent start first second s) :
    Splits parent decode start m n where
  ok_iff := by
    simp only [hiff]
    constructor
    · rintro ⟨s, hs⟩
      exact hsplit hs
    · rintro ⟨first, hfirst, second, hsecond⟩
      obtain ⟨s, hs, -⟩ := hjoin hfirst hsecond
      exact ⟨s, hs⟩
  joined {first second s} hfirst hsecond hs := by
    obtain ⟨s', hs', hjoined⟩ := hjoin (hiff.mp hfirst) (hiff.mp hsecond)
    rw [hiff.mpr hs'] at hs
    cases hs
    exact hjoined

/-! ## Objects in a row -/

section Row

variable {type : ObjectType α} {s : Sequence α}

theorem Consists.split (h : Consists type parent start (m + n) s) :
    ∃ first, Consists type parent start m first ∧
      ∃ second, Consists type parent (start + first.view.length) n second := by
  have hparts : s.items.take m ++ s.items.drop m = s.items := List.take_append_drop m s.items
  have htake : (s.items.take m).length = m := by
    rw [List.length_take, h.length_eq, Nat.min_eq_left (Nat.le_add_right m n)]
  have hdrop : (s.items.drop m).length = n := by
    rw [List.length_drop, h.length_eq, Nat.add_sub_cancel_left]
  have hrow := h.inRow
  have hstop := h.stop_le
  rw [← hparts, inRow_append_iff] at hrow
  rw [← hparts, position_append] at hstop
  obtain ⟨hfirst, hsecond⟩ := hrow
  obtain ⟨view, hview⟩ := exists_consists htake hfirst (Nat.le_trans le_position hstop)
  obtain ⟨view', hview'⟩ := exists_consists hdrop hsecond hstop
  exact ⟨_, hview, _, hview.stop_eq.symm ▸ hview'⟩

theorem Consists.join {first second : Sequence α} (hfirst : Consists type parent start m first)
    (hsecond : Consists type parent (start + first.view.length) n second) :
    ∃ s, Consists type parent start (m + n) s ∧ Joined parent start first second s := by
  have hrow := hsecond.inRow
  have hstop := hsecond.stop_le
  rw [hfirst.stop_eq] at hrow hstop
  have hcount : (first.items ++ second.items).length = m + n := by
    rw [List.length_append, hfirst.length_eq, hsecond.length_eq]
  obtain ⟨view, hview⟩ := exists_consists hcount (inRow_append_iff.mpr ⟨hfirst.inRow, hrow⟩)
    (position_append ▸ hstop)
  refine ⟨_, hview, rfl, ?_⟩
  have hcut := hview.cut_sizes
  rwa [List.map_append, List.sum_append, ← hfirst.length_view, ← hsecond.length_view] at hcut

end Row

/-! ## Items of one size -/

section Windows

variable {decode : View → Except Fault α} {stride : Nat} {s : Sequence α}

/-- The windows go on as if counted from the start. -/
theorem window_add (start m stride i : Nat) :
    start + m * stride + i * stride = start + (m + i) * stride := by
  rw [Nat.add_mul, Nat.add_assoc]

theorem Windowed.split (h : Windowed decode parent start (m + n) stride s) :
    ∃ first, Windowed decode parent start m stride first ∧
      ∃ second, Windowed decode parent (start + first.view.length) n stride second := by
  have hlength := h.length_eq
  have hfits := h.fits
  rw [← window_add] at hfits
  obtain ⟨view, hview, -, -⟩ := View.exists_cut (Nat.le_trans (Nat.le_add_right _ _) hfits)
  obtain ⟨view', hview', -, -⟩ := View.exists_cut hfits
  refine ⟨⟨view, s.items.take m⟩, ⟨?_, fun {i item} hi => ?_, hview⟩, ?_⟩
  · rw [List.length_take]
    omega
  · rw [List.getElem?_take] at hi
    exact h.decoded (Option.ite_none_right_eq_some.mp hi).2
  · simp only [View.length_of_cut hview]
    refine ⟨⟨view', s.items.drop m⟩, ?_, fun {i item} hi => ?_, hview'⟩
    · rw [List.length_drop]
      omega
    · rw [window_add]
      exact h.decoded (List.getElem?_drop ▸ hi)

theorem Windowed.join {first second : Sequence α}
    (hfirst : Windowed decode parent start m stride first)
    (hsecond : Windowed decode parent (start + first.view.length) n stride second) :
    ∃ s, Windowed decode parent start (m + n) stride s ∧ Joined parent start first second s := by
  rw [hfirst.length_view] at hsecond
  have hfits := hsecond.fits
  rw [window_add] at hfits
  obtain ⟨view, hview, -, -⟩ := View.exists_cut hfits
  refine ⟨⟨view, first.items ++ second.items⟩, ⟨?_, fun {i item} hi => ?_, hview⟩, rfl, ?_⟩
  · rw [List.length_append, hfirst.length_eq, hsecond.length_eq]
  · rcases Nat.lt_or_ge i m with hlt | hge
    · rw [List.getElem?_append_left (hfirst.length_eq.symm ▸ hlt)] at hi
      exact hfirst.decoded hi
    · rw [List.getElem?_append_right (hfirst.length_eq.symm ▸ hge), hfirst.length_eq] at hi
      have hwindow := hsecond.decoded hi
      rwa [window_add, Nat.add_sub_cancel' hge] at hwindow
  · rw [hfirst.length_view, hsecond.length_view, ← Nat.add_mul]
    exact hview

/-- Sequences of items of one size split where the first items end, as counted. -/
structure SplitsEvenly (parent : View) (decode : Nat → Nat → Except Fault (Sequence α))
    (start m n stride : Nat) : Prop extends Splits parent decode start m n where
  length_view {first : Sequence α} : decode start m = .ok first → first.view.length = m * stride

theorem splitsEvenly_of_strided {results : Nat → Nat → Except Fault (Sequence α)}
    (h : ∀ start count, Strided parent start count stride decode (results start count)) :
    SplitsEvenly parent results start m n stride where
  toSplits := splits_of_iff (h _ _).eq_ok_iff Windowed.split Windowed.join
  length_view hfirst := ((h _ _).eq_ok_iff.mp hfirst).length_view

end Windows

/-- A character that names no format never decodes anything, in one part or in two. -/
theorem formatted_splits (parent : View) (start m n : Nat) (c : Char) :
    Splits parent (fun start count => formatted parent start count c) start m n := by
  cases h : ScalarFormat.ofChar c with
  | ok format =>
    exact (splitsEvenly_of_strided fun start count =>
      formatted_strided parent start count h).toSplits
  | error fault =>
    have hfails (start count : Nat) : formatted parent start count c = .error fault := by
      rw [formatted, h]
      rfl
    exact ⟨by simp [hfails], fun hfirst => by simp [hfails] at hfirst⟩

/-- However many items are decoded, they can be decoded in two parts at any of them, the second of
which begins where the first ends: objects that tell their own size, numbers by type and by
character, and objects of one size. Where all items have one size, the first part ends after as many
times that size as it has items. -/
theorem sequences_split (parent : View) (start m n : Nat) :
    (∀ (α : Type) (type : ObjectType α), Splits parent (selfSized type parent) start m n) ∧
    (∀ (α : Type) [Scalar α],
      SplitsEvenly parent (scalars α parent) start m n (Scalar.width α)) ∧
    (∀ c, Splits parent (fun start count => formatted parent start count c) start m n) ∧
    (∀ c format, ScalarFormat.ofChar c = .ok format →
      SplitsEvenly parent (fun start count => formatted parent start count c) start m n
        format.width) ∧
    ∀ (α : Type) (type : ObjectType α) (size : Nat),
      SplitsEvenly parent (fun start count => objects type parent start count size) start m n
        size := by
  refine ⟨fun α type => ?_, fun α _ => ?_, fun c => ?_, fun c format h => ?_, fun α type size => ?_⟩
  · exact splits_of_iff selfSized_eq_ok_iff Consists.split Consists.join
  · exact splitsEvenly_of_strided fun start count => scalars_strided parent start count α
  · exact formatted_splits parent start m n c
  · exact splitsEvenly_of_strided fun start count => formatted_strided parent start count h
  · exact splitsEvenly_of_strided fun start count => objects_strided parent start count type size

/-- Three strings, the second of which is empty, and three numbers, both in two parts; the first
number ends after two bytes. -/
theorem sequences_split_of_three :
    let parent := View.root ⟨[9, 2, 104, 105, 0, 1, 97, 7], by decide⟩
    (∃ first second s, selfSized .countedString parent 1 1 = .ok first ∧
      selfSized .countedString parent (1 + first.view.length) 2 = .ok second ∧
      selfSized .countedString parent 1 3 = .ok s ∧ Joined parent 1 first second s ∧
      s.items.map (·.bytes) = [[2, 104, 105], [0], [1, 97]]) ∧
    ScalarFormat.ofChar 'H' = .ok .uint16 ∧
    ∃ first second s, formatted parent 1 1 'H' = .ok first ∧ first.view.length = 2 ∧
      formatted parent (1 + first.view.length) 2 'H' = .ok second ∧
      formatted parent 1 3 'H' = .ok s ∧ Joined parent 1 first second s ∧
      s.items = [.uint 26626, .uint 105, .uint 24833] := by
  have hthreeStrings : ∃ s, selfSized .countedString
      (View.root ⟨[9, 2, 104, 105, 0, 1, 97, 7], by decide⟩) 1 3 = .ok s ∧
      s.items.map (·.bytes) = [[2, 104, 105], [0], [1, 97]] := ⟨_, rfl, rfl⟩
  have hthreeNumbers : ∃ s, formatted
      (View.root ⟨[9, 2, 104, 105, 0, 1, 97, 7], by decide⟩) 1 3 'H' = .ok s ∧
      s.items = [.uint 26626, .uint 105, .uint 24833] := ⟨_, rfl, rfl⟩
  intro parent
  obtain ⟨hrow, -, -, hformatted, -⟩ := sequences_split parent 1 1 2
  have hstrings := hrow View .countedString
  have hnumbers := hformatted 'H' .uint16 rfl
  obtain ⟨s, hs, hbytes⟩ := hthreeStrings
  obtain ⟨first, hfirst, second, hsecond⟩ := hstrings.ok_iff.mp ⟨s, hs⟩
  obtain ⟨numbers, hall, hitems⟩ := hthreeNumbers
  obtain ⟨number, hnumber, others, hothers⟩ := hnumbers.ok_iff.mp ⟨numbers, hall⟩
  exact ⟨⟨first, second, s, hfirst, hsecond, hs, hstrings.joined hfirst hsecond hs, hbytes⟩, rfl,
    number, others, numbers, hnumber, hnumbers.length_view hnumber, hothers, hall,
    hnumbers.joined hnumber hothers hall, hitems⟩

end DisplayClient.Sequence
