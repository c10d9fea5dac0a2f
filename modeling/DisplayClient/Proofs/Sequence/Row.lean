import DisplayClient.ObjectType.Sample
import DisplayClient.Proofs.Memory.Cutting
import DisplayClient.Proofs.Step.Sequencing
import DisplayClient.Sequence.SelfSized
import Mathlib.Algebra.GroupWithZero.Nat

/-!
# Objects in a row

An object that tells its own size stands where the sizes of the objects before
it add up to (`position`), whatever it says of its size and whatever it keeps
of its bytes. At a position there is an object (`Stands`), or there is one
reason why there is none (`Stuck`). Objects in a row are decoded one after the
other (`selfSizedFrom_of_inRow`), and as there always is a longest row
(`row_or_stuck`), this settles what a sequence comes to: the objects of a row
that ends inside the parent, or the fault of the first position where there is
no object (`selfSized_by_positions`).
-/

namespace DisplayClient.Sequence

variable {α : Type} (type : ObjectType α) (parent : View)

/-- Where the object after `items` starts, if the first of them starts at `start`. -/
def position (start : Nat) (items : List α) : Nat := start + (items.map type.size).sum

/-- At `pos`, which is not past the end of the parent, there is the object `item`, and the next
position is a size. -/
structure Stands (pos : Nat) (item : α) : Prop where
  start_le : pos ≤ parent.length
  fromView_eq : type.fromView (parent.rest pos) = .ok item
  stop_lt : pos + type.size item < sizeLimit

/-- Why there is no object at `pos`. -/
inductive Stuck (pos : Nat) : Fault → Prop where
  | past (hpast : parent.length < pos) : Stuck pos (.range pos 0 parent.length)
  | refused {fault : Fault} (hle : pos ≤ parent.length)
      (hrefused : type.fromView (parent.rest pos) = .error fault) : Stuck pos fault
  /-- The object is so long that the next position is no size. -/
  | overlong {item : α} (hle : pos ≤ parent.length)
      (hitem : type.fromView (parent.rest pos) = .ok item)
      (hlimit : sizeLimit ≤ pos + type.size item) :
    Stuck pos (.range pos (type.size item) parent.length)

/-- Each of the items stands where those before it end. -/
def InRow (start : Nat) (items : List α) : Prop :=
  ∀ i item, items[i]? = some item → Stands type parent (position type start (items.take i)) item

section

variable {type parent} {pos start count : Nat} {item : α} {items : List α} {fault : Fault}

theorem le_position : start ≤ position type start items := Nat.le_add_right _ _

theorem position_cons :
    position type start (item :: items) = position type (start + type.size item) items := by
  simp only [position, List.map_cons, List.sum_cons, Nat.add_assoc]

theorem inRow_nil : InRow type parent start [] := fun i item h => by simp at h

theorem inRow_cons_iff : InRow type parent start (item :: items) ↔
    Stands type parent start item ∧ InRow type parent (start + type.size item) items := by
  constructor
  · intro h
    refine ⟨h 0 item rfl, fun i later hi => ?_⟩
    have hlater := h (i + 1) later hi
    rwa [List.take_succ_cons, position_cons] at hlater
  · rintro ⟨hfirst, hrest⟩ i later hi
    cases i with
    | zero =>
      rw [List.getElem?_cons_zero, Option.some.injEq] at hi
      subst hi
      exact hfirst
    | succ i =>
      rw [List.take_succ_cons, position_cons]
      exact hrest i later hi

theorem position_append {more : List α} :
    position type start (items ++ more) = position type (position type start items) more := by
  simp only [position, List.map_append, List.sum_append, Nat.add_assoc]

/-- A row goes on where its first part ends. -/
theorem inRow_append_iff {more : List α} : InRow type parent start (items ++ more) ↔
    InRow type parent start items ∧ InRow type parent (position type start items) more := by
  induction items generalizing start with
  | nil => simp only [List.nil_append, inRow_nil, true_and, position, List.map_nil, List.sum_nil,
      Nat.add_zero]
  | cons item items ih =>
    rw [List.cons_append, inRow_cons_iff, inRow_cons_iff, ih, position_cons, and_assoc]

theorem advance_of_stands (h : Stands type parent pos item) :
    advance type parent pos item = .ok (pos + type.size item) := by
  rw [advance, Size.add?_eq_some_iff.mpr ⟨h.stop_lt, rfl⟩]

/-- A position has an object or a fault. -/
theorem stands_or_stuck (pos : Nat) :
    (∃ item, Stands type parent pos item) ∨ ∃ fault, Stuck type parent pos fault := by
  by_cases hle : pos ≤ parent.length
  · cases hitem : type.fromView (parent.rest pos) with
    | error fault => exact .inr ⟨fault, .refused hle hitem⟩
    | ok item =>
      by_cases hlt : pos + type.size item < sizeLimit
      · exact .inl ⟨item, hle, hitem, hlt⟩
      · exact .inr ⟨_, .overlong hle hitem (Nat.le_of_not_lt hlt)⟩
  · exact .inr ⟨_, .past (Nat.lt_of_not_le hle)⟩

theorem selfSizedFrom_of_stands (h : Stands type parent pos item) (count : Nat) :
    selfSizedFrom type parent (count + 1) pos =
      (selfSizedFrom type parent count (pos + type.size item)).map
        fun run => (item :: run.1, run.2) := by
  rw [selfSizedFrom, View.cutFrom_eq_rest, if_pos h.start_le]
  simp only [bind, Except.bind, h.fromView_eq, advance_of_stands h]
  cases selfSizedFrom type parent count (pos + type.size item) <;> rfl

theorem selfSizedFrom_of_stuck (h : Stuck type parent pos fault) (count : Nat) :
    selfSizedFrom type parent (count + 1) pos = .error fault := by
  rw [selfSizedFrom, View.cutFrom_eq_rest]
  cases h with
  | past hpast =>
    rw [if_neg (Nat.not_le.mpr hpast)]
    rfl
  | refused hle hrefused =>
    rw [if_pos hle]
    simp only [bind, Except.bind, hrefused]
  | overlong hle hitem hlimit =>
    rw [if_pos hle]
    simp only [bind, Except.bind, hitem, advance, Size.add?_eq_none_iff.mpr hlimit]
    rfl

/-- What is decoded after objects in a row. -/
theorem selfSizedFrom_of_inRow (h : InRow type parent start items) (count : Nat) :
    selfSizedFrom type parent (items.length + count) start =
      (selfSizedFrom type parent count (position type start items)).map
        fun run => (items ++ run.1, run.2) := by
  induction items generalizing start with
  | nil =>
    rw [List.length_nil, Nat.zero_add]
    exact (congrFun Except.map_id _).symm
  | cons item items ih =>
    obtain ⟨hfirst, hrest⟩ := inRow_cons_iff.mp h
    rw [List.length_cons, Nat.add_right_comm, selfSizedFrom_of_stands hfirst, ih hrest,
      ← position_cons]
    cases selfSizedFrom type parent count (position type start (item :: items)) <;> rfl

/-- There are `count` objects in a row, or fewer and then a fault. -/
theorem row_or_stuck (start count : Nat) :
    (∃ items, items.length = count ∧ InRow type parent start items) ∨
    ∃ items fault, items.length < count ∧ InRow type parent start items ∧
      Stuck type parent (position type start items) fault := by
  induction count generalizing start with
  | zero => exact .inl ⟨[], rfl, inRow_nil⟩
  | succ count ih =>
    rcases stands_or_stuck start with ⟨item, hitem⟩ | ⟨fault, hstuck⟩
    · rcases ih (start + type.size item) with ⟨items, hlength, hrow⟩ |
        ⟨items, fault, hlength, hrow, hstuck⟩
      · exact .inl ⟨item :: items, congrArg (· + 1) hlength, inRow_cons_iff.mpr ⟨hitem, hrow⟩⟩
      · exact .inr ⟨item :: items, fault, Nat.succ_lt_succ hlength,
          inRow_cons_iff.mpr ⟨hitem, hrow⟩, position_cons ▸ hstuck⟩
    · exact .inr ⟨[], fault, Nat.succ_pos count, inRow_nil, hstuck⟩

theorem selfSizedFrom_of_row (hlength : items.length = count)
    (hrow : InRow type parent start items) :
    selfSizedFrom type parent count start = .ok (items, position type start items) := by
  have hrun := selfSizedFrom_of_inRow hrow 0
  rw [Nat.add_zero, hlength] at hrun
  rw [hrun, selfSizedFrom]
  simp only [Except.map, List.append_nil]

theorem selfSizedFrom_of_fault (hlength : items.length < count)
    (hrow : InRow type parent start items)
    (hstuck : Stuck type parent (position type start items) fault) :
    selfSizedFrom type parent count start = .error fault := by
  obtain ⟨more, rfl⟩ : ∃ more, count = items.length + (more + 1) :=
    ⟨count - items.length - 1, by omega⟩
  rw [selfSizedFrom_of_inRow hrow, selfSizedFrom_of_stuck hstuck]
  rfl

/-- A run of `count` objects gives those in a row, and leaves the position after them. -/
theorem selfSizedFrom_eq_ok_iff {stop : Nat} :
    selfSizedFrom type parent count start = .ok (items, stop) ↔
      items.length = count ∧ InRow type parent start items ∧ stop = position type start items := by
  constructor
  · intro h
    rcases row_or_stuck start count with ⟨items', hlength, hrow⟩ |
      ⟨items', fault, hlength, hrow, hstuck⟩
    · rw [selfSizedFrom_of_row hlength hrow] at h
      cases h
      exact ⟨hlength, hrow, rfl⟩
    · rw [selfSizedFrom_of_fault hlength hrow hstuck] at h
      cases h
  · rintro ⟨hlength, hrow, rfl⟩
    exact selfSizedFrom_of_row hlength hrow

end

/-- The sequence consists of `count` objects in a row, the last of which ends inside the parent, and
its view is the window from the first of them to the end of the last. -/
structure Consists (start count : Nat) (s : Sequence α) : Prop where
  length_eq : s.items.length = count
  inRow : InRow type parent start s.items
  stop_le : position type start s.items ≤ parent.length
  cut_eq : parent.cut start (position type start s.items - start) = .ok s.view

/-- Why there is no sequence of `count` objects. -/
inductive Fails (start count : Nat) : Fault → Prop where
  /-- After fewer objects in a row there is none. -/
  | stuck {items : List α} {fault : Fault} (hlength : items.length < count)
      (hrow : InRow type parent start items)
      (hstuck : Stuck type parent (position type start items) fault) : Fails start count fault
  /-- The last object says that it ends outside the parent. -/
  | overrun {items : List α} (hlength : items.length = count)
      (hrow : InRow type parent start items)
      (hstop : parent.length < position type start items) :
    Fails start count (.range start (position type start items - start) parent.length)

section

variable {type parent} {start count : Nat}

theorem Consists.selfSized_eq {s : Sequence α} (h : Consists type parent start count s) :
    selfSized type parent start count = .ok s := by
  rw [selfSized, selfSizedFrom_of_row h.length_eq h.inRow]
  simp only [bind, Except.bind, h.cut_eq]
  rfl

theorem Fails.selfSized_eq {fault : Fault} (h : Fails type parent start count fault) :
    selfSized type parent start count = .error fault := by
  rw [selfSized]
  cases h with
  | stuck hlength hrow hstuck =>
    rw [selfSizedFrom_of_fault hlength hrow hstuck]
    rfl
  | @overrun items hlength hrow hstop =>
    have hfrom : start + (position type start items - start) = position type start items :=
      Nat.add_sub_cancel' le_position
    rw [selfSizedFrom_of_row hlength hrow]
    simp only [bind, Except.bind, View.cut_eq, hfrom, if_neg (Nat.not_le.mpr hstop)]

/-- A row that ends inside the parent makes a sequence. -/
theorem exists_consists {items : List α} (hlength : items.length = count)
    (hrow : InRow type parent start items) (hstop : position type start items ≤ parent.length) :
    ∃ view, Consists type parent start count ⟨view, items⟩ := by
  have hend : start + (position type start items - start) ≤ parent.length := by
    rwa [Nat.add_sub_cancel' le_position]
  obtain ⟨view, hview, -, -⟩ := View.exists_cut hend
  exact ⟨view, hlength, hrow, hstop, hview⟩

theorem consists_or_fails (start count : Nat) :
    (∃ s, Consists type parent start count s) ∨ ∃ fault, Fails type parent start count fault := by
  rcases row_or_stuck start count with ⟨items, hlength, hrow⟩ |
    ⟨items, fault, hlength, hrow, hstuck⟩
  · by_cases hstop : position type start items ≤ parent.length
    · obtain ⟨view, hconsists⟩ := exists_consists hlength hrow hstop
      exact .inl ⟨⟨view, items⟩, hconsists⟩
    · exact .inr ⟨_, .overrun hlength hrow (Nat.lt_of_not_le hstop)⟩
  · exact .inr ⟨fault, .stuck hlength hrow hstuck⟩

theorem selfSized_eq_ok_iff {s : Sequence α} :
    selfSized type parent start count = .ok s ↔ Consists type parent start count s :=
  (result_iff_of_settled (fun _ => Consists.selfSized_eq) (fun _ => Fails.selfSized_eq)
    (consists_or_fails start count)).1 s

/-- The view of the sequence has the room that the sizes of the objects add up to. -/
theorem Consists.cut_sizes {s : Sequence α} (h : Consists type parent start count s) :
    parent.cut start (s.items.map type.size).sum = .ok s.view := by
  have hcut := h.cut_eq
  rwa [position, Nat.add_sub_cancel_left] at hcut

theorem Consists.length_view {s : Sequence α} (h : Consists type parent start count s) :
    s.view.length = (s.items.map type.size).sum := View.length_of_cut h.cut_sizes

/-- The view of the sequence ends where the last object does. -/
theorem Consists.stop_eq {s : Sequence α} (h : Consists type parent start count s) :
    start + s.view.length = position type start s.items := by
  rw [h.length_view, position]

end

/-- The positions settle what a sequence of `count` objects comes to. It succeeds exactly if there
are `count` objects in a row and the last of them ends inside the parent; these are its items then,
and its view is the window over them. It fails with the fault of the first position where there is
no object, or else with that of the window. The cursor that the objects leave is what their sizes
add up to from the start on, and so not before the start. -/
theorem selfSized_by_positions (start count : Nat) :
    (∀ s, selfSized type parent start count = .ok s ↔ Consists type parent start count s) ∧
    (∀ fault, selfSized type parent start count = .error fault ↔
      Fails type parent start count fault) ∧
    ∀ items stop, selfSizedFrom type parent count start = .ok (items, stop) ↔
      items.length = count ∧ InRow type parent start items ∧
        stop = start + (items.map type.size).sum := by
  have hsettled : (∃ s, Consists type parent start count s) ∨
      ∃ fault, Fails type parent start count fault := consists_or_fails start count
  obtain ⟨hok, herror⟩ := result_iff_of_settled (fun s => Consists.selfSized_eq)
    (fun fault => Fails.selfSized_eq) hsettled
  exact ⟨hok, herror, fun items stop => selfSizedFrom_eq_ok_iff⟩

/-- The second of two objects ends one byte after the parent. -/
example : selfSized .firstByteSized (View.root ⟨[1, 2], by decide⟩) 0 2 =
    .error (.range 0 3 2) := rfl

end DisplayClient.Sequence
