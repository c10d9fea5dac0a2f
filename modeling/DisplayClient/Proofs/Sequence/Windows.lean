import DisplayClient.ObjectType.Sample
import DisplayClient.Proofs.Memory.Cutting
import DisplayClient.Proofs.Step.Sequencing
import DisplayClient.Sequence.Strided
import Mathlib.Algebra.Group.Nat.Defs

/-!
# Items of one size

Items of one size are checked once: all of them lie inside the parent, or the
sequence fails, whatever would have been decoded (`extent_eq`,
`strided_of_outside`). If they do lie inside, nothing on the way to them can
leave the parent or the sizes (`inside_of_fits`), so that only the items
themselves are left to fail: each is decoded from its own window, and the
first that cannot be decoded fails the sequence (`strided_iff`). This holds of
numbers, by type as by format, and of objects (`strided_checked_once`).
-/

namespace DisplayClient.Sequence

variable {α : Type}

/-! ## The check -/

section Check

variable (parent : View) (offset count stride : Nat)

/-- The fault of items that do not all lie inside the parent. The room that they take is reported as
far as there are sizes. -/
def outside : Fault := .range offset (min (count * stride) Size.max) parent.length

theorem extent_eq :
    extent parent offset count stride =
      if offset + count * stride ≤ parent.length then .ok (count * stride)
      else .error (outside parent offset count stride) := by
  have hparent : parent.length < sizeLimit := parent.length_lt
  have hmax : Size.max + 1 = sizeLimit := rfl
  rw [extent]
  cases hmul : Size.mul? count stride with
  | none =>
    -- The product is no size, so that the parent has no room for it either.
    have hlimit := Size.mul?_eq_none_iff.mp hmul
    rw [if_neg (show ¬ offset + count * stride ≤ parent.length by omega), outside,
      Nat.min_eq_right (show Size.max ≤ count * stride by omega)]
    rfl
  | some total =>
    obtain ⟨hlt, rfl⟩ := Size.mul?_eq_some_iff.mp hmul
    rw [outside, Nat.min_eq_left (show count * stride ≤ Size.max by omega)]
    cases hadd : Size.add? offset (count * stride) with
    | none =>
      have hlimit := Size.add?_eq_none_iff.mp hadd
      rw [if_neg (show ¬ offset + count * stride ≤ parent.length by omega)]
      simp only [hadd]
      rfl
    | some stop =>
      obtain ⟨-, rfl⟩ := Size.add?_eq_some_iff.mp hadd
      simp only [hadd]
      rfl

/-- Where the item at `index` starts, by a product and a sum that must be sizes. -/
def start? (index : Nat) : Option Nat := do Size.add? offset (← Size.mul? index stride)

/-- Nothing on the way to the items leaves the sizes or the parent: not the product and the sum that
make the start of an item, not the bytes of an item, which are as many as its stride, and not the
window over all of them. -/
structure Inside : Prop where
  start_eq {i : Nat} : i < count → start? offset stride i = some (offset + i * stride)
  slice_eq {i : Nat} : i < count →
    parent.slice? (offset + i * stride) stride =
      some (scalarBytes parent stride (offset + i * stride))
  length_eq {i : Nat} : i < count →
    (scalarBytes parent stride (offset + i * stride)).length = stride
  cut_eq : ∃ view, parent.cut offset (count * stride) = .ok view

variable {parent offset count stride}

theorem stop_le {i : Nat} (hfits : offset + count * stride ≤ parent.length) (hi : i < count) :
    offset + i * stride + stride ≤ parent.length := by
  have hrun : (i + 1) * stride ≤ count * stride := Nat.mul_le_mul_right stride hi
  rw [Nat.succ_mul] at hrun
  omega

theorem inside_of_fits (hfits : offset + count * stride ≤ parent.length) :
    Inside parent offset count stride where
  start_eq {i} hi := by
    have hstop := stop_le hfits hi
    have hparent : parent.length < sizeLimit := parent.length_lt
    have hmul : Size.mul? i stride = some (i * stride) :=
      Size.mul?_eq_some_iff.mpr ⟨by omega, rfl⟩
    have hadd : Size.add? offset (i * stride) = some (offset + i * stride) :=
      Size.add?_eq_some_iff.mpr ⟨by omega, rfl⟩
    rw [start?, hmul]
    exact hadd
  slice_eq {i} hi := by
    rw [View.slice?_eq, if_pos (stop_le hfits hi), scalarBytes]
  length_eq {i} hi := View.length_take_drop (stop_le hfits hi)
  cut_eq := by
    obtain ⟨view, hview, -, -⟩ := View.exists_cut hfits
    exact ⟨view, hview⟩

/-- Whatever the items are, none is looked at. -/
theorem strided_of_outside (hfits : ¬ offset + count * stride ≤ parent.length)
    (read : Nat → Except Fault α) :
    strided parent offset count stride read = .error (outside parent offset count stride) := by
  rw [strided, extent_eq, if_neg hfits]
  rfl

theorem strided_of_fits (hfits : offset + count * stride ≤ parent.length)
    (read : Nat → Except Fault α) :
    strided parent offset count stride read = (do
      let items ← readEach read stride count offset
      let view ← parent.cut offset (count * stride)
      return ⟨view, items⟩) := by
  rw [strided, extent_eq, if_pos hfits]
  rfl

end Check

/-! ## One after the other -/

section Reading

variable {read : Nat → Except Fault α} {stride : Nat}

theorem start_succ (start stride i : Nat) :
    start + stride + i * stride = start + (i + 1) * stride := by
  rw [Nat.succ_mul]
  omega

theorem readEach_of_values {items : List α} {start : Nat}
    (h : ∀ i item, items[i]? = some item → read (start + i * stride) = .ok item) :
    readEach read stride items.length start = .ok items := by
  induction items generalizing start with
  | nil => rfl
  | cons item items ih =>
    have hfirst : read start = .ok item := by simpa using h 0 item rfl
    have hrest : readEach read stride items.length (start + stride) = .ok items :=
      ih fun i later hi => by rw [start_succ]; exact h (i + 1) later hi
    rw [List.length_cons, readEach]
    simp only [bind, Except.bind, hfirst, hrest]
    rfl

theorem readEach_of_fault {count start i : Nat} {fault : Fault} (hi : i < count)
    (hfault : read (start + i * stride) = .error fault)
    (hbefore : ∀ j < i, ∃ item, read (start + j * stride) = .ok item) :
    readEach read stride count start = .error fault := by
  induction count generalizing start i with
  | zero => exact absurd hi (Nat.not_lt_zero i)
  | succ count ih =>
    rw [readEach]
    cases i with
    | zero =>
      have hfirst : read start = .error fault := by simpa using hfault
      simp only [bind, Except.bind, hfirst]
    | succ i =>
      obtain ⟨item, hitem⟩ := hbefore 0 (Nat.succ_pos i)
      have hfirst : read start = .ok item := by simpa using hitem
      have hrest : readEach read stride count (start + stride) = .error fault :=
        ih (Nat.lt_of_succ_lt_succ hi) (by rwa [start_succ]) fun j hj => by
          rw [start_succ]
          exact hbefore (j + 1) (Nat.succ_lt_succ hj)
      simp only [bind, Except.bind, hfirst, hrest]

/-- There are `count` values, or fewer and then a fault. -/
theorem values_or_fault (read : Nat → Except Fault α) (stride count start : Nat) :
    (∃ items : List α, items.length = count ∧
      ∀ i item, items[i]? = some item → read (start + i * stride) = .ok item) ∨
    ∃ i fault, i < count ∧ read (start + i * stride) = .error fault ∧
      ∀ j < i, ∃ item, read (start + j * stride) = .ok item := by
  induction count with
  | zero => exact .inl ⟨[], rfl, fun i item hi => by simp at hi⟩
  | succ count ih =>
    rcases ih with ⟨items, hlength, hitems⟩ | ⟨i, fault, hi, hfault, hbefore⟩
    · cases hlast : read (start + count * stride) with
      | ok last =>
        refine .inl ⟨items ++ [last], by rw [List.length_append, hlength]; rfl, fun i item hi => ?_⟩
        rcases Nat.lt_or_ge i items.length with hlt | hge
        · exact hitems i item (by rwa [List.getElem?_append_left hlt] at hi)
        · rw [List.getElem?_append_right hge, List.getElem?_singleton, hlength] at hi
          obtain ⟨hzero, hlast'⟩ := Option.ite_none_right_eq_some.mp hi
          have hi : i = count := by omega
          rw [hi, hlast, Option.some.inj hlast']
      | error fault =>
        refine .inr ⟨count, fault, Nat.lt_succ_self count, hlast, fun j hj => ?_⟩
        have hj : j < items.length := by rwa [hlength]
        exact ⟨items[j], hitems j _ (List.getElem?_eq_getElem hj)⟩
    · exact .inr ⟨i, fault, Nat.lt_succ_of_lt hi, hfault, hbefore⟩

end Reading

/-! ## Windows -/

section Windows

variable (decode : View → Except Fault α) (parent : View) (offset count stride : Nat)

/-- The sequence has `count` items, each decoded from its own window of the parent, and its view is
the window over all of them. -/
structure Windowed (s : Sequence α) : Prop where
  length_eq : s.items.length = count
  decoded {i : Nat} {item : α} : s.items[i]? = some item →
    ∃ w, parent.cut (offset + i * stride) stride = .ok w ∧ decode w = .ok item
  cut_eq : parent.cut offset (count * stride) = .ok s.view

/-- The fault is that of an item which cannot be decoded from its window; all before it can. -/
inductive Refused : Fault → Prop where
  | item {i : Nat} {w : View} {fault : Fault} (hi : i < count)
      (hcut : parent.cut (offset + i * stride) stride = .ok w) (hrefused : decode w = .error fault)
      (hbefore : ∀ j < i, ∃ w item,
        parent.cut (offset + j * stride) stride = .ok w ∧ decode w = .ok item) :
    Refused fault

variable {decode parent offset count stride} {read : Nat → Except Fault α}

theorem Windowed.length_view {s : Sequence α} (h : Windowed decode parent offset count stride s) :
    s.view.length = count * stride := View.length_of_cut h.cut_eq

theorem Windowed.fits {s : Sequence α} (h : Windowed decode parent offset count stride s) :
    offset + count * stride ≤ parent.length := (View.cut_eq_ok_iff.mp h.cut_eq).1

/-- The windows of the items lie inside the parent, too. -/
theorem exists_window (hfits : offset + count * stride ≤ parent.length) {i : Nat} (hi : i < count) :
    ∃ w, parent.cut (offset + i * stride) stride = .ok w := by
  obtain ⟨w, hw, -, -⟩ := View.exists_cut (stop_le hfits hi)
  exact ⟨w, hw⟩

/-- The items look like those of a list, if each does that is decoded from the window at the place
of one of the list. -/
theorem Windowed.map_eq {β γ : Type} {s : Sequence α} {seen : α → γ} {f : β → γ} {xs : List β}
    (hs : Windowed decode parent offset count stride s) (hlength : xs.length = count)
    (h : ∀ i x w item, xs[i]? = some x → parent.cut (offset + i * stride) stride = .ok w →
      decode w = .ok item → seen item = f x) : s.items.map seen = xs.map f := by
  refine List.ext_getElem (by simp only [List.length_map, hs.length_eq, hlength]) ?_
  intro i hi hi'
  rw [List.length_map] at hi hi'
  rw [List.getElem_map, List.getElem_map]
  obtain ⟨w, hw, hitem⟩ := hs.decoded (List.getElem?_eq_getElem hi)
  exact h i _ w _ (List.getElem?_eq_getElem hi') hw hitem

theorem Windowed.readEach_eq {s : Sequence α} (h : Windowed decode parent offset count stride s)
    (hread : ∀ start w, parent.cut start stride = .ok w → read start = decode w) :
    readEach read stride count offset = .ok s.items := by
  rw [← h.length_eq]
  refine readEach_of_values fun i item hi => ?_
  obtain ⟨w, hw, hitem⟩ := h.decoded hi
  rw [hread _ w hw, hitem]

theorem Refused.readEach_eq {fault : Fault} (h : Refused decode parent offset count stride fault)
    (hread : ∀ start w, parent.cut start stride = .ok w → read start = decode w) :
    readEach read stride count offset = .error fault := by
  obtain ⟨hi, hcut, hrefused, hbefore⟩ := h
  refine readEach_of_fault hi (by rw [hread _ _ hcut, hrefused]) fun j hj => ?_
  obtain ⟨w, item, hw, hitem⟩ := hbefore j hj
  exact ⟨item, by rw [hread _ w hw, hitem]⟩

theorem windowed_or_refused (decode : View → Except Fault α)
    (hfits : offset + count * stride ≤ parent.length) :
    (∃ s, Windowed decode parent offset count stride s) ∨
      ∃ fault, Refused decode parent offset count stride fault := by
  let read (start : Nat) : Except Fault α := do decode (← parent.cut start stride)
  have hread {start : Nat} {w : View} (hw : parent.cut start stride = .ok w) :
      read start = decode w := by
    simp only [read, hw]
    rfl
  rcases values_or_fault read stride count offset with ⟨items, hlength, hitems⟩ |
    ⟨i, fault, hi, hfault, hbefore⟩
  · obtain ⟨view, hview, -, -⟩ := View.exists_cut hfits
    refine .inl ⟨⟨view, items⟩, hlength, fun {i item} hi => ?_, hview⟩
    obtain ⟨hlt, -⟩ := List.getElem?_eq_some_iff.mp hi
    obtain ⟨w, hw⟩ := exists_window hfits (hlength ▸ hlt)
    exact ⟨w, hw, (hread hw).symm.trans (hitems i item hi)⟩
  · obtain ⟨w, hw⟩ := exists_window hfits hi
    refine .inr ⟨fault, .item hi hw ((hread hw).symm.trans hfault) fun j hj => ?_⟩
    obtain ⟨item, hitem⟩ := hbefore j hj
    obtain ⟨w, hw⟩ := exists_window hfits (Nat.lt_trans hj hi)
    exact ⟨w, item, hw, (hread hw).symm.trans hitem⟩

/-- Each item is decoded from its window. -/
theorem strided_iff (hfits : offset + count * stride ≤ parent.length)
    (hread : ∀ start w, parent.cut start stride = .ok w → read start = decode w) :
    (∀ s, strided parent offset count stride read = .ok s ↔
      Windowed decode parent offset count stride s) ∧
    ∀ fault, strided parent offset count stride read = .error fault ↔
      Refused decode parent offset count stride fault := by
  rw [strided_of_fits hfits]
  refine result_iff_of_settled (fun s hs => ?_) (fun fault hfault => ?_)
    (windowed_or_refused decode hfits)
  · simp only [bind, Except.bind, hs.readEach_eq hread, hs.cut_eq]
    rfl
  · rw [hfault.readEach_eq hread]
    rfl

end Windows

/-! ## Numbers and objects -/

section Kinds

variable (parent : View) (offset count stride : Nat)

/-- What comes of decoding `count` items of `stride` bytes: if they do not all lie inside the
parent, the fault that says so, and else the sequence of the items, each from its own window, or the
fault of the first that cannot be decoded. -/
structure Strided (decode : View → Except Fault α) (result : Except Fault (Sequence α)) :
    Prop where
  of_outside : ¬ offset + count * stride ≤ parent.length →
    result = .error (outside parent offset count stride)
  ok_iff : offset + count * stride ≤ parent.length →
    ∀ s, result = .ok s ↔ Windowed decode parent offset count stride s
  error_iff : offset + count * stride ≤ parent.length →
    ∀ fault, result = .error fault ↔ Refused decode parent offset count stride fault

variable {parent offset count stride}

theorem strided_of_windows {decode : View → Except Fault α} {read : Nat → Except Fault α}
    (hread : ∀ start w, parent.cut start stride = .ok w → read start = decode w) :
    Strided parent offset count stride decode (strided parent offset count stride read) where
  of_outside hfits := strided_of_outside hfits read
  ok_iff hfits := (strided_iff hfits hread).1
  error_iff hfits := (strided_iff hfits hread).2

theorem Strided.eq_ok_iff {decode : View → Except Fault α} {result : Except Fault (Sequence α)}
    (h : Strided parent offset count stride decode result) {s : Sequence α} :
    result = .ok s ↔ Windowed decode parent offset count stride s := by
  by_cases hfits : offset + count * stride ≤ parent.length
  · exact h.ok_iff hfits s
  · rw [h.of_outside hfits]
    constructor
    · intro hs
      cases hs
    · intro hs
      exact absurd hs.fits hfits

/-- Items that are always decoded make a sequence wherever there is room for them. -/
theorem Strided.exists_ok_iff {f : View → α} {result : Except Fault (Sequence α)}
    (h : Strided parent offset count stride (fun w => .ok (f w)) result) :
    (∃ s, result = .ok s) ↔ offset + count * stride ≤ parent.length := by
  by_cases hfits : offset + count * stride ≤ parent.length
  · refine ⟨fun _ => hfits, fun _ => ?_⟩
    cases hresult : result with
    | ok s => exact ⟨s, rfl⟩
    | error fault =>
      obtain ⟨-, -, hrefused, -⟩ := (h.error_iff hfits fault).mp hresult
      cases hrefused
  · rw [h.of_outside hfits]
    simp [hfits]

theorem scalarBytes_of_cut {start : Nat} {w : View} (h : parent.cut start stride = .ok w) :
    scalarBytes parent stride start = w.bytes := (View.cut_eq_ok_iff.mp h).2.1.symm

variable (parent offset count)

theorem scalars_strided (α : Type) [Scalar α] :
    Strided parent offset count (Scalar.width α) (fun w => .ok (Scalar.read w.bytes))
      (scalars α parent offset count) :=
  strided_of_windows fun start w hw => by rw [scalarBytes_of_cut hw]

theorem formatted_strided {c : Char} {format : ScalarFormat}
    (h : ScalarFormat.ofChar c = .ok format) :
    Strided parent offset count format.width (fun w => .ok (format.read w.bytes))
      (formatted parent offset count c) := by
  rw [formatted, h]
  exact strided_of_windows fun start w hw => by rw [scalarBytes_of_cut hw]

theorem objects_strided (type : ObjectType α) (size : Nat) :
    Strided parent offset count size type.fromView (objects type parent offset count size) :=
  strided_of_windows fun start w hw => by rw [hw]; rfl

/-- Whether the items lie inside the parent is all that is checked, and is checked exactly. If they
do not, no item matters. If they do, then nothing on the way to them leaves the sizes or the parent,
numbers are always decoded, and objects up to the first that its type refuses. -/
theorem strided_checked_once :
    (∀ stride, ((∃ total, extent parent offset count stride = .ok total) ↔
        offset + count * stride ≤ parent.length) ∧
      (offset + count * stride ≤ parent.length → Inside parent offset count stride)) ∧
    (∀ (α : Type) [Scalar α],
      Strided parent offset count (Scalar.width α) (fun w => .ok (Scalar.read w.bytes))
        (scalars α parent offset count) ∧
      ((∃ s, scalars α parent offset count = .ok s) ↔
        offset + count * Scalar.width α ≤ parent.length)) ∧
    (∀ c format, ScalarFormat.ofChar c = .ok format →
      Strided parent offset count format.width (fun w => .ok (format.read w.bytes))
        (formatted parent offset count c) ∧
      ((∃ s, formatted parent offset count c = .ok s) ↔
        offset + count * format.width ≤ parent.length)) ∧
    ∀ (α : Type) (type : ObjectType α) (size : Nat),
      Strided parent offset count size type.fromView (objects type parent offset count size) := by
  refine ⟨fun stride => ⟨?_, inside_of_fits⟩, fun α _ => ?_, fun c format h => ?_,
    fun α type size => objects_strided parent offset count type size⟩
  · rw [extent_eq]
    split <;> simp_all
  · have hstrided := scalars_strided parent offset count α
    exact ⟨hstrided, hstrided.exists_ok_iff⟩
  · have hstrided := formatted_strided parent offset count h
    exact ⟨hstrided, hstrided.exists_ok_iff⟩

/-- Two numbers of four bytes are too many for four bytes, and so many of two bytes that there is no
size for them; two signed ones fit. Of two objects that fit, the second is refused. -/
theorem strided_checked_once_of_four :
    let parent := View.root ⟨[1, 2, 255, 3], by decide⟩
    scalars UInt32 parent 0 2 = .error (.range 0 8 4) ∧
    scalars UInt16 parent 1 (2 ^ 63) = .error (.range 1 (2 ^ 64 - 1) 4) ∧
    (∃ s, formatted parent 0 2 'h' = .ok s ∧ s.items.length = 2) ∧
    objects .picky parent 0 2 2 = .error (.invalidExtension (.refused "picky")) := by
  intro parent
  obtain ⟨-, hscalars, -, -⟩ := strided_checked_once parent 0 2
  obtain ⟨-, hmany, -, -⟩ := strided_checked_once parent 1 (2 ^ 63)
  obtain ⟨-, -, hformatted, hobjects⟩ := strided_checked_once parent 0 2
  refine ⟨(hscalars UInt32).1.of_outside (by decide),
    (hmany UInt16).1.of_outside (by decide), ?_, ?_⟩
  · obtain ⟨hstrided, hok⟩ := hformatted 'h' .int16 rfl
    obtain ⟨s, hs⟩ := hok.mpr (by decide)
    exact ⟨s, hs, ((hstrided.ok_iff (by decide) s).mp hs).length_eq⟩
  · refine ((hobjects View .picky 2).error_iff (by decide) _).mpr ?_
    refine .item (i := 1) (by decide) rfl rfl fun j hj => ?_
    obtain rfl : j = 0 := Nat.lt_one_iff.mp hj
    exact ⟨_, _, rfl, rfl⟩

end Kinds

end DisplayClient.Sequence
