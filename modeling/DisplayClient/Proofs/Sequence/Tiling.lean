import DisplayClient.ObjectType.Counted
import DisplayClient.Proofs.Sequence.Row
import DisplayClient.Proofs.Sequence.Windows

/-!
# Objects without gaps

An object that keeps the start of the view that it is decoded from, and is as
long as what it keeps (`ObjectType.KeepsStart`), has the bytes that the parent
has where it stands (`Lies`). If each object ends where the next one begins,
the bytes of all of them, one after the other, are those of the parent from
the first on (`flatten_of_lies`). So they are in a sequence, whose view has
these bytes and no others: no byte is lost, read twice or taken from outside
(`items_tile_view`). Objects of one size need in addition that they have it
(`Uniform`); bytes, counted and padded strings and records all keep the start
of their views.
-/

namespace DisplayClient

/-- Objects keep the start of the view that they are decoded from, and are as long as that. -/
structure ObjectType.KeepsStart {α : Type} (type : ObjectType α) : Prop where
  begins {v : View} {item : α} : type.fromView v = .ok item → (type.view item).bytes <+: v.bytes
  size_eq {v : View} {item : α} :
    type.fromView v = .ok item → type.size item = (type.view item).length

namespace ObjectType

theorem keepsStart_keeping {tag : TypeTag} {keep : View → Except Fault View}
    (h : ∀ {v w}, keep v = .ok w → w.bytes <+: v.bytes) : (keeping tag keep).KeepsStart :=
  ⟨h, fun _ => rfl⟩

theorem begins_of_cut {v w : View} {length : Nat} (h : v.cut 0 length = .ok w) :
    w.bytes <+: v.bytes := by
  rw [(View.cut_eq_ok_iff.mp h).2.1, List.drop_zero]
  exact List.take_prefix length v.bytes

theorem bytes_keepsStart : bytes.KeepsStart :=
  keepsStart_keeping fun h => by
    cases h
    exact List.prefix_refl _

theorem countedString_keepsStart : countedString.KeepsStart :=
  keepsStart_keeping fun h => by
    obtain ⟨_, -, hcut⟩ := bind_eq_ok_iff.mp h
    exact begins_of_cut hcut

theorem paddedString_keepsStart : paddedString.KeepsStart :=
  keepsStart_keeping fun h => by
    obtain ⟨_, -, hcut⟩ := bind_eq_ok_iff.mp h
    exact begins_of_cut hcut

theorem stringRecord_keepsStart : stringRecord.KeepsStart :=
  keepsStart_keeping fun h => by
    obtain ⟨_, -, h⟩ := bind_eq_ok_iff.mp h
    obtain ⟨_, -, hcut⟩ := bind_eq_ok_iff.mp h
    exact begins_of_cut hcut

end ObjectType

namespace Sequence

variable {α : Type} {type : ObjectType α} {parent : View} {start count size : Nat}
  {items : List α}

/-- The object has the bytes that the parent has from `pos` on, as many as its size says. -/
structure Lies (type : ObjectType α) (parent : View) (pos : Nat) (item : α) : Prop where
  begins : (type.view item).bytes <+: parent.bytes.drop pos
  size_eq : type.size item = (type.view item).length

/-- By induction on the objects: each ends where the next one begins. -/
theorem flatten_of_lies (h : ∀ i item, items[i]? = some item →
    Lies type parent (position type start (items.take i)) item) :
    (items.map fun item => (type.view item).bytes).flatten =
      (parent.bytes.drop start).take (items.map type.size).sum := by
  induction items generalizing start with
  | nil => rfl
  | cons item items ih =>
    have hfirst : Lies type parent start item := h 0 item rfl
    have hlies : ∀ i later, items[i]? = some later →
        Lies type parent (position type (start + type.size item) (items.take i)) later := by
      intro i later hi
      have hlater := h (i + 1) later hi
      rwa [List.take_succ_cons, position_cons] at hlater
    have hbytes : (type.view item).bytes = (parent.bytes.drop start).take (type.size item) := by
      rw [hfirst.size_eq]
      exact List.prefix_iff_eq_take.mp hfirst.begins
    rw [List.map_cons, List.map_cons, List.flatten_cons, List.sum_cons, ih hlies, List.take_add,
      List.drop_drop, ← hbytes]

/-- All items have the same size. -/
def Uniform (type : ObjectType α) (size : Nat) (items : List α) : Prop :=
  ∀ item ∈ items, type.size item = size

theorem uniform_of_sizes {n : Nat} (h : items.map type.size = List.replicate n size) :
    Uniform type size items := by
  rw [Uniform, ← List.forall_mem_map (f := type.size) (P := (· = size)), h]
  exact fun _ => List.eq_of_mem_replicate

theorem Uniform.sum_eq (h : Uniform type size items) :
    (items.map type.size).sum = items.length * size := by
  rw [List.map_congr_left h, List.map_const', List.sum_replicate_nat]

theorem Uniform.position_eq (h : Uniform type size items) :
    position type start items = start + items.length * size := by
  rw [position, h.sum_eq]

theorem Uniform.position_take (h : Uniform type size items) {i : Nat} (hi : i ≤ items.length) :
    position type start (items.take i) = start + i * size := by
  have htake : Uniform type size (items.take i) := fun item hitem =>
    h item (List.mem_of_mem_take hitem)
  rw [htake.position_eq, List.length_take_of_le hi]

/-- The bytes of the items, one after the other, are those of the view, which are the `total` bytes
of the parent from `start` on. -/
structure Tiles (type : ObjectType α) (parent : View) (start total : Nat) (s : Sequence α) :
    Prop where
  flatten_eq : (s.items.map fun item => (type.view item).bytes).flatten = s.view.bytes
  view_bytes : s.view.bytes = (parent.bytes.drop start).take total
  stop_le : start + total ≤ parent.length

theorem Stands.lies (h : type.KeepsStart) {pos : Nat} {item : α}
    (hstands : Stands type parent pos item) : Lies type parent pos item :=
  ⟨h.begins hstands.fromView_eq, h.size_eq hstands.fromView_eq⟩

theorem lies_of_window (h : type.KeepsStart) {pos : Nat} {w : View} {item : α}
    (hw : parent.cut pos size = .ok w) (hitem : type.fromView w = .ok item) :
    Lies type parent pos item := by
  refine ⟨(h.begins hitem).trans ?_, h.size_eq hitem⟩
  rw [(View.cut_eq_ok_iff.mp hw).2.1]
  exact List.take_prefix _ _

variable {s : Sequence α}

theorem Consists.tiles (h : type.KeepsStart) (hs : Consists type parent start count s) :
    Tiles type parent start (s.items.map type.size).sum s := by
  obtain ⟨hstop, hview, -⟩ := View.cut_eq_ok_iff.mp hs.cut_sizes
  refine ⟨?_, hview, hstop⟩
  rw [hview]
  exact flatten_of_lies fun i item hi => (hs.inRow i item hi).lies h

theorem Windowed.tiles (h : type.KeepsStart)
    (hs : Windowed type.fromView parent start count size s) (hsize : Uniform type size s.items) :
    Tiles type parent start (count * size) s := by
  obtain ⟨hstop, hview, -⟩ := View.cut_eq_ok_iff.mp hs.cut_eq
  refine ⟨?_, hview, hstop⟩
  rw [hview, ← hs.length_eq, ← hsize.sum_eq]
  refine flatten_of_lies fun i item hi => ?_
  obtain ⟨hlt, -⟩ := List.getElem?_eq_some_iff.mp hi
  obtain ⟨w, hw, hitem⟩ := hs.decoded hi
  rw [hsize.position_take (Nat.le_of_lt hlt)]
  exact lies_of_window h hw hitem

/-- If objects keep the start of their views, then those of a sequence have all bytes of its view
between them, each byte once and in order: whatever the sizes are that they tell, and also if they
are of one size and have it. Bytes, strings and records keep the start of their views. -/
theorem items_tile_view :
    (∀ (α : Type) (type : ObjectType α), type.KeepsStart → ∀ parent start count,
      (∀ s, selfSized type parent start count = .ok s →
        Tiles type parent start (s.items.map type.size).sum s) ∧
      ∀ size s, objects type parent start count size = .ok s → Uniform type size s.items →
        Tiles type parent start (count * size) s) ∧
    ObjectType.bytes.KeepsStart ∧ ObjectType.countedString.KeepsStart ∧
    ObjectType.paddedString.KeepsStart ∧ ObjectType.stringRecord.KeepsStart := by
  refine ⟨fun α type h parent start count => ⟨fun s hs => ?_, fun size s hs hsize => ?_⟩,
    ObjectType.bytes_keepsStart, ObjectType.countedString_keepsStart,
    ObjectType.paddedString_keepsStart, ObjectType.stringRecord_keepsStart⟩
  · exact (selfSized_eq_ok_iff.mp hs).tiles h
  · have hwindowed := (objects_strided parent start count type size).eq_ok_iff.mp hs
    exact hwindowed.tiles h hsize

/-- Bytes that tell their own size take all that is left, and those after them take nothing. Bytes
of one size share it. -/
theorem items_tile_view_of_rest :
    let parent := View.root ⟨[1, 2, 3], by decide⟩
    ObjectType.bytes.KeepsStart ∧
    (∃ s, selfSized .bytes parent 1 2 = .ok s ∧ s.items.map (·.bytes) = [[2, 3], []] ∧
      Tiles .bytes parent 1 2 s) ∧
    ∃ s, objects .bytes parent 1 2 1 = .ok s ∧ s.items.map (·.bytes) = [[2], [3]] ∧
      Uniform .bytes 1 s.items ∧ Tiles .bytes parent 1 2 s := by
  have hrest : ∃ s, selfSized .bytes (View.root ⟨[1, 2, 3], by decide⟩) 1 2 = .ok s ∧
      s.items.map (·.bytes) = [[2, 3], []] ∧ s.items.map ObjectType.bytes.size = [2, 0] :=
    ⟨_, rfl, rfl, rfl⟩
  have hshared : ∃ s, objects .bytes (View.root ⟨[1, 2, 3], by decide⟩) 1 2 1 = .ok s ∧
      s.items.map (·.bytes) = [[2], [3]] ∧ s.items.map ObjectType.bytes.size = [1, 1] :=
    ⟨_, rfl, rfl, rfl⟩
  intro parent
  obtain ⟨htile, hbytes, -⟩ := items_tile_view
  obtain ⟨hrow, hone⟩ := htile View .bytes hbytes parent 1 2
  obtain ⟨s, hs, hitems, hsizes⟩ := hrest
  obtain ⟨t, ht, hwords, hones⟩ := hshared
  have htiles := hrow s hs
  rw [hsizes] at htiles
  have huniform : Uniform .bytes 1 t.items := uniform_of_sizes (n := 2) hones
  exact ⟨hbytes, ⟨s, hs, hitems, htiles⟩, t, ht, hwords, huniform, hone 1 t ht huniform⟩

end Sequence

end DisplayClient
