import DisplayClient.Proofs.Sequence.Tiling

/-!
# Objects that tell one size

A type delimits its objects itself if it decodes an object from the start of a
view exactly if it decodes it from a view of just that object
(`ObjectType.SelfDelimiting`). It does if its objects are decoded from their
own bytes, whatever comes after these (`ObjectType.Local.selfDelimiting`), as
counted strings are (`countedString_local`). Then it makes no difference
whether objects of one size are offered all that is left of the parent or a
window of that size each: both ways there is an object of the size at each
multiple of it (`exists_row`, `exists_windowed`), and the same one
(`uniform_sequences_agree`).
-/

namespace DisplayClient

namespace ObjectType

variable {α : Type}

/-- The type decodes an object of `size` bytes from the view, which keeps `bytes`. -/
def Gives (type : ObjectType α) (v : View) (size : Nat) (bytes : List UInt8) : Prop :=
  ∃ item, type.fromView v = .ok item ∧ type.size item = size ∧ (type.view item).bytes = bytes

theorem Gives.of_ok {type : ObjectType α} {v : View} {size : Nat} {bytes : List UInt8} {item : α}
    (h : type.Gives v size bytes) (hitem : type.fromView v = .ok item) :
    type.size item = size ∧ (type.view item).bytes = bytes := by
  obtain ⟨item', hitem', hsize, hbytes⟩ := h
  rw [hitem] at hitem'
  cases hitem'
  exact ⟨hsize, hbytes⟩

/-- The type decodes an object of some size from a view exactly if it decodes it from one that has
the first bytes of that view, as many as the size is, and was cut from the same place. -/
def SelfDelimiting (type : ObjectType α) : Prop :=
  ∀ (v w : View) (size : Nat), size ≤ v.length → w.bytes = v.bytes.take size →
    w.origin = v.origin → ∀ bytes, type.Gives v size bytes ↔ type.Gives w size bytes

theorem countedString_gives_iff {v : View} {size : Nat} {bytes : List UInt8} :
    countedString.Gives v size bytes ↔ size ≤ v.length ∧ bytes = v.bytes.take size ∧
      ∃ n : UInt8, v.bytes[0]? = some n ∧ 1 + n.toNat = size := by
  constructor
  · rintro ⟨item, hitem, rfl, rfl⟩
    obtain ⟨n, hn, hcut⟩ := bind_eq_ok_iff.mp hitem
    have hsize : 1 + n.toNat = countedString.size item := (View.length_of_cut hcut).symm
    rw [hsize, View.cut_eq_ok_iff, Nat.zero_add, List.drop_zero] at hcut
    obtain ⟨hfits, hbytes, -⟩ := hcut
    exact ⟨hfits, hbytes, n, View.uint8At_eq_ok_iff.mp hn, hsize⟩
  · rintro ⟨hfits, rfl, n, hn, rfl⟩
    rw [← Nat.zero_add (1 + n.toNat)] at hfits
    obtain ⟨item, hcut, hbytes, -⟩ := View.exists_cut hfits
    have hcount : v.uint8At 0 = .ok n := View.uint8At_eq_ok_iff.mpr hn
    exact ⟨item, bind_eq_ok_iff.mpr ⟨n, hcount, hcut⟩, View.length_of_cut hcut, hbytes⟩

/-- An object that ends inside its view is decoded, as long and with the same bytes, from every view
that begins with the bytes that it takes up. -/
def Local (type : ObjectType α) : Prop :=
  ∀ (w : View) (size : Nat) (bytes : List UInt8), type.Gives w size bytes → size ≤ w.length →
    ∀ v : View, w.bytes.take size <+: v.bytes → type.Gives v size bytes

theorem Local.selfDelimiting {type : ObjectType α} (h : type.Local) : type.SelfDelimiting := by
  intro v w size hsize hbytes _ bytes
  have hlength : w.length = size := by
    rw [Buffer.length, hbytes, List.length_take_of_le hsize]
  constructor
  · intro hgives
    exact h v size bytes hgives hsize w (hbytes ▸ List.prefix_rfl)
  · intro hgives
    refine h w size bytes hgives (Nat.le_of_eq hlength.symm) v ?_
    rw [← hlength, List.take_length, hbytes]
    exact List.take_prefix _ _

theorem countedString_local : countedString.Local := by
  intro w size bytes hgives hsize v hbegins
  obtain ⟨-, rfl, n, hn, hcount⟩ := countedString_gives_iff.mp hgives
  have hlength : (w.bytes.take size).length = size := List.length_take_of_le hsize
  have hroom : size ≤ v.length := hlength ▸ hbegins.length_le
  have hsame : w.bytes.take size = v.bytes.take size := by
    have htake := List.prefix_iff_eq_take.mp hbegins
    rwa [hlength] at htake
  -- A string has at least its count, so that the count is among the bytes that both begin with.
  have hfirst (bs : List UInt8) : (bs.take size)[0]? = bs[0]? := by
    rw [List.getElem?_take, if_pos (by omega)]
  refine countedString_gives_iff.mpr ⟨hroom, hsame, n, ?_, hcount⟩
  rw [← hfirst, ← hsame, hfirst, hn]

end ObjectType

namespace Sequence

variable {α : Type} {type : ObjectType α} {parent : View} {start count size : Nat}
  {bytes : List UInt8}

/-- A window has the first bytes of what is left, and starts at the same place. -/
theorem gives_window_iff (h : type.SelfDelimiting) {pos : Nat} {w : View}
    (hw : parent.cut pos size = .ok w) :
    type.Gives (parent.rest pos) size bytes ↔ type.Gives w size bytes := by
  obtain ⟨hfits, hbytes, horigin⟩ := View.cut_eq_ok_iff.mp hw
  refine h _ _ _ ?_ hbytes horigin bytes
  simp only [Buffer.length] at hfits
  rw [Buffer.length, View.rest, List.length_drop]
  omega

theorem Stands.gives {pos : Nat} {item : α} (h : Stands type parent pos item) :
    type.Gives (parent.rest pos) (type.size item) (type.view item).bytes :=
  ⟨item, h.fromView_eq, rfl, rfl⟩

/-- By induction on the count: each object ends where the next multiple of the size is. -/
theorem exists_row (hfits : start + count * size ≤ parent.length)
    (h : ∀ i < count, ∃ bytes, type.Gives (parent.rest (start + i * size)) size bytes) :
    ∃ items, items.length = count ∧ InRow type parent start items ∧ Uniform type size items := by
  induction count generalizing start with
  | zero => exact ⟨[], rfl, inRow_nil, by simp [Uniform]⟩
  | succ count ih =>
    rw [Nat.succ_mul] at hfits
    obtain ⟨bytes, item, hitem, hsize, -⟩ := h 0 (Nat.succ_pos count)
    rw [Nat.zero_mul, Nat.add_zero] at hitem
    have hrest : ∀ i < count, ∃ bytes,
        type.Gives (parent.rest (start + size + i * size)) size bytes := by
      intro i hi
      rw [start_succ]
      exact h (i + 1) (Nat.succ_lt_succ hi)
    obtain ⟨items, hlength, hrow, hsizes⟩ := ih (by omega) hrest
    have hparent : parent.length < sizeLimit := parent.length_lt
    have hstands : Stands type parent start item := ⟨by omega, hitem, by omega⟩
    refine ⟨item :: items, congrArg (· + 1) hlength, inRow_cons_iff.mpr ⟨hstands, ?_⟩, ?_⟩
    · rwa [hsize]
    · exact List.forall_mem_cons.mpr ⟨hsize, hsizes⟩

/-- No window can be refused that gives an object. -/
theorem exists_windowed (hfits : start + count * size ≤ parent.length)
    (h : ∀ i < count, ∀ w, parent.cut (start + i * size) size = .ok w →
      ∃ bytes, type.Gives w size bytes) :
    ∃ t, Windowed type.fromView parent start count size t ∧ Uniform type size t.items := by
  rcases windowed_or_refused type.fromView hfits with ⟨t, ht⟩ | ⟨fault, hi, hw, hrefused, -⟩
  · refine ⟨t, ht, fun item hmem => ?_⟩
    obtain ⟨i, hi⟩ := List.getElem?_of_mem hmem
    obtain ⟨hlt, -⟩ := List.getElem?_eq_some_iff.mp hi
    obtain ⟨w, hw, hitem⟩ := ht.decoded hi
    obtain ⟨bytes, hgives⟩ := h i (ht.length_eq ▸ hlt) w hw
    exact (hgives.of_ok hitem).1
  · obtain ⟨bytes, item, hitem, -⟩ := h _ hi _ hw
    rw [hrefused] at hitem
    cases hitem

section

variable {s t : Sequence α} (h : type.SelfDelimiting)

/-- The object at a multiple of the size. -/
theorem Consists.gives (hs : Consists type parent start count s) (hsize : Uniform type size s.items)
    {i : Nat} {item : α} (hi : s.items[i]? = some item) :
    type.Gives (parent.rest (start + i * size)) size (type.view item).bytes := by
  obtain ⟨hlt, -⟩ := List.getElem?_eq_some_iff.mp hi
  have hgives := (hs.inRow i item hi).gives
  rwa [hsize.position_take (Nat.le_of_lt hlt), hsize item (List.mem_of_getElem? hi)] at hgives

theorem Consists.cut_of_uniform (hs : Consists type parent start count s)
    (hsize : Uniform type size s.items) : parent.cut start (count * size) = .ok s.view := by
  have hcut := hs.cut_sizes
  rwa [hsize.sum_eq, hs.length_eq] at hcut

include h

theorem exists_windowed_of_consists (hs : Consists type parent start count s)
    (hsize : Uniform type size s.items) :
    ∃ t, Windowed type.fromView parent start count size t ∧ Uniform type size t.items := by
  refine exists_windowed (View.cut_eq_ok_iff.mp (hs.cut_of_uniform hsize)).1 fun i hi w hw => ?_
  have hitem := List.getElem?_eq_getElem (hs.length_eq.symm ▸ hi : i < s.items.length)
  exact ⟨_, (gives_window_iff h hw).mp (hs.gives hsize hitem)⟩

theorem exists_consists_of_windowed (ht : Windowed type.fromView parent start count size t)
    (hsize : Uniform type size t.items) :
    ∃ s, Consists type parent start count s ∧ Uniform type size s.items := by
  obtain ⟨items, hlength, hrow, hsizes⟩ := exists_row ht.fits fun i hi => by
    have hi : i < t.items.length := ht.length_eq.symm ▸ hi
    have hitem := List.getElem?_eq_getElem hi
    obtain ⟨w, hw, hdecoded⟩ := ht.decoded hitem
    exact ⟨_, (gives_window_iff h hw).mpr
      ⟨_, hdecoded, hsize _ (List.mem_of_getElem? hitem), rfl⟩⟩
  have hstop : position type start items ≤ parent.length := by
    rw [hsizes.position_eq, hlength]
    exact ht.fits
  obtain ⟨view, hview⟩ := exists_consists hlength hrow hstop
  exact ⟨_, hview, hsizes⟩

theorem bytes_eq_of_windowed (hs : Consists type parent start count s)
    (hsizes : Uniform type size s.items) (ht : Windowed type.fromView parent start count size t) :
    s.items.map (fun item => (type.view item).bytes) =
      t.items.map fun item => (type.view item).bytes := by
  refine (ht.map_eq hs.length_eq fun i item w item' hi hw hitem => ?_).symm
  have hgives := (gives_window_iff h hw).mp (hs.gives hsizes hi)
  exact (hgives.of_ok hitem).2

end

/-- If a type delimits its objects itself, then those of one size are decoded alike whether or not
they are cut to it first: one way succeeds with objects of that size exactly if the other does, and
then both have the same view and the same bytes item by item. Counted strings delimit themselves. -/
theorem uniform_sequences_agree :
    (∀ (α : Type) (type : ObjectType α), type.SelfDelimiting → ∀ parent start count size,
      ((∃ s, selfSized type parent start count = .ok s ∧ Uniform type size s.items) ↔
        ∃ t, objects type parent start count size = .ok t ∧ Uniform type size t.items) ∧
      ∀ s t, selfSized type parent start count = .ok s → Uniform type size s.items →
        objects type parent start count size = .ok t → Uniform type size t.items →
        s.view = t.view ∧ s.items.map (fun item => (type.view item).bytes) =
          t.items.map fun item => (type.view item).bytes) ∧
    ObjectType.countedString.SelfDelimiting := by
  refine ⟨fun α type h parent start count size => ?_, ObjectType.countedString_local.selfDelimiting⟩
  have hwindows {t : Sequence α} : objects type parent start count size = .ok t ↔
      Windowed type.fromView parent start count size t :=
    (objects_strided parent start count type size).eq_ok_iff
  simp only [selfSized_eq_ok_iff, hwindows]
  refine ⟨⟨?_, ?_⟩, fun s t hs hsizes ht _ => ⟨?_, bytes_eq_of_windowed h hs hsizes ht⟩⟩
  · rintro ⟨s, hs, hsizes⟩
    exact exists_windowed_of_consists h hs hsizes
  · rintro ⟨t, ht, hsizes⟩
    exact exists_consists_of_windowed h ht hsizes
  · exact Except.ok.inj ((hs.cut_of_uniform hsizes).symm.trans ht.cut_eq)

/-- Two strings of one byte each, between other bytes. -/
theorem uniform_sequences_agree_of_two :
    let parent := View.root ⟨[9, 1, 65, 1, 66, 7], by decide⟩
    ObjectType.countedString.SelfDelimiting ∧
    ∃ s t, selfSized .countedString parent 1 2 = .ok s ∧ Uniform .countedString 2 s.items ∧
      objects .countedString parent 1 2 2 = .ok t ∧ Uniform .countedString 2 t.items ∧
      s.view = t.view ∧ t.items.map (·.bytes) = [[1, 65], [1, 66]] := by
  have hdecoded : ∃ s, selfSized .countedString
      (View.root ⟨[9, 1, 65, 1, 66, 7], by decide⟩) 1 2 = .ok s ∧
      s.items.map ObjectType.countedString.size = [2, 2] ∧
      s.items.map (·.bytes) = [[1, 65], [1, 66]] := ⟨_, rfl, rfl, rfl⟩
  intro parent
  obtain ⟨s, hs, hsizes, hbytes⟩ := hdecoded
  have hsuniform : Uniform .countedString 2 s.items := uniform_of_sizes (n := 2) hsizes
  obtain ⟨hagree, hstring⟩ := uniform_sequences_agree
  obtain ⟨hiff, hsame⟩ := hagree View .countedString hstring parent 1 2 2
  obtain ⟨t, ht, htuniform⟩ := hiff.mp ⟨s, hs, hsuniform⟩
  obtain ⟨hview, hitems⟩ := hsame s t hs hsuniform ht htuniform
  exact ⟨hstring, s, t, hs, hsuniform, ht, htuniform, hview, hitems.symm.trans hbytes⟩

end Sequence

end DisplayClient
