import DisplayClient.Proofs.Memory.Nesting
import DisplayClient.Proofs.Sequence.SelfDelimited
import DisplayClient.Proofs.Sequence.UniformSizes

/-!
# The window of a sequence is all that matters

A sequence keeps the window of the parent that its items came from. Decoding
it again from that window, or from wherever else the bytes of the window lie,
gives the same items: what is before the window or after it has no part in
them (`SelfContained`). Items of one size are decoded from windows of their
own anyway, so it is enough that those depend on their bytes only
(`Windowed.elsewhere`). Objects that tell their own size are offered all that
is left of the parent, and have to leave it alone beyond their own end
(`ObjectType.Local`); then this carries over from each object to the next
(`inRow_elsewhere`), and from objects to records of them
(`ObjectType.recordOf_local`), and so to records of records, however deep
they are nested.
-/

namespace DisplayClient

namespace View

variable {u v w : View} {outer inner size : Nat}

/-- A part of the root that lies inside another part is a part of that. -/
theorem Shows.of_trans (h : w.Shows u (outer + inner)) (h' : v.Shows u outer)
    (hinside : inner + w.length ≤ v.length) : w.Shows v inner :=
  ⟨hinside, by rw [h'.bytes_at hinside, ← h.bytes_eq]⟩

theorem Shows.begins (h : v.Shows u outer) : v.bytes <+: u.bytes.drop outer := by
  rw [h.bytes_eq]
  exact List.take_prefix _ _

theorem shows_of_cut (h : u.cut outer size = .ok w) : w.Shows u outer :=
  shows_of_perform (c := .part outer size) h

/-- A view whose bytes another one begins with is shown at its start. -/
theorem shows_of_begins (h : w.bytes <+: v.bytes) : w.Shows v 0 where
  stop_le := by
    rw [Nat.zero_add]
    exact h.length_le
  bytes_eq := by
    rw [List.drop_zero]
    exact List.prefix_iff_eq_take.mp h

end View

namespace ObjectType

variable {α : Type} {type : ObjectType α}

/-- How much room an object takes, and which bytes it keeps. -/
def shown (type : ObjectType α) (item : α) : Nat × List UInt8 :=
  (type.size item, (type.view item).bytes)

end ObjectType

namespace Sequence

variable {α β : Type} {parent parent' : View} {start start' count : Nat} {s t : Sequence α}

/-! ## Sequences that are decoded again -/

/-- The items of `t` are seen as those of `s`, and its view is the part of the parent from `start`
on that has the bytes of the view of `s`. -/
structure Repeats (seen : α → β) (s : Sequence α) (parent : View) (start : Nat) (t : Sequence α) :
    Prop where
  cut_eq : parent.cut start s.view.length = .ok t.view
  bytes_eq : t.view.bytes = s.view.bytes
  seen_eq : t.items.map seen = s.items.map seen

theorem repeats_of_shows {seen : α → β} (hshows : s.view.Shows parent start)
    (hcut : parent.cut start s.view.length = .ok t.view)
    (hseen : t.items.map seen = s.items.map seen) : Repeats seen s parent start t :=
  ⟨hcut, by rw [(View.cut_eq_ok_iff.mp hcut).2.1, ← hshows.bytes_eq], hseen⟩

/-- A sequence can be decoded again from its own view, and from wherever else the bytes of its view
are shown, with the same to be seen of its items. -/
structure SelfContained (decode : View → Nat → Nat → Except Fault (Sequence α)) (seen : α → β) :
    Prop where
  own {parent : View} {start count : Nat} {s : Sequence α} : decode parent start count = .ok s →
    ∃ t, decode s.view 0 count = .ok t ∧ Repeats seen s s.view 0 t
  elsewhere {parent : View} {start count : Nat} {s : Sequence α} :
    decode parent start count = .ok s → ∀ parent' start', s.view.Shows parent' start' →
      ∃ t, decode parent' start' count = .ok t ∧ Repeats seen s parent' start' t

theorem selfContained_of_elsewhere {decode : View → Nat → Nat → Except Fault (Sequence α)}
    {seen : α → β} (h : ∀ {parent start count s}, decode parent start count = .ok s →
      ∀ parent' start', s.view.Shows parent' start' →
        ∃ t, decode parent' start' count = .ok t ∧ Repeats seen s parent' start' t) :
    SelfContained decode seen :=
  ⟨fun hs => h hs _ 0 (View.Shows.refl _), h⟩

/-! ## Items of one size -/

section Windows

variable {decode : View → Except Fault α} {seen : α → β} {stride : Nat}

/-- What `seen` tells of the item depends on the bytes of the view only. -/
def ReadsBytes (decode : View → Except Fault α) (seen : α → β) : Prop :=
  ∀ (v w : View) (item : α), v.bytes = w.bytes → decode v = .ok item →
    ∃ item', decode w = .ok item' ∧ seen item' = seen item

theorem readsBytes_of_bytes (f : List UInt8 → α) (seen : α → β) :
    ReadsBytes (fun w => .ok (f w.bytes)) seen := by
  rintro v w item hbytes h
  cases h
  exact ⟨_, rfl, by rw [hbytes]⟩

/-- The windows of an item have the same bytes, wherever the window of all of them is. -/
theorem Windowed.window_bytes (hs : Windowed decode parent start count stride s)
    (hshows : s.view.Shows parent' start') {i : Nat} (hi : i < count) {w w' : View}
    (hw : parent.cut (start + i * stride) stride = .ok w)
    (hw' : parent'.cut (start' + i * stride) stride = .ok w') : w.bytes = w'.bytes := by
  have hinside : i * stride + stride ≤ s.view.length := by
    rw [hs.length_view, ← Nat.succ_mul]
    exact Nat.mul_le_mul_right stride hi
  have hparent : s.view.Shows parent start := View.shows_of_cut hs.cut_eq
  rw [(View.cut_eq_ok_iff.mp hw).2.1, (View.cut_eq_ok_iff.mp hw').2.1, ← hparent.bytes_at hinside,
    ← hshows.bytes_at hinside]

theorem Windowed.item_elsewhere (h : ReadsBytes decode seen)
    (hs : Windowed decode parent start count stride s) (hshows : s.view.Shows parent' start')
    {i : Nat} {item : α} (hi : s.items[i]? = some item) {w' : View}
    (hw' : parent'.cut (start' + i * stride) stride = .ok w') :
    ∃ item', decode w' = .ok item' ∧ seen item' = seen item := by
  obtain ⟨hlt, -⟩ := List.getElem?_eq_some_iff.mp hi
  obtain ⟨w, hw, hitem⟩ := hs.decoded hi
  exact h w w' item (hs.window_bytes hshows (hs.length_eq ▸ hlt) hw hw') hitem

theorem Windowed.elsewhere (h : ReadsBytes decode seen)
    (hs : Windowed decode parent start count stride s) (hshows : s.view.Shows parent' start') :
    ∃ t, Windowed decode parent' start' count stride t ∧ Repeats seen s parent' start' t := by
  have hfits := hshows.stop_le
  rw [hs.length_view] at hfits
  rcases windowed_or_refused decode hfits with ⟨t, ht⟩ | ⟨_, @⟨i, w', fault, hi, hw', hrefused, -⟩⟩
  · refine ⟨t, ht, repeats_of_shows hshows (by rw [hs.length_view]; exact ht.cut_eq) ?_⟩
    refine ht.map_eq hs.length_eq fun i item w' item' hi hw' hitem' => ?_
    obtain ⟨again, hdecoded, hseen⟩ := hs.item_elsewhere h hshows hi hw'
    rw [hitem'] at hdecoded
    cases hdecoded
    exact hseen
  · -- A window that is refused would have the bytes of one that was not.
    have hitem := List.getElem?_eq_getElem (hs.length_eq.symm ▸ hi : i < s.items.length)
    obtain ⟨item', hdecoded, -⟩ := hs.item_elsewhere h hshows hitem hw'
    rw [hrefused] at hdecoded
    cases hdecoded

theorem selfContained_of_strided {sequence : View → Nat → Nat → Except Fault (Sequence α)}
    (hsequence : ∀ parent start count,
      Strided parent start count stride decode (sequence parent start count))
    (h : ReadsBytes decode seen) : SelfContained sequence seen := by
  refine selfContained_of_elsewhere fun {parent start count s} hs parent' start' hshows => ?_
  obtain ⟨t, ht, hrepeats⟩ := ((hsequence parent start count).eq_ok_iff.mp hs).elsewhere h hshows
  exact ⟨t, (hsequence parent' start' count).eq_ok_iff.mpr ht, hrepeats⟩

end Windows

/-! ## Objects that tell their own size -/

section Rows

variable {type : ObjectType α} {s : Sequence α}

theorem stands_elsewhere (h : type.Local) {item : α} (hitem : Stands type parent start item)
    (hstop : start + type.size item ≤ parent.length) (hstart' : start' ≤ parent'.length)
    (hbegins : (parent.bytes.drop start).take (type.size item) <+: parent'.bytes.drop start') :
    ∃ item', Stands type parent' start' item' ∧ type.shown item' = type.shown item := by
  have hroom : type.size item ≤ (parent.rest start).length := by
    rw [Buffer.length, View.rest, List.length_drop]
    exact Nat.le_sub_of_add_le' hstop
  have hstop' := stop_le_of_begins hstart' hbegins
  rw [View.length_take_drop hstop] at hstop'
  obtain ⟨item', hitem', hsize, hbytes⟩ :=
    h (parent.rest start) _ _ hitem.gives hroom (parent'.rest start') hbegins
  rw [← hsize] at hstop'
  exact ⟨item', ⟨hstart', hitem', Nat.lt_of_le_of_lt hstop' parent'.length_lt⟩,
    Prod.ext hsize hbytes⟩

/-- By induction on the objects: each is decoded again where it begins elsewhere, and ends there
where the next one begins. -/
theorem inRow_elsewhere (h : type.Local) {items : List α} (hrow : InRow type parent start items)
    (hstop : position type start items ≤ parent.length) (hstart' : start' ≤ parent'.length)
    (hbegins : (parent.bytes.drop start).take (items.map type.size).sum <+:
      parent'.bytes.drop start') :
    ∃ items', InRow type parent' start' items' ∧
      items'.map type.shown = items.map type.shown := by
  induction items generalizing start start' with
  | nil => exact ⟨[], inRow_nil, rfl⟩
  | cons item items ih =>
    obtain ⟨hfirst, hrest⟩ := inRow_cons_iff.mp hrow
    rw [position_cons] at hstop
    rw [List.map_cons, List.sum_cons, List.take_add, List.drop_drop] at hbegins
    have hend : start + type.size item ≤ parent.length := Nat.le_trans le_position hstop
    have hword : (parent.bytes.drop start).take (type.size item) <+: parent'.bytes.drop start' :=
      (List.prefix_append _ _).trans hbegins
    obtain ⟨item', hitem', hseen⟩ := stands_elsewhere h hfirst hend hstart' hword
    have hmore := begins_after hbegins
    have hnext := stop_le_of_begins hstart' hword
    have hsize : type.size item' = type.size item := congrArg Prod.fst hseen
    rw [View.length_take_drop hend] at hmore hnext
    obtain ⟨items', hrow', hseen'⟩ := ih hrest hstop hnext hmore
    rw [← hsize] at hrow'
    exact ⟨item' :: items', inRow_cons_iff.mpr ⟨hitem', hrow'⟩, by
      rw [List.map_cons, List.map_cons, hseen, hseen']⟩

theorem sizes_of_shown {items items' : List α} (h : items'.map type.shown = items.map type.shown) :
    items'.map type.size = items.map type.size := by
  have hfst := congrArg (List.map Prod.fst) h
  rwa [List.map_map, List.map_map] at hfst

theorem Consists.elsewhere (h : type.Local) (hs : Consists type parent start count s)
    (hshows : s.view.Shows parent' start') :
    ∃ t, Consists type parent' start' count t ∧ Repeats type.shown s parent' start' t := by
  have hstop := hshows.stop_le
  have hbegins := hshows.begins
  rw [(View.shows_of_cut hs.cut_eq).bytes_eq, hs.length_view] at hbegins
  obtain ⟨items, hrow, hseen⟩ := inRow_elsewhere h hs.inRow hs.stop_le
    (Nat.le_trans (Nat.le_add_right _ _) hstop) hbegins
  have hlength : items.length = count := by
    have hlengths := congrArg List.length hseen
    rwa [List.length_map, List.length_map, hs.length_eq] at hlengths
  have hroom : (items.map type.size).sum = s.view.length := by
    rw [sizes_of_shown hseen, hs.length_view]
  rw [← hroom] at hstop
  obtain ⟨view, ht⟩ := exists_consists hlength hrow hstop
  have hcut := ht.cut_sizes
  rw [hroom] at hcut
  exact ⟨_, ht, repeats_of_shows hshows hcut hseen⟩

theorem selfContained_of_local (h : type.Local) : SelfContained (selfSized type) type.shown := by
  refine selfContained_of_elsewhere fun hs parent' start' hshows => ?_
  obtain ⟨t, ht, hrepeats⟩ := (selfSized_eq_ok_iff.mp hs).elsewhere h hshows
  exact ⟨t, selfSized_eq_ok_iff.mpr ht, hrepeats⟩

end Rows

end Sequence

/-! ## Records -/

namespace ObjectType

open Sequence (Consists selfSized selfSized_eq_ok_iff)

variable {α : Type} {tag : TypeTag} {type : ObjectType α} {v w record : View}

/-- A four-byte number `n` and `n` objects that tell their own size. -/
def recordOf (tag : TypeTag) (type : ObjectType α) : ObjectType View :=
  keeping tag fun v => do
    let n ← v.uint32At 0
    let objects ← selfSized type v 4 n.toNat
    v.cut 0 (objects.view.offset + objects.view.length)

theorem stringRecord_eq : stringRecord = recordOf (.named "Rec") countedString := rfl

theorem recordOf_eq_ok_iff : (recordOf tag type).fromView v = .ok record ↔
    ∃ (n : UInt32) (s : Sequence α), v.uint32At 0 = .ok n ∧ Consists type v 4 n.toNat s ∧
      v.cut 0 (4 + s.view.length) = .ok record := by
  constructor
  · intro h
    obtain ⟨n, hn, hrest⟩ := bind_eq_ok_iff.mp h
    obtain ⟨s, hs, hcut⟩ := bind_eq_ok_iff.mp hrest
    have hconsists := selfSized_eq_ok_iff.mp hs
    rw [View.offset_of_cut hconsists.cut_eq] at hcut
    exact ⟨n, s, hn, hconsists, hcut⟩
  · rintro ⟨n, s, hn, hs, hcut⟩
    rw [← View.offset_of_cut hs.cut_eq] at hcut
    exact bind_eq_ok_iff.mpr ⟨n, hn, bind_eq_ok_iff.mpr ⟨s, hs.selfSized_eq, hcut⟩⟩

/-- The number of a record is read wherever the record is shown. -/
theorem uint32At_of_shows (hw : record.Shows w 0) (hv : record.Shows v 0)
    (hlength : 4 ≤ record.length) : v.uint32At 0 = w.uint32At 0 :=
  ((hv.readsAs_number 4 UInt32.ofNat).of_inside hlength).symm.trans
    ((hw.readsAs_number 4 UInt32.ofNat).of_inside hlength)

/-- The objects of a record lie inside of it, and so are decoded again with it. -/
theorem recordOf_local (h : type.Local) : (recordOf tag type).Local := by
  rintro w size bytes ⟨record, hrecord, rfl, rfl⟩ - v hbegins
  obtain ⟨n, s, hn, hs, hcut⟩ := recordOf_eq_ok_iff.mp hrecord
  have hlength : record.length = 4 + s.view.length := View.length_of_cut hcut
  have hw : record.Shows w 0 := View.shows_of_cut hcut
  have hv : record.Shows v 0 := by
    refine View.shows_of_begins ?_
    rw [hw.bytes_eq]
    exact hbegins
  have hn' : v.uint32At 0 = .ok n := by
    rw [uint32At_of_shows hw hv (by omega), hn]
  have hinside : s.view.Shows record 4 :=
    (View.shows_of_cut hs.cut_eq).of_trans hw (Nat.le_of_eq hlength.symm)
  obtain ⟨t, ht, hrepeats⟩ := hs.elsewhere h (hinside.trans hv)
  have hroom : 0 + (4 + t.view.length) ≤ v.length := by
    rw [View.length_of_cut hrepeats.cut_eq, ← hlength]
    exact hv.stop_le
  obtain ⟨record', hcut', hbytes, -⟩ := View.exists_cut hroom
  have hsame : record'.bytes = record.bytes := by
    rw [hbytes, View.length_of_cut hrepeats.cut_eq, ← hlength, ← hv.bytes_eq]
  exact ⟨record', recordOf_eq_ok_iff.mpr ⟨n, t, hn', ht, hcut'⟩, congrArg List.length hsame, hsame⟩

theorem stringRecord_local : stringRecord.Local := by
  rw [stringRecord_eq]
  exact recordOf_local countedString_local

end ObjectType

namespace Sequence

open ObjectType (recordOf countedString stringRecord)

variable {α β : Type}

/-! ## All sequences -/

theorem scalars_selfContained (α : Type) [Scalar α] : SelfContained (scalars α) id :=
  selfContained_of_strided (fun parent start count => scalars_strided parent start count α)
    (readsBytes_of_bytes _ id)

theorem formatted_selfContained (c : Char) :
    SelfContained (fun parent start count => formatted parent start count c) id := by
  cases hformat : ScalarFormat.ofChar c with
  | ok format =>
    exact selfContained_of_strided
      (fun parent start count => formatted_strided parent start count hformat)
      (readsBytes_of_bytes _ id)
  | error fault =>
    refine selfContained_of_elsewhere fun hs => ?_
    simp only [formatted, hformat] at hs
    cases hs

theorem objects_selfContained {type : ObjectType α} {seen : α → β}
    (h : ReadsBytes type.fromView seen) (size : Nat) :
    SelfContained (fun parent start count => objects type parent start count size) seen :=
  selfContained_of_strided (fun parent start count => objects_strided parent start count type size) h

/-- What is decoded as a sequence is decoded again from the view of the sequence, all of which it
takes up, and from wherever else the bytes of this view lie. The items are the same, so that nothing
outside the view has had a part in them. This holds of numbers, by type as by format, of objects from
windows that are decoded by their bytes only, and of objects that tell their own size, if they are
decoded the same whatever comes after them. Strings are, and records of such objects again. -/
theorem window_suffices :
    (∀ (α : Type) [Scalar α], SelfContained (scalars α) id) ∧
    (∀ c, SelfContained (fun parent start count => formatted parent start count c) id) ∧
    (∀ (α β : Type) (type : ObjectType α) (seen : α → β), ReadsBytes type.fromView seen →
      ∀ size, SelfContained (fun parent start count => objects type parent start count size) seen) ∧
    (∀ (α : Type) (type : ObjectType α), type.Local →
      SelfContained (selfSized type) type.shown ∧ ∀ tag, (recordOf tag type).Local) ∧
    countedString.Local ∧ stringRecord.Local :=
  ⟨fun α _ => scalars_selfContained α, formatted_selfContained,
    fun _ _ _ _ h size => objects_selfContained h size,
    fun _ _ h => ⟨selfContained_of_local h, fun _ => ObjectType.recordOf_local h⟩,
    ObjectType.countedString_local, ObjectType.stringRecord_local⟩

/-- A record of two records, one of a string and one of nothing, stands between other bytes. It is
decoded again from its own view, and from after yet other bytes. Two objects of two bytes are decoded
again from their view, too. -/
theorem window_suffices_of_nested :
    let records := recordOf (.named "Recs") stringRecord
    let word : List UInt8 := [2, 0, 0, 0, 1, 0, 0, 0, 1, 65, 0, 0, 0, 0]
    let parent := View.root ⟨[9, 2, 0, 0, 0, 1, 0, 0, 0, 1, 65, 0, 0, 0, 0, 7], by decide⟩
    let elsewhere := View.root ⟨[3, 4, 2, 0, 0, 0, 1, 0, 0, 0, 1, 65, 0, 0, 0, 0], by decide⟩
    (∃ s, selfSized records parent 1 1 = .ok s ∧
      (∃ t, selfSized records s.view 0 1 = .ok t ∧ t.view.bytes = word ∧
        t.items.map records.shown = [(14, word)]) ∧
      ∃ t, selfSized records elsewhere 2 1 = .ok t ∧ t.items.map records.shown = [(14, word)]) ∧
    ∃ s t, objects .bytes parent 5 2 2 = .ok s ∧ objects .bytes s.view 0 2 2 = .ok t ∧
      t.items.map (·.bytes) = [[1, 0], [0, 0]] := by
  have hdecoded : ∃ s, selfSized (recordOf (.named "Recs") stringRecord)
      (View.root ⟨[9, 2, 0, 0, 0, 1, 0, 0, 0, 1, 65, 0, 0, 0, 0, 7], by decide⟩) 1 1 = .ok s ∧
      s.view.bytes = [2, 0, 0, 0, 1, 0, 0, 0, 1, 65, 0, 0, 0, 0] ∧
      s.items.map (recordOf (.named "Recs") stringRecord).shown =
        [(14, [2, 0, 0, 0, 1, 0, 0, 0, 1, 65, 0, 0, 0, 0])] := ⟨_, rfl, rfl, rfl⟩
  intro records word parent elsewhere
  obtain ⟨-, -, hobjects, hrows, -, hlocal⟩ := window_suffices
  have hrecords : SelfContained (selfSized records) records.shown :=
    (hrows View records ((hrows View stringRecord hlocal).2 _)).1
  have hbytes : ReadsBytes ObjectType.bytes.fromView fun item : View => item.bytes := by
    rintro v w item hsame h
    cases h
    exact ⟨w, rfl, hsame.symm⟩
  obtain ⟨s, hs, hview, hitems⟩ := hdecoded
  have hshows : s.view.Shows elsewhere 2 := by
    refine ⟨by rw [Buffer.length, hview]; decide, ?_⟩
    rw [Buffer.length, hview]
    rfl
  obtain ⟨t, ht, hown⟩ := hrecords.own hs
  obtain ⟨u, hu, helsewhere⟩ := hrecords.elsewhere hs elsewhere 2 hshows
  obtain ⟨two, htwo, htwoItems⟩ : ∃ s, objects .bytes parent 5 2 2 = .ok s ∧
      s.items.map (·.bytes) = [[1, 0], [0, 0]] := ⟨_, rfl, rfl⟩
  obtain ⟨again, hagain, hsame⟩ := (hobjects View _ .bytes _ hbytes 2).own htwo
  exact ⟨⟨s, hs, ⟨t, ht, hown.bytes_eq.trans hview, hown.seen_eq.trans hitems⟩,
    u, hu, helsewhere.seen_eq.trans hitems⟩, two, again, htwo, hagain, hsame.seen_eq.trans htwoItems⟩

end Sequence

end DisplayClient
