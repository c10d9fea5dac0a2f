import DisplayClient.Proofs.Sequence.Row

/-!
# Objects that stand side by side

A type reads some bytes if it decodes them, and just them, from the start of
every view that begins with them (`ObjectType.Reads`). Bytes that a type
reads, put side by side anywhere in a view, are objects in a row
(`Sequence.inRow_of_reads`), and so are decoded one by one as a sequence,
which covers them and nothing else (`Sequence.selfSized_of_reads`).
-/

namespace DisplayClient

/-- From the start of every view that begins with `bytes`, the type decodes an object that has just
those bytes and takes just their room. -/
def ObjectType.Reads {α : Type} (type : ObjectType α) (bytes : List UInt8) : Prop :=
  ∀ v : View, bytes <+: v.bytes →
    ∃ item, type.fromView v = .ok item ∧ (type.view item).bytes = bytes ∧
      type.size item = bytes.length

namespace Sequence

variable {α : Type} {type : ObjectType α} {parent : View} {words : List (List UInt8)}

/-- Bytes that begin what is left of a view lie inside the view. -/
theorem stop_le_of_begins {bytes : List UInt8} {start : Nat} (hstart : start ≤ parent.length)
    (h : bytes <+: parent.bytes.drop start) : start + bytes.length ≤ parent.length := by
  have hlength := h.length_le
  rw [List.length_drop] at hlength
  simp only [Buffer.length] at hstart ⊢
  omega

/-- What comes after a word begins where the word ends. -/
theorem begins_after {word more : List UInt8} {start : Nat}
    (h : word ++ more <+: parent.bytes.drop start) :
    more <+: parent.bytes.drop (start + word.length) := by
  obtain ⟨after, hafter⟩ := h
  rw [← List.drop_drop, ← hafter, List.append_assoc, List.drop_left]
  exact List.prefix_append _ _

theorem stands_of_reads {word : List UInt8} (hword : type.Reads word) {start : Nat}
    (hstart : start ≤ parent.length) (hbytes : word <+: parent.bytes.drop start) :
    ∃ item, Stands type parent start item ∧ (type.view item).bytes = word ∧
      type.size item = word.length := by
  obtain ⟨item, hitem, hitemBytes, hsize⟩ := hword (parent.rest start) hbytes
  have hstop := stop_le_of_begins hstart hbytes
  rw [← hsize] at hstop
  exact ⟨item, ⟨hstart, hitem, Nat.lt_of_le_of_lt hstop parent.length_lt⟩, hitemBytes, hsize⟩

/-- By induction on the words: each object ends where the next one begins. -/
theorem inRow_of_reads (hwords : ∀ word ∈ words, type.Reads word) {start : Nat}
    (hstart : start ≤ parent.length) (hbytes : words.flatten <+: parent.bytes.drop start) :
    ∃ items, InRow type parent start items ∧
      items.map (fun item => (type.view item).bytes) = words ∧
      position type start items = start + words.flatten.length := by
  induction words generalizing start with
  | nil => exact ⟨[], inRow_nil, rfl, rfl⟩
  | cons word words ih =>
    rw [List.flatten_cons] at hbytes
    have hword : word <+: parent.bytes.drop start := (List.prefix_append _ _).trans hbytes
    obtain ⟨item, hitem, hitemBytes, hsize⟩ :=
      stands_of_reads (hwords word List.mem_cons_self) hstart hword
    obtain ⟨items, hrow, hitemsBytes, hposition⟩ :=
      ih (fun w hw => hwords w (List.mem_cons_of_mem _ hw)) (stop_le_of_begins hstart hword)
        (begins_after hbytes)
    rw [← hsize] at hrow hposition
    refine ⟨item :: items, inRow_cons_iff.mpr ⟨hitem, hrow⟩, by simp [hitemBytes, hitemsBytes], ?_⟩
    rw [position_cons, hposition, hsize, List.flatten_cons, List.length_append, Nat.add_assoc]

/-- The sequence consists of the words, which stand side by side in the parent from `start` on. -/
structure Spells (s : Sequence α) (type : ObjectType α) (parent : View) (start : Nat)
    (words : List (List UInt8)) : Prop where
  items_bytes : s.items.map (fun item => (type.view item).bytes) = words
  view_bytes : s.view.bytes = words.flatten
  cut_eq : parent.cut start words.flatten.length = .ok s.view

theorem Spells.offset_eq {s : Sequence α} {start : Nat} (h : s.Spells type parent start words) :
    s.view.offset = start := View.offset_of_cut h.cut_eq

theorem selfSized_of_reads (hwords : ∀ word ∈ words, type.Reads word)
    {before after : List UInt8} (hbytes : parent.bytes = before ++ words.flatten ++ after) :
    ∃ s, selfSized type parent before.length words.length = .ok s ∧
      s.Spells type parent before.length words := by
  have hdrop : parent.bytes.drop before.length = words.flatten ++ after := by
    rw [hbytes, List.append_assoc, List.drop_left]
  have hstart : before.length ≤ parent.length := by
    simp only [Buffer.length, hbytes, List.length_append]
    omega
  have hbegins : words.flatten <+: parent.bytes.drop before.length := hdrop ▸ List.prefix_append _ _
  have hstop := stop_le_of_begins hstart hbegins
  obtain ⟨items, hrow, hitemsBytes, hposition⟩ := inRow_of_reads hwords hstart hbegins
  obtain ⟨view, hview, hviewBytes, -⟩ := View.exists_cut hstop
  rw [hdrop, List.take_left] at hviewBytes
  have hlength : items.length = words.length := by rw [← hitemsBytes, List.length_map]
  have hconsists : Consists type parent before.length words.length ⟨view, items⟩ :=
    ⟨hlength, hrow, hposition ▸ hstop, by rw [hposition, Nat.add_sub_cancel_left, hview]⟩
  exact ⟨_, hconsists.selfSized_eq, hitemsBytes, hviewBytes, hview⟩

end Sequence

end DisplayClient
