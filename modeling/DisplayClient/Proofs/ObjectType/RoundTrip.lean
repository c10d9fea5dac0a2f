import DisplayClient.ObjectType.Counted
import DisplayClient.Proofs.Memory.LittleEndian
import DisplayClient.Proofs.Sequence.SelfDelimited
import Mathlib.Data.List.Forall2

/-!
# Counted strings and records are read back

A text is written as a byte and its bytes, and a record as a four-byte number
and its texts. Both are read back from wherever they stand
(`countedString_reads`, `stringRecord_reads`), and so are lists of them, to
the last byte and to the texts inside the records (`written_read_back`). The
records need nothing of the texts but that they are read.
-/

namespace DisplayClient

/-- A text that one byte counts. -/
structure ShortText where
  bytes : List UInt8
  length_lt : bytes.length < 2 ^ 8

/-- The byte that counts the text, and the text. -/
def ShortText.write (t : ShortText) : List UInt8 := UInt8.ofNat t.bytes.length :: t.bytes

/-- Texts that four bytes count. -/
structure TextRecord where
  texts : List ShortText
  length_lt : texts.length < 2 ^ 32

/-- The number of the texts, and the texts. -/
def TextRecord.write (r : TextRecord) : List UInt8 :=
  LittleEndian.bytes 4 r.texts.length ++ (r.texts.map ShortText.write).flatten

namespace ObjectType

open Sequence (selfSized selfSized_of_reads Spells)

/-- What a counted string has after its count. -/
def textOf (string : View) : List UInt8 := string.bytes.tail

theorem words_read {α β : Type} {type : ObjectType α} {write : β → List UInt8}
    (h : ∀ b, type.Reads (write b)) (bs : List β) : ∀ word ∈ bs.map write, type.Reads word := by
  simp only [List.forall_mem_map]
  exact fun b _ => h b

theorem countedString_reads (t : ShortText) : countedString.Reads t.write := by
  rintro v ⟨after, hbytes⟩
  have hcount : v.uint8At 0 = .ok (UInt8.ofNat t.bytes.length) := by
    rw [View.uint8At, ← hbytes]
    rfl
  have hlength : (UInt8.ofNat t.bytes.length).toNat = t.bytes.length := by
    rw [UInt8.toNat_ofNat', Nat.mod_eq_of_lt t.length_lt]
  have hwritten : 1 + t.bytes.length = t.write.length := Nat.add_comm _ _
  have hroom : 0 + t.write.length ≤ v.length := by
    simp only [Buffer.length, ← hbytes, List.length_append]
    omega
  obtain ⟨string, hcut, hstring, -⟩ := View.exists_cut hroom
  rw [← hbytes, List.drop_zero, List.take_left] at hstring
  refine ⟨string, ?_, hstring, congrArg List.length hstring⟩
  exact bind_eq_ok_iff.mpr ⟨_, hcount, by rw [hlength, hwritten, hcut]⟩

/-- The number that a record begins with. -/
theorem uint32At_of_write {v : View} {r : TextRecord} (h : r.write <+: v.bytes) :
    v.uint32At 0 = .ok (UInt32.ofNat r.texts.length) := by
  obtain ⟨after, hbytes⟩ := h
  have hwidth : (LittleEndian.bytes 4 r.texts.length).length = 4 := LittleEndian.length_bytes 4 _
  have hslice : v.slice? 0 4 = some (LittleEndian.bytes 4 r.texts.length) := by
    rw [View.slice?_eq, if_pos]
    · rw [← hbytes, List.drop_zero, TextRecord.write, List.append_assoc, List.take_left' hwidth]
    · simp only [Buffer.length, ← hbytes, TextRecord.write, List.length_append, hwidth]
      omega
  rw [View.uint32At, View.numberAt, hslice]
  simp only [LittleEndian.value_bytes (show r.texts.length < 256 ^ 4 from r.length_lt)]
  rfl

/-- The texts of a record are decoded from its fifth byte on. -/
theorem selfSized_of_write {v : View} {r : TextRecord} {after : List UInt8}
    (h : v.bytes = r.write ++ after) :
    ∃ strings, selfSized countedString v 4 r.texts.length = .ok strings ∧
      strings.Spells countedString v 4 (r.texts.map ShortText.write) := by
  have hwidth : (LittleEndian.bytes 4 r.texts.length).length = 4 := LittleEndian.length_bytes 4 _
  have hstrings := selfSized_of_reads (words_read countedString_reads r.texts) h
  rwa [hwidth, List.length_map] at hstrings

theorem stringRecord_reads (r : TextRecord) : stringRecord.Reads r.write := by
  rintro v ⟨after, hbytes⟩
  obtain ⟨strings, hdecoded, hspells⟩ := selfSized_of_write hbytes.symm
  have hcount : (UInt32.ofNat r.texts.length).toNat = r.texts.length := by
    rw [UInt32.toNat_ofNat', Nat.mod_eq_of_lt r.length_lt]
  have hend : strings.view.offset + strings.view.length = r.write.length := by
    simp only [hspells.offset_eq, Buffer.length, hspells.view_bytes, TextRecord.write,
      List.length_append, LittleEndian.length_bytes]
  have hroom : 0 + r.write.length ≤ v.length := by
    simp only [Buffer.length, ← hbytes, List.length_append]
    omega
  obtain ⟨record, hcut, hrecord, -⟩ := View.exists_cut hroom
  rw [← hbytes, List.drop_zero, List.take_left] at hrecord
  refine ⟨record, ?_, hrecord, congrArg List.length hrecord⟩
  refine bind_eq_ok_iff.mpr ⟨_, uint32At_of_write ⟨after, hbytes⟩, ?_⟩
  exact bind_eq_ok_iff.mpr ⟨strings, by rw [hcount, hdecoded], by rw [hend, hcut]⟩

theorem texts_of_spells {strings : Sequence View} {v : View} {start : Nat} {texts : List ShortText}
    (h : strings.Spells countedString v start (texts.map ShortText.write)) :
    strings.items.map textOf = texts.map ShortText.bytes := by
  calc strings.items.map textOf
    _ = (strings.items.map fun string => (countedString.view string).bytes).map List.tail := by
      rw [List.map_map]
      rfl
    _ = (texts.map ShortText.write).map List.tail := by rw [h.items_bytes]
    _ = texts.map ShortText.bytes := by
      rw [List.map_map]
      rfl

/-- Texts that stand side by side anywhere in a view are decoded as the sequence of these texts,
which covers them and nothing else. So are records, and from each of them the number and the texts
that were written into it. -/
theorem written_read_back (parent : View) (before after : List UInt8) :
    (∀ texts : List ShortText,
      parent.bytes = before ++ (texts.map ShortText.write).flatten ++ after →
      ∃ strings, selfSized countedString parent before.length texts.length = .ok strings ∧
        strings.Spells countedString parent before.length (texts.map ShortText.write) ∧
        strings.items.map textOf = texts.map ShortText.bytes) ∧
    ∀ records : List TextRecord,
      parent.bytes = before ++ (records.map TextRecord.write).flatten ++ after →
      ∃ decoded, selfSized stringRecord parent before.length records.length = .ok decoded ∧
        decoded.Spells stringRecord parent before.length (records.map TextRecord.write) ∧
        List.Forall₂ (fun (r : TextRecord) (record : View) =>
          record.uint32At 0 = .ok (UInt32.ofNat r.texts.length) ∧
          ∃ strings, selfSized countedString record 4 r.texts.length = .ok strings ∧
            strings.Spells countedString record 4 (r.texts.map ShortText.write) ∧
            strings.items.map textOf = r.texts.map ShortText.bytes) records decoded.items := by
  refine ⟨fun texts hbytes => ?_, fun records hbytes => ?_⟩
  · obtain ⟨strings, hstrings, hspells⟩ :=
      selfSized_of_reads (words_read countedString_reads texts) hbytes
    rw [List.length_map] at hstrings
    exact ⟨strings, hstrings, hspells, texts_of_spells hspells⟩
  · obtain ⟨decoded, hdecoded, hspells⟩ :=
      selfSized_of_reads (words_read stringRecord_reads records) hbytes
    rw [List.length_map] at hdecoded
    have hwritten : List.Forall₂ Eq (records.map TextRecord.write)
        (decoded.items.map fun record => (stringRecord.view record).bytes) := by
      rw [List.forall₂_eq_eq_eq]
      exact hspells.items_bytes.symm
    have hrecords : List.Forall₂ (fun (r : TextRecord) (record : View) => r.write = record.bytes)
        records decoded.items :=
      List.forall₂_map_right_iff.mp (List.forall₂_map_left_iff.mp hwritten)
    refine ⟨decoded, hdecoded, hspells, hrecords.imp fun r record hrecord => ?_⟩
    have hwhole : record.bytes = r.write ++ [] := by rw [List.append_nil, hrecord]
    obtain ⟨strings, hstrings, hinner⟩ := selfSized_of_write hwhole
    exact ⟨uint32At_of_write ⟨[], hwhole.symm⟩, strings, hstrings, hinner, texts_of_spells hinner⟩

/-- A record of two texts, one of them empty, and an empty record, between other bytes. -/
theorem written_read_back_of_two :
    let hi : ShortText := ⟨[104, 105], by decide⟩
    let nothing : ShortText := ⟨[], by decide⟩
    let records : List TextRecord := [⟨[hi, nothing], by decide⟩, ⟨[], by decide⟩]
    let parent := View.root ⟨[9] ++ [2, 0, 0, 0, 2, 104, 105, 0] ++ [0, 0, 0, 0] ++ [7], by decide⟩
    ∃ decoded, selfSized stringRecord parent 1 2 = .ok decoded ∧
      decoded.items.map (·.bytes) = [[2, 0, 0, 0, 2, 104, 105, 0], [0, 0, 0, 0]] ∧
      List.Forall₂ (fun (r : TextRecord) (record : View) =>
        ∃ strings, selfSized countedString record 4 r.texts.length = .ok strings ∧
          strings.items.map textOf = r.texts.map ShortText.bytes) records decoded.items := by
  intro hi nothing records parent
  obtain ⟨decoded, hdecoded, hspells, htexts⟩ :=
    (written_read_back parent [9] [7]).2 records (by decide)
  exact ⟨decoded, hdecoded, hspells.items_bytes.trans (by decide),
    htexts.imp fun r record ⟨_, strings, hstrings, _, hinner⟩ => ⟨strings, hstrings, hinner⟩⟩

end ObjectType

end DisplayClient
