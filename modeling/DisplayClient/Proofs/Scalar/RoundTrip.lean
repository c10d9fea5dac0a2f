import DisplayClient.Proofs.Memory.LittleEndian
import DisplayClient.Proofs.Sequence.Windows

/-!
# Integers and their bytes

An integer type has a width, and its numbers are written in two's complement,
the least significant byte first (`Scalar.Integral`). All bytes of that width
are a number, and a number is read back from its bytes. So numbers that stand
side by side anywhere in a view are read back as a sequence, and whatever is
read as a sequence is what stands there, written again
(`Scalar.Integral.roundTrips`). This goes for one, two, four and eight bytes,
with a sign and without (`Scalar.integers_round_trip`).
-/

namespace DisplayClient

/-- The `width` bytes of `n` in two's complement. -/
def LittleEndian.twosComplement (width : Nat) (n : Int) : List UInt8 :=
  bytes width (n % (256 ^ width : Nat)).toNat

open LittleEndian (value twosComplement)
open Sequence (readEach scalars scalarBytes)

namespace Scalar

/-- The numbers of the type are integers, each of `width` bytes in two's complement. -/
structure Integral (α : Type) [Scalar α] (width : Nat) (toInt : α → Int) : Prop where
  width_eq : Scalar.width α = width
  write_eq (x : α) : write x = twosComplement width (toInt x)
  read_write (x : α) : read (write x) = x
  write_read {bs : List UInt8} : bs.length = width → write (read bs : α) = bs

variable {α β : Type} [Scalar α] [Scalar β] {width : Nat}

theorem Integral.length_write {toInt : α → Int} (h : Integral α width toInt) (x : α) :
    (write x).length = width := by
  rw [h.write_eq, twosComplement, LittleEndian.length_bytes]

/-- Numbers without a sign are their own value. -/
theorem integral_of_natural {toNat : α → Nat} {ofNat : Nat → α} (hwidth : Scalar.width α = width)
    (hread : ∀ bs : List UInt8, read bs = ofNat (value bs))
    (hwrite : ∀ x : α, write x = LittleEndian.bytes width (toNat x))
    (hlt : ∀ x, toNat x < 256 ^ width) (hofNat : ∀ x, ofNat (toNat x) = x)
    (htoNat : ∀ n < 256 ^ width, toNat (ofNat n) = n) :
    Integral α width (fun x => (toNat x : Int)) where
  width_eq := hwidth
  write_eq x := by
    have hmod : (toNat x : Int) % (256 ^ width : Nat) = toNat x :=
      Int.emod_eq_of_lt (Int.natCast_nonneg _) (Int.ofNat_lt.mpr (hlt x))
    rw [hwrite, twosComplement, hmod, Int.toNat_natCast]
  read_write x := by rw [hwrite, hread, LittleEndian.value_bytes (hlt x), hofNat]
  write_read {bs} hbs := by
    have hvalue : value bs < 256 ^ width := hbs ▸ LittleEndian.value_lt bs
    rw [hread, hwrite, htoNat _ hvalue, ← hbs, LittleEndian.bytes_value]

/-- Numbers with a sign are those without, taken to be of the other half of the integers from the
middle on: the two agree up to a multiple of `256 ^ width`. -/
theorem Integral.signed {toNat : α → Nat} (h : Integral α width (fun x => (toNat x : Int)))
    {toInt : β → Int} {sign : α → β} {unsign : β → α} (hwidth : Scalar.width β = width)
    (hread : ∀ bs, (read bs : β) = sign (read bs)) (hwrite : ∀ y : β, write y = write (unsign y))
    (hsign : ∀ y, sign (unsign y) = y) (hunsign : ∀ x, unsign (sign x) = x)
    (hmod : ∀ y, toInt y % (256 ^ width : Nat) = (toNat (unsign y) : Int) % (256 ^ width : Nat)) :
    Integral β width toInt where
  width_eq := hwidth
  write_eq y := by rw [hwrite, h.write_eq, twosComplement, twosComplement, hmod]
  read_write y := by rw [hread, hwrite, h.read_write, hsign]
  write_read hbs := by rw [hread, hwrite, hunsign, h.write_read hbs]

theorem integral_uint8 : Integral UInt8 1 (fun x => (x.toNat : Int)) :=
  integral_of_natural rfl (fun _ => rfl) (fun _ => rfl) UInt8.toNat_lt (fun _ => UInt8.ofNat_toNat)
    fun _ => UInt8.toNat_ofNat_of_lt'

theorem integral_uint16 : Integral UInt16 2 (fun x => (x.toNat : Int)) :=
  integral_of_natural rfl (fun _ => rfl) (fun _ => rfl) UInt16.toNat_lt
    (fun _ => UInt16.ofNat_toNat) fun _ => UInt16.toNat_ofNat_of_lt'

theorem integral_uint32 : Integral UInt32 4 (fun x => (x.toNat : Int)) :=
  integral_of_natural rfl (fun _ => rfl) (fun _ => rfl) UInt32.toNat_lt
    (fun _ => UInt32.ofNat_toNat) fun _ => UInt32.toNat_ofNat_of_lt'

theorem integral_uint64 : Integral UInt64 8 (fun x => (x.toNat : Int)) :=
  integral_of_natural rfl (fun _ => rfl) (fun _ => rfl) UInt64.toNat_lt
    (fun _ => UInt64.ofNat_toNat) fun _ => UInt64.toNat_ofNat_of_lt'

/-- The same bits with a sign and without. -/
theorem toInt_emod {n : Nat} (bits : BitVec n) :
    bits.toInt % (2 ^ n : Nat) = (bits.toNat : Int) % (2 ^ n : Nat) := by
  rw [BitVec.toInt_eq_toNat_bmod, Int.bmod_emod]

theorem integral_int8 : Integral Int8 1 Int8.toInt :=
  integral_uint8.signed rfl (fun _ => rfl) (fun _ => rfl) (fun _ => rfl) (fun _ => rfl)
    fun y => toInt_emod y.toBitVec

theorem integral_int16 : Integral Int16 2 Int16.toInt :=
  integral_uint16.signed rfl (fun _ => rfl) (fun _ => rfl) (fun _ => rfl) (fun _ => rfl)
    fun y => toInt_emod y.toBitVec

theorem integral_int32 : Integral Int32 4 Int32.toInt :=
  integral_uint32.signed rfl (fun _ => rfl) (fun _ => rfl) (fun _ => rfl) (fun _ => rfl)
    fun y => toInt_emod y.toBitVec

theorem integral_int64 : Integral Int64 8 Int64.toInt :=
  integral_uint64.signed rfl (fun _ => rfl) (fun _ => rfl) (fun _ => rfl) (fun _ => rfl)
    fun y => toInt_emod y.toBitVec

/-! ## Side by side -/

/-- A word among words of one width. -/
theorem take_drop_flatten {words : List (List UInt8)} (hwords : ∀ word ∈ words, word.length = width)
    {i : Nat} {word : List UInt8} (hi : words[i]? = some word) (after : List UInt8) :
    ((words.flatten ++ after).drop (i * width)).take width = word := by
  induction words generalizing i with
  | nil => cases hi
  | cons first words ih =>
    have hfirst : first.length = width := hwords first List.mem_cons_self
    rw [List.flatten_cons, List.append_assoc]
    cases i with
    | zero =>
      rw [Nat.zero_mul, List.drop_zero, List.take_left' hfirst]
      exact Option.some.inj hi
    | succ i =>
      rw [Nat.succ_mul, Nat.add_comm, ← List.drop_drop, List.drop_left' hfirst]
      exact ih (fun word hword => hwords word (List.mem_cons_of_mem _ hword)) hi

/-- Words that are cut out of some bytes one after the other are these bytes, as far as they go. -/
theorem flatten_of_take_drop {words : List (List UInt8)} {bytes : List UInt8}
    (h : ∀ i word, words[i]? = some word → word = (bytes.drop (i * width)).take width) :
    words.flatten = bytes.take (words.length * width) := by
  induction words generalizing bytes with
  | nil => rw [List.length_nil, Nat.zero_mul, List.take_zero, List.flatten_nil]
  | cons first words ih =>
    have hfirst : first = bytes.take width := by simpa using h 0 first rfl
    have hrest : words.flatten = (bytes.drop width).take (words.length * width) :=
      ih fun i word hi => by
        rw [List.drop_drop, Nat.add_comm, ← Nat.succ_mul]
        exact h (i + 1) word hi
    rw [List.flatten_cons, List.length_cons, Nat.succ_mul, Nat.add_comm, List.take_add, ← hfirst,
      hrest]

/-- Numbers side by side, each in two's complement. -/
def encode (width : Nat) (toInt : α → Int) (xs : List α) : List UInt8 :=
  (xs.map fun x => twosComplement width (toInt x)).flatten

/-- Numbers that stand side by side anywhere in a view are read back, and what is read is what
stands in the view of the sequence. -/
structure RoundTrips (α : Type) [Scalar α] (width : Nat) (toInt : α → Int) : Prop where
  read_back (parent : View) (before after : List UInt8) (xs : List α) :
    parent.bytes = before ++ encode width toInt xs ++ after →
    ∃ s, scalars α parent before.length xs.length = .ok s ∧ s.items = xs
  written_back (parent : View) (offset count : Nat) (s : Sequence α) :
    scalars α parent offset count = .ok s → encode width toInt s.items = s.view.bytes

namespace Integral

variable {toInt : α → Int}

theorem encode_eq (h : Integral α width toInt) (xs : List α) :
    encode width toInt xs = (xs.map write).flatten := by
  rw [encode, List.map_congr_left fun x _ => h.write_eq x]

theorem length_encode (h : Integral α width toInt) (xs : List α) :
    (encode width toInt xs).length = xs.length * width := by
  induction xs with
  | nil => simp [encode]
  | cons x xs ih =>
    rw [h.encode_eq] at ih ⊢
    rw [List.map_cons, List.flatten_cons, List.length_append, h.length_write, ih, List.length_cons,
      Nat.succ_mul, Nat.add_comm]

theorem read_back (h : Integral α width toInt) {parent : View} {before after : List UInt8}
    {xs : List α} (hbytes : parent.bytes = before ++ encode width toInt xs ++ after) :
    ∃ s, scalars α parent before.length xs.length = .ok s ∧ s.items = xs := by
  have hlength := congrArg List.length hbytes
  rw [List.length_append, List.length_append, h.length_encode] at hlength
  have hfits : before.length + xs.length * Scalar.width α ≤ parent.length := by
    rw [h.width_eq, Buffer.length]
    omega
  obtain ⟨view, hview, -, -⟩ := View.exists_cut hfits
  refine ⟨⟨view, xs⟩, ?_, rfl⟩
  refine ((Sequence.scalars_strided parent _ _ α).ok_iff hfits _).mpr
    ⟨rfl, fun {i x} hi => ?_, hview⟩
  obtain ⟨hlt, -⟩ := List.getElem?_eq_some_iff.mp hi
  obtain ⟨w, hw, hwbytes, -⟩ := View.exists_cut (Sequence.stop_le hfits hlt)
  have hword : (xs.map write)[i]? = some (write x) := by rw [List.getElem?_map, hi]; rfl
  have hwords : ∀ word ∈ xs.map (write : α → List UInt8), word.length = width := by
    simp only [List.forall_mem_map]
    exact fun x _ => h.length_write x
  refine ⟨w, hw, ?_⟩
  rw [hwbytes, h.width_eq, hbytes, ← List.drop_drop, List.append_assoc, List.drop_left, h.encode_eq,
    take_drop_flatten hwords hword, h.read_write]

theorem written_back (h : Integral α width toInt) {parent : View} {offset count : Nat}
    {s : Sequence α} (hs : scalars α parent offset count = .ok s) :
    encode width toInt s.items = s.view.bytes := by
  have hstrided := Sequence.scalars_strided parent offset count α
  have hfits := hstrided.exists_ok_iff.mp ⟨s, hs⟩
  have hwindowed := (hstrided.ok_iff hfits s).mp hs
  have hwords : ∀ i word, (s.items.map write)[i]? = some word →
      word = ((parent.bytes.drop offset).drop (i * width)).take width := by
    intro i word hi
    rw [List.getElem?_map, Option.map_eq_some_iff] at hi
    obtain ⟨x, hx, rfl⟩ := hi
    obtain ⟨w, hw, hread⟩ := hwindowed.decoded hx
    have hlength : w.bytes.length = width := (View.length_of_cut hw).trans h.width_eq
    rw [List.drop_drop, ← Except.ok.inj hread, h.write_read hlength, ← h.width_eq]
    exact (View.cut_eq_ok_iff.mp hw).2.1
  rw [h.encode_eq, flatten_of_take_drop hwords, (View.cut_eq_ok_iff.mp hwindowed.cut_eq).2.1,
    List.length_map, hwindowed.length_eq, h.width_eq]

theorem roundTrips (h : Integral α width toInt) : RoundTrips α width toInt where
  read_back _ _ _ _ := h.read_back
  written_back _ _ _ _ := h.written_back

end Integral

/-- Integers of one, two, four and eight bytes, with a sign and without, are read back from their
bytes, and their bytes are those that they are read from. -/
theorem integers_round_trip :
    RoundTrips UInt8 1 (fun x => (x.toNat : Int)) ∧ RoundTrips Int8 1 Int8.toInt ∧
    RoundTrips UInt16 2 (fun x => (x.toNat : Int)) ∧ RoundTrips Int16 2 Int16.toInt ∧
    RoundTrips UInt32 4 (fun x => (x.toNat : Int)) ∧ RoundTrips Int32 4 Int32.toInt ∧
    RoundTrips UInt64 8 (fun x => (x.toNat : Int)) ∧ RoundTrips Int64 8 Int64.toInt :=
  ⟨integral_uint8.roundTrips, integral_int8.roundTrips, integral_uint16.roundTrips,
    integral_int16.roundTrips, integral_uint32.roundTrips, integral_int32.roundTrips,
    integral_uint64.roundTrips, integral_int64.roundTrips⟩

/-- A negative number and a positive one, from an odd offset on. -/
theorem integers_round_trip_of_negative :
    let parent := View.root ⟨[7, 0xfe, 0xff, 0xf4, 1, 9], by decide⟩
    ∃ s, scalars Int16 parent 1 2 = .ok s ∧ s.items = [-2, 500] ∧
      s.view.bytes = [0xfe, 0xff, 0xf4, 1] := by
  intro parent
  obtain ⟨-, -, -, hint16, -⟩ := integers_round_trip
  obtain ⟨s, hs, hitems⟩ := hint16.read_back parent [7] [9] [-2, 500] (by decide)
  have hbytes := hint16.written_back parent 1 2 s hs
  rw [hitems] at hbytes
  exact ⟨s, hs, hitems, hbytes.symm.trans (by decide)⟩

end Scalar

end DisplayClient
