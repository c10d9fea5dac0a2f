import DisplayClient.Display.Resolve
import Mathlib.Tactic.Ring

/-!
# The grammar of display names

A display name is a place, a colon and numbers: the place is a host, or a
protocol, a slash and a host, and the numbers are that of the display, or
that of the display, a point and that of the screen (`DisplayName.Spells`). A
number is written in decimal, after a plus sign or none (`Text.Numeral`).

Each part of a name is read exactly if it is spelled so
(`Text.decimal?_eq_some_iff`, `DisplayName.place?_eq_some_iff`,
`DisplayName.numbers?_eq_some_iff`). Neither a colon nor a point stands in a
number, so that a name is cut where its parts meet, and is read exactly if it
is spelled by the grammar (`DisplayName.parse_spelled`).
-/

namespace DisplayClient

namespace Text

/-! ## Numbers -/

/-- The number that digits stand for, each by its place. -/
def placeValue : List Char → Nat
  | [] => 0
  | c :: cs => (c.toNat - '0'.toNat) * 10 ^ cs.length + placeValue cs

/-- The text is ASCII digits, one or more. -/
structure Digits (text : List Char) : Prop where
  ne_nil : text ≠ []
  isDigit : ∀ c ∈ text, '0' ≤ c ∧ c ≤ '9'

/-- The text is a decimal number below `limit`. A plus sign may stand in front, and so may zeros. -/
inductive Numeral (limit : Nat) : List Char → Nat → Prop where
  | plain {digits : List Char} (hdigits : Digits digits) (hlt : placeValue digits < limit) :
    Numeral limit digits (placeValue digits)
  | signed {digits : List Char} (hdigits : Digits digits) (hlt : placeValue digits < limit) :
    Numeral limit ('+' :: digits) (placeValue digits)

/-- By induction on the digits: what was read before moves up one place with each of them. -/
theorem ofDigitChars_eq (digits : List Char) (n : Nat) :
    Nat.ofDigitChars 10 digits n = n * 10 ^ digits.length + placeValue digits := by
  induction digits generalizing n with
  | nil => simp [placeValue, Nat.ofDigitChars]
  | cons c cs ih =>
    rw [Nat.ofDigitChars_cons, ih, placeValue, List.length_cons, Nat.pow_succ]
    ring

theorem digits_iff {text : List Char} : Digits text ↔ text ≠ [] ∧ text.all Char.isDigit = true := by
  have hdigit (c : Char) : c.isDigit = true ↔ '0' ≤ c ∧ c ≤ '9' := by
    simp only [Char.isDigit, Bool.and_eq_true, decide_eq_true_eq]
    rfl
  simp only [List.all_eq_true, hdigit]
  exact ⟨fun h => ⟨h.ne_nil, h.isDigit⟩, fun h => ⟨h.1, h.2⟩⟩

theorem Digits.not_mem {text : List Char} (h : Digits text) {c : Char}
    (hc : ¬ ('0' ≤ c ∧ c ≤ '9')) : c ∉ text := fun hmem => hc (h.isDigit c hmem)

theorem Numeral.lt {limit n : Nat} {text : List Char} (h : Numeral limit text n) : n < limit := by
  cases h <;> assumption

/-- Of all characters but the digits, only the plus sign stands in a number. -/
theorem Numeral.not_mem {limit n : Nat} {text : List Char} (h : Numeral limit text n) {c : Char}
    (hplus : c ≠ '+') (hc : ¬ ('0' ≤ c ∧ c ≤ '9')) : c ∉ text := by
  cases h with
  | plain hdigits => exact hdigits.not_mem hc
  | signed hdigits =>
    rw [List.mem_cons, not_or]
    exact ⟨hplus, hdigits.not_mem hc⟩

/-- One plus sign is dropped, and nothing else. -/
theorem dropPlus_cases (text : List Char) : text = '+' :: dropPlus text ∨ dropPlus text = text := by
  unfold dropPlus
  split
  · exact .inl rfl
  · exact .inr rfl

theorem dropPlus_of_digits {text : List Char} (h : Digits text) : dropPlus text = text := by
  have hplus : '+' ∉ text := h.not_mem (by decide)
  refine (dropPlus_cases text).resolve_left fun hsigned => hplus ?_
  rw [hsigned]
  exact List.mem_cons_self

/-- What a text is read as after its sign. -/
theorem decimal?_of_digits {limit : Nat} {text : List Char} (h : Digits (dropPlus text)) :
    decimal? limit text =
      if placeValue (dropPlus text) < limit then some (placeValue (dropPlus text)) else none := by
  have hvalue : Nat.ofDigitChars 10 (dropPlus text) 0 = placeValue (dropPlus text) := by
    rw [ofDigitChars_eq, Nat.zero_mul, Nat.zero_add]
  simp only [decimal?, hvalue]
  exact if_pos (digits_iff.mp h)

theorem decimal?_eq_some_iff {limit n : Nat} {text : List Char} :
    decimal? limit text = some n ↔ Numeral limit text n := by
  constructor
  · intro h
    have hdigits : Digits (dropPlus text) := by
      rw [digits_iff]
      by_contra hnot
      simp only [decimal?] at h
      rw [if_neg hnot] at h
      cases h
    rw [decimal?_of_digits hdigits, Option.ite_none_right_eq_some, Option.some.injEq] at h
    obtain ⟨hlt, rfl⟩ := h
    rcases dropPlus_cases text with hsigned | hplain
    · rw [hsigned]
      exact .signed hdigits hlt
    · rw [hplain] at hdigits hlt ⊢
      exact .plain hdigits hlt
  · intro h
    cases h with
    | @plain digits hdigits hlt =>
      have hsame := dropPlus_of_digits hdigits
      rw [decimal?_of_digits (by rwa [hsame]), hsame, if_pos hlt]
    | @signed digits hdigits hlt =>
      have hrest : dropPlus ('+' :: digits) = digits := rfl
      rw [decimal?_of_digits (by rwa [hrest]), hrest, if_pos hlt]

end Text

namespace DisplayName

open Text (Numeral decimal?_eq_some_iff)

/-! ## Places and numbers -/

/-- The text is a host, or a protocol, a slash and a host. A protocol is not empty and has no
slash; a host without a protocol has none either. -/
inductive SpellsPlace : List Char → Option (List Char) → List Char → Prop where
  | host {host : List Char} (hslash : '/' ∉ host) : SpellsPlace host none host
  | protocol {protocol host : List Char} (hne : protocol ≠ []) (hslash : '/' ∉ protocol) :
    SpellsPlace (protocol ++ '/' :: host) (some protocol) host

/-- The text is the number of a display, whose screen is then 0, or the numbers of a display and of
a screen, with a point between. -/
inductive SpellsNumbers : List Char → UInt16 → UInt64 → Prop where
  | display {text : List Char} {number : UInt16}
      (hnumber : Numeral UInt16.size text number.toNat) : SpellsNumbers text number 0
  | screen {text text' : List Char} {number : UInt16} {screen : UInt64}
      (hnumber : Numeral UInt16.size text number.toNat)
      (hscreen : Numeral UInt64.size text' screen.toNat) :
    SpellsNumbers (text ++ '.' :: text') number screen

/-- The text is a place, a colon and numbers. -/
inductive Spells : String → DisplayName → Prop where
  | mk {place numbers host : List Char} {protocol : Option (List Char)} {number : UInt16}
      {screen : UInt64} (hplace : SpellsPlace place protocol host)
      (hnumbers : SpellsNumbers numbers number screen) :
    Spells (String.ofList (place ++ ':' :: numbers))
      ⟨protocol.map String.ofList, String.ofList host, number, screen⟩

theorem place?_eq_some_iff {place host : List Char} {protocol : Option (List Char)} :
    place? place = some (protocol, host) ↔ SpellsPlace place protocol host := by
  constructor
  · intro h
    rw [place?] at h
    split at h
    next hnone =>
      cases h
      exact .host (Text.cutFirst_eq_none_iff.mp hnone)
    next => cases h
    next protocol' host' hempty hcut =>
      cases h
      obtain ⟨rfl, hslash⟩ := Text.cutFirst_eq_some_iff.mp hcut
      exact .protocol (fun hnil => hempty hnil) hslash
  · intro h
    cases h with
    | host hslash => rw [place?, Text.cutFirst_eq_none_iff.mpr hslash]
    | @protocol protocol host hne hslash =>
      rw [place?, Text.cutFirst_eq_some_iff.mpr ⟨rfl, hslash⟩]
      cases protocol with
      | nil => exact absurd rfl hne
      | cons c cs => rfl

theorem numbers?_eq_some_iff {text : List Char} {number : UInt16} {screen : UInt64} :
    numbers? text = some (number, screen) ↔ SpellsNumbers text number screen := by
  constructor
  · intro h
    rw [numbers?] at h
    split at h
    next =>
      obtain ⟨n, hn, hpair⟩ := Option.bind_eq_some_iff.mp h
      cases hpair
      have hnumeral := Text.decimal?_eq_some_iff.mp hn
      exact .display (by rwa [UInt16.toNat_ofNat_of_lt' hnumeral.lt])
    next first second hcut =>
      obtain ⟨rfl, -⟩ := Text.cutFirst_eq_some_iff.mp hcut
      obtain ⟨m, hm, hrest⟩ := Option.bind_eq_some_iff.mp h
      obtain ⟨n, hn, hpair⟩ := Option.bind_eq_some_iff.mp hrest
      cases hpair
      have hnumber := Text.decimal?_eq_some_iff.mp hn
      have hscreen := Text.decimal?_eq_some_iff.mp hm
      exact .screen (by rwa [UInt16.toNat_ofNat_of_lt' hnumber.lt])
        (by rwa [UInt64.toNat_ofNat_of_lt' hscreen.lt])
  · intro h
    cases h with
    | display hnumber =>
      have hpoint : '.' ∉ text := hnumber.not_mem (by decide) (by decide)
      rw [numbers?, Text.cutFirst_eq_none_iff.mpr hpoint]
      refine Option.bind_eq_some_iff.mpr ⟨_, Text.decimal?_eq_some_iff.mpr hnumber, ?_⟩
      rw [UInt16.ofNat_toNat]
      rfl
    | @screen first second _ _ hnumber hscreen =>
      have hpoint : '.' ∉ first := hnumber.not_mem (by decide) (by decide)
      rw [numbers?, Text.cutFirst_eq_some_iff.mpr ⟨rfl, hpoint⟩]
      refine Option.bind_eq_some_iff.mpr ⟨_, Text.decimal?_eq_some_iff.mpr hscreen, ?_⟩
      refine Option.bind_eq_some_iff.mpr ⟨_, Text.decimal?_eq_some_iff.mpr hnumber, ?_⟩
      rw [UInt16.ofNat_toNat, UInt64.ofNat_toNat]
      rfl

/-- So the last colon of a name is the one before its numbers. -/
theorem SpellsNumbers.colon_not_mem {text : List Char} {number : UInt16} {screen : UInt64}
    (h : SpellsNumbers text number screen) : ':' ∉ text := by
  cases h with
  | display hnumber => exact hnumber.not_mem (by decide) (by decide)
  | screen hnumber hscreen =>
    rw [List.mem_append, List.mem_cons, not_or, not_or]
    exact ⟨hnumber.not_mem (by decide) (by decide), by decide,
      hscreen.not_mem (by decide) (by decide)⟩

/-! ## Names -/

theorem parse?_eq_some_iff {name : String} {d : DisplayName} :
    parse? name = some d ↔ Spells name d := by
  constructor
  · intro h
    obtain ⟨⟨place, numbers⟩, hcut, hrest⟩ := Option.bind_eq_some_iff.mp h
    obtain ⟨⟨protocol, host⟩, hplace, hlast⟩ := Option.bind_eq_some_iff.mp hrest
    obtain ⟨⟨number, screen⟩, hnumbers, hd⟩ := Option.bind_eq_some_iff.mp hlast
    cases hd
    obtain ⟨hname, -⟩ := Text.cutLast_eq_some_iff.mp hcut
    rw [← String.ofList_toList (s := name), hname]
    exact .mk (place?_eq_some_iff.mp hplace) (numbers?_eq_some_iff.mp hnumbers)
  · intro h
    cases h with
    | @mk place numbers _ _ _ _ hplace hnumbers =>
      have hcut : Text.cutLast ':' (place ++ ':' :: numbers) = some (place, numbers) :=
        Text.cutLast_eq_some_iff.mpr ⟨rfl, hnumbers.colon_not_mem⟩
      rw [parse?, String.toList_ofList]
      refine Option.bind_eq_some_iff.mpr ⟨_, hcut, ?_⟩
      refine Option.bind_eq_some_iff.mpr ⟨_, place?_eq_some_iff.mpr hplace, ?_⟩
      exact Option.bind_eq_some_iff.mpr ⟨_, numbers?_eq_some_iff.mpr hnumbers, rfl⟩

/-- A name is read exactly if it is spelled by the grammar, and as what it spells; the fault of any
other holds all of it. -/
theorem parse_spelled (name : String) :
    (∀ d, parse name = .ok d ↔ Spells name d) ∧
    ∀ fault, parse name = .error fault ↔
      (∀ d, ¬ Spells name d) ∧ fault = .invalidDisplay name := by
  simp only [← parse?_eq_some_iff, parse]
  cases parse? name with
  | some target => simp
  | none => simp [eq_comm]

/-- The host has colons and a slash of its own, and the numbers have signs and zeros in front. -/
example : parse "tcp/[::1]/x:+0007.+1" = .ok ⟨some "tcp", "[::1]/x", 7, 1⟩ := by decide

end DisplayName

end DisplayClient
