import DisplayClient.Proofs.Display.Grammar

/-!
# The full spelling of a display name

A name that some text spells has no slash in its protocol, which is not empty
either, and has a slash in its host only after a protocol
(`DisplayName.Spellable`, `Spells.spellable`). Those are exactly the names
that their own full spelling spells (`spells_text_iff`): the place is written
as it is, whatever colons and slashes it has, and the numbers without signs
and zeros. So a name that was read is read back from its full spelling, and
names that were read have the same full spelling only if they are the same
(`text_reads_back`).
-/

namespace DisplayClient

theorem Text.toList_toString (n : Nat) : (toString n).toList = Nat.toDigits 10 n :=
  String.toList_ofList

/-- A number is spelled by its digits alone. -/
theorem Text.numeral_toString {limit n : Nat} (h : n < limit) :
    Numeral limit (toString n).toList n := by
  rw [toList_toString]
  exact decimal?_eq_some_iff.mp (decimal?_toDigits h)

namespace DisplayName

/-- A protocol, if there is one, has at least one character and no slash, and a host without a
protocol has no slash either. -/
structure Spellable (d : DisplayName) : Prop where
  protocol_ne {protocol : String} : d.protocol = some protocol → protocol.toList ≠ []
  protocol_slash {protocol : String} : d.protocol = some protocol → '/' ∉ protocol.toList
  host_slash : d.protocol = none → '/' ∉ d.host.toList

/-- What stands before the numbers in the full spelling. -/
def place (d : DisplayName) : List Char :=
  match d.protocol with
  | some protocol => protocol.toList ++ '/' :: d.host.toList
  | none => d.host.toList

/-- The numbers in the full spelling. -/
def numbers (d : DisplayName) : List Char :=
  (toString d.number.toNat).toList ++ '.' :: (toString d.screen.toNat).toList

theorem text_eq (d : DisplayName) : d.text = String.ofList (d.place ++ ':' :: d.numbers) := by
  rw [← String.toList_inj, String.toList_ofList]
  cases hprotocol : d.protocol <;>
    simp [text, place, numbers, hprotocol, String.toList_append]

theorem Spells.spellable {name : String} {d : DisplayName} (h : Spells name d) :
    d.Spellable := by
  cases h with
  | mk hplace =>
    cases hplace with
    | host hslash =>
      exact ⟨nofun, nofun, fun _ => by rwa [String.toList_ofList]⟩
    | protocol hne hslash =>
      refine ⟨fun h => ?_, fun h => ?_, nofun⟩
      · cases h
        rwa [String.toList_ofList]
      · cases h
        rwa [String.toList_ofList]

theorem Spellable.spellsPlace {d : DisplayName} (h : d.Spellable) :
    SpellsPlace d.place (d.protocol.map String.toList) d.host.toList := by
  rw [place]
  cases hprotocol : d.protocol with
  | none => exact .host (h.host_slash hprotocol)
  | some protocol => exact .protocol (h.protocol_ne hprotocol) (h.protocol_slash hprotocol)

theorem spellsNumbers_numbers (d : DisplayName) : SpellsNumbers d.numbers d.number d.screen :=
  .screen (Text.numeral_toString d.number.toNat_lt) (Text.numeral_toString d.screen.toNat_lt)

/-- The full spelling spells a name exactly if anything does. -/
theorem spells_text_iff {d : DisplayName} : Spells d.text d ↔ d.Spellable := by
  refine ⟨Spells.spellable, fun h => ?_⟩
  have hspells := Spells.mk h.spellsPlace d.spellsNumbers_numbers
  have hsame : (d.protocol.map String.toList).map String.ofList = d.protocol := by
    rw [Option.map_map]
    cases d.protocol <;> simp
  rw [hsame, String.ofList_toList] at hspells
  rwa [text_eq]

theorem parse_eq_ok_iff {name : String} {d : DisplayName} :
    parse name = .ok d ↔ Spells name d := by
  rw [← parse?_eq_some_iff, parse]
  cases parse? name <;> simp

/-- The full spelling of the name that a text is read as. -/
def normalize (name : String) : Except Fault String := (parse name).map text

theorem normalize_of_ok {name : String} {d : DisplayName} (h : parse name = .ok d) :
    normalize name = .ok d.text := by
  rw [normalize, h]
  rfl

theorem parse_text {name : String} {d : DisplayName} (h : parse name = .ok d) :
    parse d.text = .ok d :=
  parse_eq_ok_iff.mpr (spells_text_iff.mpr (parse_eq_ok_iff.mp h).spellable)

/-- A name that was read is read back from its full spelling. So nothing changes when a full
spelling is spelled in full again, and names that were read are the same exactly if their full
spellings are. -/
theorem text_reads_back :
    (∀ name d, parse name = .ok d → parse d.text = .ok d) ∧
    (∀ name, normalize name >>= normalize = normalize name) ∧
    ∀ name name' d d', parse name = .ok d → parse name' = .ok d' →
      (d = d' ↔ d.text = d'.text) := by
  refine ⟨fun _ _ => parse_text, fun name => ?_, fun name name' d d' h h' => ?_⟩
  · cases h : parse name with
    | error fault =>
      rw [normalize, h]
      rfl
    | ok d =>
      rw [normalize_of_ok h]
      exact normalize_of_ok (parse_text h)
  · refine ⟨fun heq => congrArg text heq, fun htext => ?_⟩
    have hd : parse d.text = .ok d := parse_text h
    rw [htext, parse_text h'] at hd
    exact (Except.ok.inj hd).symm

/-- The host has a slash and ends in colons, and the numbers have signs and zeros; the other name
has its colon elsewhere. -/
theorem text_reads_back_of_colons :
    let name := "decnet/a/b:::+007.+0"
    let other := "decnet/a:/b::07"
    let d : DisplayName := ⟨some "decnet", "a/b::", 7, 0⟩
    let d' : DisplayName := ⟨some "decnet", "a:/b:", 7, 0⟩
    parse name = .ok d ∧ parse other = .ok d' ∧ d.text = "decnet/a/b:::7.0" ∧
      parse d.text = .ok d ∧ normalize name >>= normalize = normalize name ∧
      d.text ≠ d'.text := by
  intro name other d d'
  have hname : parse name = .ok d := by decide
  have hother : parse other = .ok d' := by decide
  have hne : d ≠ d' := by decide
  obtain ⟨hback, hnormal, heq⟩ := text_reads_back
  exact ⟨hname, hother, by decide, hback name d hname, hnormal name,
    fun htext => hne ((heq name other d d' hname hother).mpr htext)⟩

end DisplayName

end DisplayClient
