import TokenDesk.Chain.Address
import TokenDesk.Proofs.Text.Hex
import TokenDesk.Proofs.Text.Runs

/-!
# Addresses read back

A text names an address just if it is forty hexadecimal digits with blanks around and one mark in front allowed.
The checksum form of that address has the same digits, letter case apart, whatever the digest is; so it reads back,
and texts name the same address just if they have the same checksum form
(`parse_checksumWith_and_checksumWith_parse`).
-/

set_option autoImplicit false

namespace TokenDesk.Address

open TokenDesk.Text
open TokenDesk.Text.Hex (digitChars)

variable {a b : Address} {cs digits others : List Char} {text other : String}

/-- A text of forty digits: blanks around them and one mark in front are allowed. -/
structure Spells (text : String) (digits : List Char) : Prop where
  around : ∃ lead mark trail, text.toList = lead ++ (mark ++ digits) ++ trail ∧
    (∀ c ∈ lead, isBlank c = true) ∧ (mark = [] ∨ mark = ['0', 'x']) ∧ ∀ c ∈ trail, isBlank c = true
  count : digits.length = 40
  each : ∀ c ∈ digits, c ∈ digitChars

/-- The same digits, letter case apart. -/
def SameDigits (first second : List Char) : Prop :=
  first.map Char.toLower = second.map Char.toLower

/-! ## Reading -/

theorem isBlank_of_mem_digitChars {c : Char} (digit : c ∈ digitChars) : isBlank c = false := by
  have each : ∀ c ∈ digitChars, isBlank c = false := List.all_iff_forall_prop.mp (by decide)
  exact each c digit

theorem dropHexMark_of_digits (each : ∀ c ∈ digits, c ∈ digitChars) : dropHexMark digits = digits := by
  cases marked : after? ['0', 'x'] digits with
  | none => rw [dropHexMark, marked, Option.getD_none]
  | some rest =>
    rw [eq_append_of_after? marked] at each
    exact absurd (each 'x' (by simp)) (by decide)

theorem dropHexMark_append (digits : List Char) : dropHexMark (['0', 'x'] ++ digits) = digits := by
  rw [dropHexMark, after?_append, Option.getD_some]

/-- What is left of a text without blanks around and without a mark. -/
theorem spells_iff : Spells text digits ↔ digits = dropHexMark (trimChars text.toList) ∧
    digits.length = 40 ∧ ∀ c ∈ digits, c ∈ digitChars := by
  constructor
  · rintro ⟨⟨lead, mark, trail, whole, before, marked, behind⟩, count, each⟩
    refine ⟨?_, count, each⟩
    have clear : ∀ c ∈ mark ++ digits, isBlank c = false := by
      intro c member
      rcases List.mem_append.mp member with front | digit
      · rcases marked with rfl | rfl
        · cases front
        · have letters : ∀ c ∈ ['0', 'x'], isBlank c = false := List.all_iff_forall_prop.mp (by decide)
          exact letters c front
      · exact isBlank_of_mem_digitChars (each c digit)
    rw [whole, trimChars_around before behind, trimChars_of_unblank clear]
    rcases marked with rfl | rfl
    · rw [List.nil_append, dropHexMark_of_digits each]
    · rw [dropHexMark_append]
  · rintro ⟨rfl, count, each⟩
    obtain ⟨lead, trail, whole, before, behind⟩ := exists_around_trimChars text.toList
    refine ⟨?_, count, each⟩
    cases marked : after? ['0', 'x'] (trimChars text.toList) with
    | none =>
      refine ⟨lead, [], trail, ?_, before, .inl rfl, behind⟩
      rw [dropHexMark, marked, Option.getD_none, List.nil_append]
      exact whole
    | some rest =>
      refine ⟨lead, ['0', 'x'], trail, ?_, before, .inr rfl, behind⟩
      rw [dropHexMark, marked, Option.getD_some, ← eq_append_of_after? marked]
      exact whole

theorem parse_eq_ok_iff_decode :
    parse text = .ok a ↔ Hex.decode (dropHexMark (trimChars text.toList)) = .ok a.bytes := by
  unfold parse
  cases decoded : Hex.decode (dropHexMark (trimChars text.toList)) with
  | error e => simp
  | ok bs =>
    dsimp only
    split
    case isTrue length =>
      rw [Except.ok.injEq, Except.ok.injEq]
      exact ⟨fun same => by rw [← same], fun same => by cases a; cases same; rfl⟩
    case isFalse length =>
      refine iff_of_false (by simp) fun same => length ?_
      rw [Except.ok.inj same, a.length_bytes]

/-- A text names an address just if it spells the digits that the address is written with, letter case apart. -/
theorem parse_eq_ok_iff : parse text = .ok a ↔
    ∃ digits, Spells text digits ∧ digits.map Char.toLower = Hex.encodeChars a.bytes := by
  rw [parse_eq_ok_iff_decode, Hex.decode_eq_ok_iff]
  constructor
  · rintro ⟨each, same⟩
    have count := congrArg List.length same
    rw [List.length_map, Hex.length_encodeChars, a.length_bytes] at count
    exact ⟨_, spells_iff.mpr ⟨rfl, count, each⟩, same⟩
  · rintro ⟨digits, spells, same⟩
    obtain ⟨rfl, -, each⟩ := spells_iff.mp spells
    exact ⟨each, same⟩

theorem parse_eq_ok_iff_of_spells (spells : Spells text digits) :
    parse text = .ok a ↔ digits.map Char.toLower = Hex.encodeChars a.bytes := by
  refine parse_eq_ok_iff.trans ⟨?_, fun same => ⟨digits, spells, same⟩⟩
  rintro ⟨others, spelled, same⟩
  rwa [(spells_iff.mp spells).1, ← (spells_iff.mp spelled).1]

theorem exists_parse_iff : (∃ a, parse text = .ok a) ↔ ∃ digits, Spells text digits := by
  constructor
  · rintro ⟨a, named⟩
    obtain ⟨digits, spells, -⟩ := parse_eq_ok_iff.mp named
    exact ⟨digits, spells⟩
  · rintro ⟨digits, spells⟩
    have even : digits.length = 2 * 20 := spells.count
    obtain ⟨bs, length, same⟩ := Hex.exists_encodeChars spells.each even
    exact ⟨⟨bs, length⟩, parse_eq_ok_iff.mpr ⟨digits, spells, same⟩⟩

/-! ## The checksum form -/

theorem toUpper_digit {c : Char} (digit : c ∈ digitChars) :
    c.toUpper ∈ digitChars ∧ c.toUpper.toLower = c.toLower := by
  have each : ∀ c ∈ digitChars, c.toUpper ∈ digitChars ∧ c.toUpper.toLower = c.toLower :=
    List.all_iff_forall_prop.mp (by decide)
  exact each c digit

/-- Raising letters leaves digits as they are, letter case apart. -/
theorem raiseLetters_digits (digest : Octets) (place : Nat) (each : ∀ c ∈ cs, c ∈ digitChars) :
    (∀ c ∈ raiseLetters digest place cs, c ∈ digitChars) ∧
      SameDigits (raiseLetters digest place cs) cs := by
  induction cs generalizing place with
  | nil => exact ⟨by simp [raiseLetters], rfl⟩
  | cons c cs ih =>
    rw [List.forall_mem_cons] at each
    obtain ⟨digits, same⟩ := ih (place + 1) each.2
    rw [raiseLetters, List.forall_mem_cons, SameDigits, List.map_cons, List.map_cons, same]
    split
    case isTrue =>
      obtain ⟨upper, lower⟩ := toUpper_digit each.1
      exact ⟨⟨upper, digits⟩, by rw [lower]⟩
    case isFalse => exact ⟨⟨each.1, digits⟩, rfl⟩

/-- Whatever the digest, the checksum form spells the digits of the address. -/
theorem exists_checksumWith_eq (digest : Octets → Octets) (a : Address) : ∃ digits,
    a.checksumWith digest = "0x" ++ String.ofList digits ∧ Spells (a.checksumWith digest) digits ∧
      digits.map Char.toLower = Hex.encodeChars a.bytes := by
  obtain ⟨lower, same⟩ := Hex.encodeChars_lower a.bytes
  obtain ⟨each, kept⟩ := raiseLetters_digits
    (digest (octets (String.ofList (Hex.encodeChars a.bytes)))) 0 lower
  have written := kept.trans same
  have count := congrArg List.length written
  rw [List.length_map, Hex.length_encodeChars, a.length_bytes] at count
  refine ⟨_, rfl, ⟨⟨[], ['0', 'x'], [], ?_, by simp, .inr rfl, by simp⟩, count, each⟩, written⟩
  simp [checksumWith]

theorem parse_checksumWith (digest : Octets → Octets) (a : Address) : parse (a.checksumWith digest) = .ok a := by
  obtain ⟨digits, -, spells, written⟩ := exists_checksumWith_eq digest a
  exact parse_eq_ok_iff.mpr ⟨digits, spells, written⟩

/-- Texts name one address just if they spell the same digits. -/
theorem eq_iff_sameDigits (named : parse text = .ok a) (again : parse other = .ok b) (spells : Spells text digits)
    (spelled : Spells other others) : a = b ↔ SameDigits digits others := by
  have first := (parse_eq_ok_iff_of_spells spells).mp named
  have second := (parse_eq_ok_iff_of_spells spelled).mp again
  rw [SameDigits, first]
  constructor
  · rintro rfl
    exact second.symm
  · intro same
    have renamed := (parse_eq_ok_iff_of_spells spelled).mpr same.symm
    rw [again] at renamed
    exact (Except.ok.inj renamed).symm

theorem checksumWith_inj {digest : Octets → Octets} (same : a.checksumWith digest = b.checksumWith digest) :
    a = b := by
  have named := parse_checksumWith digest a
  rw [same, parse_checksumWith digest b] at named
  exact (Except.ok.inj named).symm

/-- Let the digest have 32 bytes, whatever they are. Then it has a place for each of the forty digits, and the
checksum form of an address reads back as the address. The texts that are read are those that spell forty digits;
the checksum form of what is read is the mark and these digits, letter case apart; and two texts name one address
just if they have one checksum form, which is just if they spell the same digits. -/
theorem parse_checksumWith_and_checksumWith_parse (digest : Octets → Octets)
    (sized : ∀ bs, (digest bs).length = 32) :
    (∀ a : Address, parse (a.checksumWith digest) = .ok a ∧
      ∀ place, place < (Hex.encodeChars a.bytes).length → ∀ bs, place / 2 < (digest bs).length) ∧
    (∀ text, (∃ a, parse text = .ok a) ↔ ∃ digits, Spells text digits) ∧
    (∀ text a digits, parse text = .ok a → Spells text digits → ∃ raised,
      a.checksumWith digest = "0x" ++ String.ofList raised ∧ SameDigits raised digits) ∧
    ∀ text other a b digits others, parse text = .ok a → parse other = .ok b → Spells text digits →
      Spells other others → (a = b ↔ a.checksumWith digest = b.checksumWith digest) ∧
        (a = b ↔ SameDigits digits others) := by
  refine ⟨fun a => ⟨parse_checksumWith digest a, fun place inside bs => ?_⟩, fun text => exists_parse_iff,
    fun text a digits named spells => ?_, fun text other a b digits others named again spells spelled =>
      ⟨⟨fun same => by rw [same], checksumWith_inj⟩, eq_iff_sameDigits named again spells spelled⟩⟩
  · rw [Hex.length_encodeChars, a.length_bytes] at inside
    rw [sized]
    omega
  · obtain ⟨raised, form, -, written⟩ := exists_checksumWith_eq digest a
    refine ⟨raised, form, ?_⟩
    rw [SameDigits, written, (parse_eq_ok_iff_of_spells spells).mp named]

/-- An address without a mark, in capitals and between blanks. -/
def capitals : String := "\t5AAEB6053F3E94C9B9A09F33669435E7EF1BEAED\n"

/-- The same address with a mark and in small letters. -/
def smallLetters : String := "0x5aaeb6053f3e94c9b9a09f33669435e7ef1beaed"

theorem spells_capitals : Spells capitals "5AAEB6053F3E94C9B9A09F33669435E7EF1BEAED".toList :=
  ⟨⟨['\t'], [], ['\n'], by decide, List.forall_mem_singleton.mpr (by decide), .inl rfl,
    List.forall_mem_singleton.mpr (by decide)⟩, by decide, List.all_iff_forall_prop.mp (by decide)⟩

theorem spells_smallLetters : Spells smallLetters "5aaeb6053f3e94c9b9a09f33669435e7ef1beaed".toList :=
  ⟨⟨[], ['0', 'x'], [], by decide, by simp, .inr rfl, by simp⟩, by decide,
    List.all_iff_forall_prop.mp (by decide)⟩

/-- With the digest that is used, both texts name one address, whose checksum form has the same digits. -/
theorem parse_checksumWith_and_checksumWith_parse_capitals :
    (∀ bs, (Hash.Keccak.keccak256 bs).length = 32) ∧ ∃ a raised, parse capitals = .ok a ∧
      parse smallLetters = .ok a ∧ parse a.checksum = .ok a ∧ a.checksum = "0x" ++ String.ofList raised ∧
      SameDigits raised "5aaeb6053f3e94c9b9a09f33669435e7ef1beaed".toList := by
  obtain ⟨forms, readable, parsed, alike⟩ :=
    parse_checksumWith_and_checksumWith_parse Hash.Keccak.keccak256 Hash.Keccak.length_keccak256
  obtain ⟨a, named⟩ := (readable capitals).mpr ⟨_, spells_capitals⟩
  obtain ⟨b, again⟩ := (readable smallLetters).mpr ⟨_, spells_smallLetters⟩
  obtain ⟨raised, form, same⟩ := parsed smallLetters b _ again spells_smallLetters
  have one : a = b :=
    (alike _ _ a b _ _ named again spells_capitals spells_smallLetters).2.mpr (by unfold SameDigits; decide)
  subst one
  exact ⟨Hash.Keccak.length_keccak256, a, raised, named, again, (forms a).1, form, same⟩

end TokenDesk.Address
