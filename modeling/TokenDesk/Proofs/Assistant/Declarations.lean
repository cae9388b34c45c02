import TokenDesk.Assistant.NatSpec
import TokenDesk.Proofs.Text.Runs
import TokenDesk.Proofs.Text.Split
import TokenDesk.Proofs.Text.Written

/-!
# Declarations that are found

What a declaration is, is said without the reader: the word `contract`, blanks, the longest name, and what
is between the name and the next brace, which is blank or names the bases (`Declares`). The reader finds a
declaration just where one begins (`declaration?_eq_some_iff`), and each declaration that is reported stands
in the text at its offset (`exists_of_mem_find`).
-/

set_option autoImplicit false

namespace TokenDesk.Assistant.NatSpec

open TokenDesk.Text

variable {spec : NatSpec} {cs between stretch rest : List Char} {inheritance? : Option String}

/-! ## Blanks -/

theorem blanks?_eq_some_iff : blanks? cs = some rest ↔ ∃ gap, gap ≠ [] ∧
    (∀ c ∈ gap, isBlank c = true) ∧ (∀ c ∈ rest.head?, isBlank c = false) ∧ cs = gap ++ rest := by
  constructor
  · intro found
    cases cs with
    | nil => cases found
    | cons c cs =>
      rw [blanks?] at found
      split at found
      case isTrue blank =>
        cases found
        exact ⟨(c :: cs).takeWhile isBlank, by simp [blank], of_mem_takeWhile, head?_dropWhile,
          List.takeWhile_append_dropWhile.symm⟩
      case isFalse => cases found
  · rintro ⟨gap, some_, blanks, stop, rfl⟩
    obtain ⟨c, gap, rfl⟩ := List.exists_cons_of_ne_nil some_
    rw [List.cons_append, blanks?, if_pos (blanks c (by simp)), ← List.cons_append,
      dropWhile_run blanks stop]

/-! ## Bases -/

/-- The bases that a stretch of text names. -/
def basesIn? (stretch : List Char) : Option String :=
  if (trimChars stretch).isEmpty then none else some (String.ofList (trimChars stretch))

/-- What stands between the word `is` and the brace: a blank, more behind it, and no brace. -/
structure IsStretch (stretch : List Char) : Prop where
  blank : ∀ c ∈ stretch.head?, isBlank c = true
  long : 2 ≤ stretch.length
  braceless : '\x7b' ∉ stretch

theorem bases?_eq_some_iff : bases? cs = some (stretch, rest) ↔ IsStretch stretch ∧
    ∃ gap, gap ≠ [] ∧ (∀ c ∈ gap, isBlank c = true) ∧
      cs = gap ++ ['i', 's'] ++ stretch ++ '\x7b' :: rest := by
  unfold bases?
  constructor
  · intro found
    obtain ⟨behindGap, blank, behind⟩ := Option.bind_eq_some_iff.mp found
    obtain ⟨behindIs, is_, stretched⟩ := Option.bind_eq_some_iff.mp behind
    obtain ⟨⟨inner, behindBrace⟩, cut, long⟩ := Option.bind_eq_some_iff.mp stretched
    obtain ⟨gap, some_, blanks, -, rfl⟩ := blanks?_eq_some_iff.mp blank
    cases after?_eq_some_iff.mp is_
    obtain ⟨rfl, braceless⟩ := splitFirst?_eq_some_iff.mp cut
    dsimp only at long
    split at long
    case h_1 first second more =>
      split at long
      case isTrue lead =>
        cases long
        exact ⟨⟨by simpa using lead, by simp, braceless⟩, gap, some_, blanks, by simp⟩
      case isFalse => cases long
    case h_2 => cases long
  · rintro ⟨⟨blank, long, braceless⟩, gap, some_, blanks, rfl⟩
    obtain ⟨first, second, more, rfl⟩ : ∃ first second more, stretch = first :: second :: more := by
      match stretch, long with
      | first :: second :: more, _ => exact ⟨first, second, more, rfl⟩
    have lead : isBlank first = true := by simpa using blank
    have gone : blanks? (gap ++ ['i', 's'] ++ (first :: second :: more) ++ '\x7b' :: rest) =
        some (['i', 's'] ++ ((first :: second :: more) ++ '\x7b' :: rest)) :=
      blanks?_eq_some_iff.mpr ⟨gap, some_, blanks, by simp; decide, by simp⟩
    have cut : splitFirst? '\x7b' ((first :: second :: more) ++ '\x7b' :: rest) =
        some (first :: second :: more, rest) := splitFirst?_eq_some_iff.mpr ⟨rfl, braceless⟩
    rw [gone, Option.bind_eq_bind, Option.bind_some, after?_append, Option.bind_eq_bind, Option.bind_some,
      cut]
    simp [lead]

/-- What a contract inherits from, told by the text between its name and the next brace. -/
inductive Inherits : List Char → Option String → Prop
  | nothing {gap : List Char} (blanks : ∀ c ∈ gap, isBlank c = true) : Inherits gap none
  | bases {gap stretch : List Char} (some_ : gap ≠ []) (blanks : ∀ c ∈ gap, isBlank c = true)
      (stretched : IsStretch stretch) : Inherits (gap ++ ['i', 's'] ++ stretch) (basesIn? stretch)

theorem Inherits.braceless (inherits : Inherits between inheritance?) : '\x7b' ∉ between := by
  cases inherits with
  | nothing blanks => exact notMem_of_blanks blanks rfl
  | bases some_ blanks stretched =>
    simp only [List.mem_append, not_or]
    exact ⟨⟨notMem_of_blanks blanks rfl, by decide⟩, stretched.braceless⟩

theorem Inherits.told (inherits : Inherits between inheritance?) :
    (∀ c ∈ between, isBlank c = true) ∧ inheritance? = none ∨
      ∃ gap stretch, (∀ c ∈ gap, isBlank c = true) ∧ between = gap ++ ['i', 's'] ++ stretch ∧
        inheritance? = basesIn? stretch := by
  cases inherits with
  | nothing blanks => exact .inl ⟨blanks, rfl⟩
  | @bases gap stretch _ blanks _ => exact .inr ⟨gap, stretch, blanks, rfl, rfl⟩

/-- No name goes on in what tells the bases. -/
theorem Inherits.apart (inherits : Inherits between inheritance?) (rest : List Char) :
    ∀ c ∈ (between ++ '\x7b' :: rest).head?, isWord c = false := by
  have brace : isWord '\x7b' = false := by decide
  cases inherits with
  | nothing blanks =>
    cases between with
    | nil => simpa using brace
    | cons c between => simpa using isWord_of_isBlank (blanks c (by simp))
  | @bases gap stretch some_ blanks stretched =>
    obtain ⟨c, gap, rfl⟩ := List.exists_cons_of_ne_nil some_
    simpa using isWord_of_isBlank (blanks c (by simp))

/-! ## Declarations -/

/-- A declaration up to its opening brace: the word `contract`, blanks, the longest name that stands there,
and what tells the bases. -/
structure Declares (declared : List Char) (spec : NatSpec) : Prop where
  named : spec.contract.toList ≠ []
  words : ∀ c ∈ spec.contract.toList, isWord c = true
  text : ∃ gap between, gap ≠ [] ∧ (∀ c ∈ gap, isBlank c = true) ∧
    (∀ c ∈ (between ++ ['\x7b']).head?, isWord c = false) ∧ Inherits between spec.inheritance? ∧
    declared = "contract".toList ++ gap ++ spec.contract.toList ++ between ++ ['\x7b']

/-- The bases told behind a name, and the text behind the brace. -/
def inherited? (cs : List Char) : Option (Option String × List Char) :=
  match bases? cs with
  | some (stretch, rest) => some (basesIn? stretch, rest)
  | none => (after? ['\x7b'] (cs.dropWhile isBlank)).map fun rest => (none, rest)

theorem declaration?_eq (cs : List Char) : declaration? cs =
    ((after? "contract".toList cs).bind blanks?).bind fun cs =>
      if (cs.takeWhile isWord).isEmpty then none
      else (inherited? (cs.dropWhile isWord)).map fun told =>
        (⟨String.ofList (cs.takeWhile isWord), told.1⟩, told.2) := by
  unfold declaration? inherited?
  rw [Option.bind_assoc]
  refine Option.bind_congr fun behindWord _ => Option.bind_congr fun behindGap _ => ?_
  dsimp only
  split
  case isTrue => rfl
  case isFalse =>
    cases bases? (behindGap.dropWhile isWord) with
    | some bases => rfl
    | none =>
      dsimp only
      rw [Option.map_map]
      rfl

theorem inherited?_eq_some_iff :
    inherited? cs = some (inheritance?, rest) ↔
      ∃ between, Inherits between inheritance? ∧ cs = between ++ '\x7b' :: rest := by
  have brace : ∀ c ∈ ('\x7b' :: rest).head?, isBlank c = false := by simp; decide
  unfold inherited?
  constructor
  · intro found
    split at found
    case h_1 stretch behind bases =>
      cases found
      obtain ⟨stretched, gap, some_, blanks, rfl⟩ := bases?_eq_some_iff.mp bases
      exact ⟨_, .bases some_ blanks stretched, rfl⟩
    case h_2 =>
      obtain ⟨behind, cut, same⟩ := Option.map_eq_some_iff.mp found
      cases same
      have blanks : ∀ c ∈ cs.takeWhile isBlank, isBlank c = true := of_mem_takeWhile
      refine ⟨_, .nothing blanks, ?_⟩
      have split := after?_eq_some_iff.mp cut
      rw [List.singleton_append] at split
      rw [← split, List.takeWhile_append_dropWhile]
  · rintro ⟨between, inherits, rfl⟩
    cases inherits with
    | nothing blanks =>
      have none_ : bases? (between ++ '\x7b' :: rest) = none := by
        rw [Option.eq_none_iff_forall_ne_some]
        rintro ⟨stretch, behind⟩ bases
        obtain ⟨-, gap, -, others, same⟩ := bases?_eq_some_iff.mp bases
        -- Behind the blanks stands a brace, and no `is`.
        have first := congrArg (List.dropWhile isBlank) same
        rw [dropWhile_run blanks brace, List.append_assoc, List.append_assoc,
          dropWhile_run others (by simp; decide)] at first
        cases first
      rw [none_, dropWhile_run blanks brace]
      rfl
    | bases some_ blanks stretched =>
      rw [bases?_eq_some_iff.mpr ⟨stretched, _, some_, blanks, rfl⟩]

theorem declaration?_eq_some_iff : declaration? cs = some (spec, rest) ↔
    ∃ declared, Declares declared spec ∧ cs = declared ++ rest := by
  rw [declaration?_eq, Option.bind_assoc]
  constructor
  · intro found
    obtain ⟨behindWord, word, more⟩ := Option.bind_eq_some_iff.mp found
    obtain ⟨behindGap, blank, name⟩ := Option.bind_eq_some_iff.mp more
    obtain ⟨gap, some_, blanks, -, rfl⟩ := blanks?_eq_some_iff.mp blank
    cases after?_eq_some_iff.mp word
    split at name
    case isTrue => cases name
    case isFalse named =>
      obtain ⟨⟨inheritance?, behind⟩, told, same⟩ := Option.map_eq_some_iff.mp name
      cases same
      obtain ⟨between, inherits, split⟩ := inherited?_eq_some_iff.mp told
      have stop : ∀ c ∈ (between ++ ['\x7b']).head?, isWord c = false := inherits.apart []
      refine ⟨_, ⟨?_, fun c member => ?_, gap, between, some_, blanks, stop, inherits, rfl⟩, ?_⟩
      · simpa using named
      · rw [String.toList_ofList] at member
        exact List.all_eq_true.mp List.all_takeWhile c member
      · simp only [String.toList_ofList, List.append_assoc, List.singleton_append]
        rw [← split, List.takeWhile_append_dropWhile]
  · rintro ⟨declared, ⟨named, words, gap, between, some_, blanks, -, inherits, rfl⟩, rfl⟩
    have stop := inherits.apart rest
    have word : ∀ c ∈ (spec.contract.toList ++ (between ++ '\x7b' :: rest)).head?, isBlank c = false := by
      obtain ⟨c, name, begins⟩ := List.exists_cons_of_ne_nil named
      rw [begins] at words ⊢
      simpa using isBlank_of_isWord (words c (by simp))
    have behind : "contract".toList ++ gap ++ spec.contract.toList ++ between ++ ['\x7b'] ++ rest =
        "contract".toList ++ (gap ++ (spec.contract.toList ++ (between ++ '\x7b' :: rest))) := by simp
    rw [behind, after?_append, Option.bind_some,
      blanks?_eq_some_iff.mpr ⟨gap, some_, blanks, word, rfl⟩, Option.bind_some,
      takeWhile_run words stop, dropWhile_run words stop, if_neg (by simpa using named),
      inherited?_eq_some_iff.mpr ⟨between, inherits, rfl⟩, Option.map_some, String.ofList_toList]

/-! ## Where they stand -/

/-- What is between the name and the brace of a declaration. -/
structure Between (spec : NatSpec) (between : List Char) : Prop where
  braceless : '\x7b' ∉ between
  bases : (∀ c ∈ between, isBlank c = true) ∧ spec.inheritance? = none ∨
    ∃ gap stretch, (∀ c ∈ gap, isBlank c = true) ∧ between = gap ++ ['i', 's'] ++ stretch ∧
      spec.inheritance? = basesIn? stretch

/-- A declaration at the head of a text, and the text behind its brace. -/
structure Declaration (cs : List Char) (spec : NatSpec) (between rest : List Char) : Prop where
  text : ∃ gap, gap ≠ [] ∧ (∀ c ∈ gap, isBlank c = true) ∧
    cs = "contract".toList ++ gap ++ spec.contract.toList ++ between ++ '\x7b' :: rest
  named : spec.contract.toList ≠ []
  words : ∀ c ∈ spec.contract.toList, isWord c = true
  between : Between spec between

theorem exists_of_declaration? (found : declaration? cs = some (spec, rest)) :
    ∃ between, Declaration cs spec between rest := by
  obtain ⟨_, ⟨named, words, gap, between, some_, blanks, -, inherits, rfl⟩, rfl⟩ :=
    declaration?_eq_some_iff.mp found
  exact ⟨between, ⟨gap, some_, blanks, by simp⟩, named, words, inherits.braceless, inherits.told⟩

theorem Declaration.split (declaration : Declaration cs spec between rest) :
    ∃ taken, cs = taken ++ rest := by
  obtain ⟨gap, -, -, rfl⟩ := declaration.text
  exact ⟨"contract".toList ++ gap ++ spec.contract.toList ++ between ++ ['\x7b'], by simp⟩

theorem exists_of_mem_scan {fuel offset place : Nat} (found : (place, spec) ∈ scan fuel offset cs) :
    ∃ before tail between rest, cs = before ++ tail ∧ place = offset + byteLength before ∧
      Declaration tail spec between rest := by
  induction fuel generalizing offset cs with
  | zero => cases found
  | succ fuel ih =>
    cases cs with
    | nil => cases found
    | cons c cs =>
      rw [scan] at found
      split at found
      case h_1 first rest here =>
        obtain ⟨between, declaration⟩ := exists_of_declaration? here
        rcases List.mem_cons.mp found with same | later
        · cases same
          exact ⟨[], c :: cs, between, rest, rfl, rfl, declaration⟩
        · obtain ⟨taken, split⟩ := declaration.split
          obtain ⟨before, tail, between, behind, rfl, rfl, deeper⟩ := ih later
          refine ⟨taken ++ before, tail, between, behind, by rw [split, List.append_assoc], ?_, deeper⟩
          rw [split]
          simp only [byteLength_append]
          omega
      case h_2 =>
        obtain ⟨before, tail, between, behind, rfl, rfl, deeper⟩ := ih found
        exact ⟨c :: before, tail, between, behind, rfl, by simp only [byteLength_cons]; omega, deeper⟩

/-- A declaration that is reported stands in the text where its offset says. -/
theorem exists_of_mem_find {text : String} {offset : Nat} (found : (offset, spec) ∈ find text) :
    ∃ before tail between rest, text.toList = before ++ tail ∧ offset = byteLength before ∧
      Declaration tail spec between rest := by
  obtain ⟨before, tail, between, rest, split, place, declaration⟩ := exists_of_mem_scan found
  exact ⟨before, tail, between, rest, split, by omega, declaration⟩

end TokenDesk.Assistant.NatSpec
