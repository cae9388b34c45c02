import TokenDesk.Json.Printer
import TokenDesk.Json.Reader
import TokenDesk.Proofs.Text.Written

/-!
# The document of a printed value

Scanning the text of a value, in the form of files, meets exactly one document: the value itself as it
is written, every list closed and nothing broken (`ofChars_pretty`). The statement under it is about a
value with any text behind it, as long as that text does not carry a number on.
-/

set_option autoImplicit false

namespace TokenDesk.Json

open TokenDesk.Text

/-! ## Numbers as written -/

namespace Numeral

def fractionChars : Option (List Char) → List Char
  | none => []
  | some run => '.' :: run

def exponentChars : Option (Bool × List Char) → List Char
  | none => []
  | some (negative, run) => 'e' :: (if negative then '-' else '+') :: run

/-- A number without its sign. -/
def bodyChars (n : Numeral) : List Char :=
  n.whole ++ fractionChars n.fraction? ++ exponentChars n.exponent?

def chars (n : Numeral) : List Char :=
  if n.negative then '-' :: n.bodyChars else n.bodyChars

/-- A number that a text may hold: no run of digits is empty and a leading zero stands alone. -/
structure WellFormed (n : Numeral) : Prop where
  whole_ne_nil : n.whole ≠ []
  whole_digits : ∀ c ∈ n.whole, isDigit c = true
  whole_lead : 1 < n.whole.length → n.whole.head? ≠ some '0'
  fraction_run : ∀ run, n.fraction? = some run → run ≠ [] ∧ ∀ c ∈ run, isDigit c = true
  exponent_run : ∀ sign run, n.exponent? = some (sign, run) →
    run ≠ [] ∧ ∀ c ∈ run, isDigit c = true

end Numeral

/-- A text behind a number that does not carry it on. -/
def Stops : List Char → Prop
  | [] => True
  | c :: _ => isDigit c = false ∧ c ≠ '.' ∧ c ≠ 'e' ∧ c ≠ 'E'

@[simp] theorem stops_nil : Stops [] := trivial

@[simp] theorem stops_comma (cs : List Char) : Stops (',' :: cs) := by
  simp [Stops, isDigit]

@[simp] theorem stops_lineBreak (level : Nat) (cs : List Char) : Stops (lineBreak level ++ cs) := by
  simp [Stops, lineBreak, isDigit]

/-- A run of digits ends where another character stands. -/
theorem digitRun_append {run rest : List Char} (all : ∀ c ∈ run, isDigit c = true)
    (ends : ∀ c ∈ rest.head?, isDigit c = false) : digitRun (run ++ rest) = (run, rest) := by
  have taken : rest.takeWhile isDigit = [] := by
    cases rest with
    | nil => rfl
    | cons c cs => simp [ends c (by simp)]
  have dropped : rest.dropWhile isDigit = rest := by
    cases rest with
    | nil => rfl
    | cons c cs => simp [ends c (by simp)]
  rw [digitRun, List.takeWhile_append_of_pos all, List.dropWhile_append_of_pos all, taken, dropped,
    List.append_nil]

theorem exponent?_chars {exponent : Option (Bool × List Char)} {rest : List Char}
    (run : ∀ sign run, exponent = some (sign, run) → run ≠ [] ∧ ∀ c ∈ run, isDigit c = true)
    (stops : Stops rest) :
    exponent? (Numeral.exponentChars exponent ++ rest) = some (exponent, rest) := by
  match exponent with
  | none =>
    cases rest with
    | nil => rfl
    | cons c cs =>
      obtain ⟨-, -, small, large⟩ := stops
      simp [Numeral.exponentChars, exponent?, small, large]
  | some (negative, digits) =>
    obtain ⟨nonempty, all⟩ := run negative digits rfl
    have ends : ∀ c ∈ rest.head?, isDigit c = false := by
      cases rest with
      | nil => simp
      | cons c cs => simpa using stops.1
    cases negative <;>
      simp [Numeral.exponentChars, exponent?, exponentDigits?, digitRun_append all ends, nonempty]

/-- What follows the whole digits neither is a digit nor hides the fraction. -/
theorem fraction?_chars {fraction : Option (List Char)} {exponent : Option (Bool × List Char)}
    {rest : List Char}
    (run : ∀ run, fraction = some run → run ≠ [] ∧ ∀ c ∈ run, isDigit c = true)
    (stops : Stops rest) :
    fraction? (Numeral.fractionChars fraction ++ (Numeral.exponentChars exponent ++ rest)) =
      some (fraction, Numeral.exponentChars exponent ++ rest) := by
  have ends : ∀ c ∈ (Numeral.exponentChars exponent ++ rest).head?,
      isDigit c = false ∧ c ≠ '.' := by
    cases exponent with
    | none =>
      cases rest with
      | nil => simp [Numeral.exponentChars]
      | cons c cs => simpa [Numeral.exponentChars] using ⟨stops.1, stops.2.1⟩
    | some signed =>
      obtain ⟨negative, digits⟩ := signed
      simp [Numeral.exponentChars, isDigit]
  cases fraction with
  | none =>
    cases tail : Numeral.exponentChars exponent ++ rest with
    | nil => rfl
    | cons c cs =>
      have point : c ≠ '.' := (ends c (by simp [tail])).2
      simp [Numeral.fractionChars, fraction?, point]
  | some digits =>
    obtain ⟨nonempty, all⟩ := run digits rfl
    simp [Numeral.fractionChars, fraction?,
      digitRun_append all (fun c member => (ends c member).1), nonempty]

/-- Scanning inverts the writing of a number. -/
theorem numeral?_chars {n : Numeral} (formed : n.WellFormed) {rest : List Char}
    (stops : Stops rest) : numeral? n.negative (n.bodyChars ++ rest) = some (n, rest) := by
  have ends : ∀ c ∈ (Numeral.fractionChars n.fraction? ++
      (Numeral.exponentChars n.exponent? ++ rest)).head?, isDigit c = false := by
    match n.fraction?, n.exponent? with
    | some run, _ => simp [Numeral.fractionChars, isDigit]
    | none, some (negative, run) =>
      simp [Numeral.fractionChars, Numeral.exponentChars, isDigit]
    | none, none =>
      cases rest with
      | nil => simp [Numeral.fractionChars, Numeral.exponentChars]
      | cons c cs => simpa [Numeral.fractionChars, Numeral.exponentChars] using stops.1
  have lead : ¬ (n.whole.isEmpty || (1 < n.whole.length && n.whole.head? == some '0')) = true := by
    have zero := formed.whole_lead
    simp only [Bool.or_eq_true, Bool.and_eq_true, List.isEmpty_iff, decide_eq_true_eq, beq_iff_eq,
      not_or, not_and]
    exact ⟨formed.whole_ne_nil, zero⟩
  rw [Numeral.bodyChars, List.append_assoc, List.append_assoc, numeral?,
    digitRun_append formed.whole_digits ends]
  simp only [if_neg lead, fraction?_chars formed.fraction_run stops,
    exponent?_chars formed.exponent_run stops]

/-- A whole number as it is written. -/
def Numeral.ofInt : Int → Numeral
  | .ofNat n => ⟨false, digits n, none, none⟩
  | .negSucc n => ⟨true, digits (n + 1), none, none⟩

theorem Numeral.ofInt_wellFormed (i : Int) : (Numeral.ofInt i).WellFormed := by
  have plain (negative : Bool) (n : Nat) :
      (⟨negative, digits n, none, none⟩ : Numeral).WellFormed := by
    refine ⟨digits_ne_nil n, fun c member => isDigit_of_mem_digits member, ?_, ?_, ?_⟩
    · intro long
      apply head_digits_ne_zero
      rcases Nat.eq_zero_or_pos n with rfl | positive
      · simp [digits] at long
      · exact positive
    · simp
    · simp
  cases i with
  | ofNat n => exact plain false n
  | negSucc n => exact plain true (n + 1)

theorem wholeChars_eq (i : Int) : wholeChars i = (Numeral.ofInt i).chars := by
  cases i <;> simp [wholeChars, Numeral.ofInt, Numeral.chars, Numeral.bodyChars,
    Numeral.fractionChars, Numeral.exponentChars]

/-! ## The document of a value -/

namespace Double

/-- The shortest digits as a number in a text, in the layout of `shortestChars`. -/
def numeralOf (negative : Bool) (s : Shortest) : Numeral :=
  if 0 ≤ s.exponent && s.exponent < 16 then
    let whole := s.exponent.toNat + 1
    if s.digits.length ≤ whole then
      ⟨negative, s.digits ++ List.replicate (whole - s.digits.length) '0', some ['0'], none⟩
    else ⟨negative, s.digits.take whole, some (s.digits.drop whole), none⟩
  else if -5 ≤ s.exponent && s.exponent < 0 then
    ⟨negative, ['0'], some (List.replicate (s.exponent.natAbs - 1) '0' ++ s.digits), none⟩
  else
    ⟨negative, s.digits.take 1, if s.digits.length ≤ 1 then none else some (s.digits.drop 1),
      some (decide (s.exponent < 0), digits s.exponent.natAbs)⟩

/-- A double as it is written. -/
def numeral (d : Double) : Numeral :=
  if d.magnitude = 0 then ⟨d.negative, ['0'], some ['0'], none⟩
  else numeralOf d.negative d.shortest

theorem shortestChars_eq (negative : Bool) (s : Shortest) :
    shortestChars s = (numeralOf negative s).bodyChars := by
  unfold shortestChars numeralOf
  split
  · dsimp only
    split <;> simp [Numeral.bodyChars, Numeral.fractionChars, Numeral.exponentChars]
  · split
    · simp [Numeral.bodyChars, Numeral.fractionChars, Numeral.exponentChars]
    · dsimp only
      split <;> simp [Numeral.bodyChars, Numeral.fractionChars, Numeral.exponentChars]

theorem numeralOf_negative (negative : Bool) (s : Shortest) :
    (numeralOf negative s).negative = negative := by
  unfold numeralOf
  split
  · dsimp only
    split <;> rfl
  · split <;> rfl

theorem numeral_negative (d : Double) : d.numeral.negative = d.negative := by
  unfold numeral
  split
  · rfl
  · exact numeralOf_negative _ _

theorem chars_eq (d : Double) : d.chars = d.numeral.chars := by
  have body : (if d.magnitude = 0 then ['0', '.', '0'] else shortestChars d.shortest) =
      d.numeral.bodyChars := by
    unfold numeral
    split
    · rfl
    · exact shortestChars_eq _ _
  simp only [chars, body, Numeral.chars, numeral_negative]

end Double

mutual

/-- A value as it is written. -/
def document : Json → Document
  | .null => .null
  | .bool b => .bool b
  | .whole n => .number (Numeral.ofInt n)
  | .double d => .number d.numeral
  | .string s => .string (some s)
  | .array items => .array (documentItems items) true
  | .object entries => .object (documentEntries entries) true

def documentItems : List Json → List Document
  | [] => []
  | item :: items => document item :: documentItems items

def documentEntries : List (String × Json) → List (Option String × Document)
  | [] => []
  | (key, value) :: entries => (some key, document value) :: documentEntries entries

end

mutual

/-- Every number in a value, at any depth, satisfies a condition. -/
def Numbers (whole : Int → Prop) (double : Double → Prop) : Json → Prop
  | .null | .bool _ | .string _ => True
  | .whole n => whole n
  | .double d => double d
  | .array items => NumbersItems whole double items
  | .object entries => NumbersEntries whole double entries

def NumbersItems (whole : Int → Prop) (double : Double → Prop) : List Json → Prop
  | [] => True
  | item :: items => Numbers whole double item ∧ NumbersItems whole double items

def NumbersEntries (whole : Int → Prop) (double : Double → Prop) : List (String × Json) → Prop
  | [] => True
  | (_, value) :: entries => Numbers whole double value ∧ NumbersEntries whole double entries

end

/-- A value whose doubles are written as numbers. -/
abbrev Legible : Json → Prop :=
  Numbers (fun _ => True) fun d => d.numeral.WellFormed

abbrev LegibleItems : List Json → Prop :=
  NumbersItems (fun _ => True) fun d => d.numeral.WellFormed

abbrev LegibleEntries : List (String × Json) → Prop :=
  NumbersEntries (fun _ => True) fun d => d.numeral.WellFormed

/-! ## Gaps -/

theorem skipGap_cons {c : Char} (h : isGap c = false) (cs : List Char) :
    skipGap (c :: cs) = c :: cs := by
  simp [skipGap, h]

@[simp] theorem skipGap_lineBreak (level : Nat) (cs : List Char) :
    skipGap (lineBreak level ++ cs) = skipGap cs := by
  have blanks (n : Nat) : skipGap (List.replicate n ' ' ++ cs) = skipGap cs := by
    induction n with
    | zero => rfl
    | succ n ih => simpa [List.replicate_succ, skipGap, isGap] using ih
  have newline (ds : List Char) : skipGap ('\n' :: ds) = skipGap ds := by simp [skipGap, isGap]
  rw [lineBreak, List.cons_append, newline, blanks]

@[simp] theorem skipGap_skipGap (cs : List Char) : skipGap (skipGap cs) = skipGap cs := by
  induction cs with
  | nil => rfl
  | cons c cs ih =>
    by_cases h : isGap c = true
    · simpa [skipGap, h] using ih
    · simp [skipGap, h]

theorem value_skipGap (fuel : Nat) (cs : List Char) : value fuel (skipGap cs) = value fuel cs := by
  cases fuel with
  | zero => rfl
  | succ fuel => rw [value, value, skipGap_skipGap]

theorem items_skipGap (fuel : Nat) (cs : List Char) : items fuel (skipGap cs) = items fuel cs := by
  cases fuel with
  | zero => rfl
  | succ fuel => rw [items, items, value_skipGap]

theorem entries_skipGap (fuel : Nat) (cs : List Char) :
    entries fuel (skipGap cs) = entries fuel cs := by
  cases fuel with
  | zero => rfl
  | succ fuel => rw [entries, entries, skipGap_skipGap]

/-! ## Strings -/

/-- The hexadecimal digits of a character below U+0020 read back. -/
theorem hex4?_control (n : Nat) (small : n < 32) (rest : List Char) :
    hex4? ('0' :: '0' :: hexDigit (n / 16) :: hexDigit (n % 16) :: rest) = some (n, rest) := by
  have value : ∀ m < 32, Hex.natural? 16 ['0', '0', hexDigit (m / 16), hexDigit (m % 16)] =
      some m := by decide
  rw [hex4?, value n small, Option.map_some]

/-- A character is written by a short escape, by the digits of its code or as it stands. -/
theorem escape_cases (c : Char) :
    (∃ mark, escape c = ['\\', mark] ∧ shortEscape? mark = some c) ∨
      (c.toNat < 32 ∧ escape c =
        ['\\', 'u', '0', '0', hexDigit (c.toNat / 16), hexDigit (c.toNat % 16)]) ∨
      (escape c = [c] ∧ c ≠ '"' ∧ c ≠ '\\' ∧ 32 ≤ c.toNat) := by
  by_cases short : c ∈ ['"', '\\', '\n', '\r', '\t', '\x08', '\x0c']
  · simp only [List.mem_cons, List.not_mem_nil, or_false] at short
    rcases short with rfl | rfl | rfl | rfl | rfl | rfl | rfl <;>
      exact .inl ⟨_, rfl, rfl⟩
  · simp only [List.mem_cons, List.not_mem_nil, or_false, not_or] at short
    obtain ⟨quote, backslash, newline, carriage, tab, back, feed⟩ := short
    by_cases small : c.toNat < 32
    · exact .inr (.inl ⟨small, by simp [escape, *]⟩)
    · exact .inr (.inr ⟨by simp [escape, *], quote, backslash, Nat.le_of_not_lt small⟩)

/-- Reading goes on behind the written form of a character as behind the character. -/
theorem string?_escape (fuel : Nat) (c : Char) (rest : List Char) :
    string? (fuel + 1) (escape c ++ rest) =
      (string? fuel rest).map fun (rest?, cs) => (rest?.map (c :: ·), cs) := by
  rcases escape_cases c with ⟨mark, written, short⟩ | ⟨small, written⟩ |
    ⟨written, quote, backslash, large⟩
  · have notCode : mark ≠ 'u' := by
      rintro rfl
      cases short
    simp [written, string?, escape?, short]
  · have low : isHigh c.toNat = false ∧ isLow c.toNat = false := by
      simp [isHigh, isLow]
      omega
    simp [written, string?, escape?, hex4?_control c.toNat small, low]
  · simp [written, string?, quote, backslash, Nat.not_lt.mpr large]

/-- A written string is read up to its closing quote. -/
theorem string?_chars (cs rest : List Char) (fuel : Nat) (enough : cs.length < fuel) :
    string? fuel (cs.flatMap escape ++ '"' :: rest) = some (some cs, rest) := by
  induction cs generalizing fuel with
  | nil =>
    obtain ⟨fuel, rfl⟩ := Nat.exists_eq_add_of_lt enough
    simp [string?]
  | cons c cs ih =>
    cases fuel with
    | zero => simp at enough
    | succ fuel =>
      have step := string?_escape fuel c (cs.flatMap escape ++ '"' :: rest)
      rw [ih fuel (by simpa using enough)] at step
      simpa using step

theorem length_le_length_escape (cs : List Char) : cs.length ≤ (cs.flatMap escape).length := by
  have one (c : Char) : 1 ≤ (escape c).length := by
    rcases escape_cases c with ⟨_, written, -⟩ | ⟨-, written⟩ | ⟨written, -⟩ <;> simp [written]
  induction cs with
  | nil => simp
  | cons c cs ih =>
    simp only [List.length_cons, List.flatMap_cons, List.length_append]
    have := one c
    omega

/-- What the scanner does behind an opening quote, for a key and for a value alike. -/
theorem string?_stringChars (s : String) (rest : List Char) :
    string? ((s.toList.flatMap escape ++ '"' :: rest).length + 1)
      (s.toList.flatMap escape ++ '"' :: rest) = some (some s.toList, rest) := by
  apply string?_chars
  have := length_le_length_escape s.toList
  simp only [List.length_append]
  omega

/-! ## Values -/

theorem literal_append (word : String) (d : Document) (rest : List Char) :
    literal word d (word.toList ++ rest) = (d, some rest) := by
  have met : word.toList.isPrefixOf (word.toList ++ rest) = true := by simp
  have behind : (word.toList ++ rest).drop word.length = rest := by
    rw [← String.length_toList, List.drop_left]
  simp only [literal, met, behind]

/-- The characters that decide about a value, none of which is a digit. -/
def marks : List Char :=
  ['"', '[', ']', '\x7b', 'n', 't', 'f', '-', ' ', '\n', '\t', '\r']

theorem ne_mark_of_isDigit {c : Char} (digit : isDigit c = true) : ∀ mark ∈ marks, c ≠ mark := by
  have none : marks.all (fun mark => !isDigit mark) = true := by decide
  rintro mark member rfl
  have other := List.all_eq_true.mp none c member
  simp [digit] at other

theorem isGap_of_isDigit {c : Char} (digit : isDigit c = true) : isGap c = false := by
  have other := ne_mark_of_isDigit digit
  simp only [isGap, Bool.or_eq_false_iff, beq_eq_false_iff_ne]
  exact ⟨⟨⟨other _ (by decide), other _ (by decide)⟩, other _ (by decide)⟩, other _ (by decide)⟩

/-- A digit leads to the reading of a number. -/
theorem value_digit {c : Char} (digit : isDigit c = true) (fuel : Nat) (cs : List Char) :
    value (fuel + 1) (c :: cs) = numberAt false (c :: cs) := by
  have other := ne_mark_of_isDigit digit
  simp only [marks, List.mem_cons, List.not_mem_nil, or_false, forall_eq_or_imp, forall_eq] at other
  obtain ⟨h1, h2, h3, h4, h5, h6, h7, h8, -⟩ := other
  rw [value, skipGap_cons (isGap_of_isDigit digit)]
  split <;> simp_all

theorem value_numeral {n : Numeral} (formed : n.WellFormed) {rest : List Char} (stops : Stops rest)
    (fuel : Nat) : value (fuel + 1) (n.chars ++ rest) = (.number n, some rest) := by
  have scanned := numeral?_chars formed stops
  unfold Numeral.chars
  split
  case isTrue negative =>
    rw [negative] at scanned
    rw [List.cons_append, value, skipGap_cons (by decide)]
    simp only [numberAt, scanned]
  case isFalse positive =>
    rw [Bool.not_eq_true] at positive
    rw [positive] at scanned
    obtain ⟨c, cs, lead⟩ := List.exists_cons_of_ne_nil formed.whole_ne_nil
    have digit : isDigit c = true := formed.whole_digits c (by simp [lead])
    have body : n.bodyChars ++ rest =
        c :: (cs ++ Numeral.fractionChars n.fraction? ++ Numeral.exponentChars n.exponent? ++
          rest) := by
      simp [Numeral.bodyChars, lead]
    rw [body, value_digit digit, ← body]
    simp only [numberAt, scanned]

theorem value_string (s : String) (rest : List Char) (fuel : Nat) :
    value (fuel + 1) (stringChars s ++ rest) = (.string (some s), some rest) := by
  have read := string?_stringChars s rest
  have text : stringChars s ++ rest = '"' :: (s.toList.flatMap escape ++ '"' :: rest) := by
    simp [stringChars]
  rw [text, value, skipGap_cons (by decide)]
  simp only [read, Option.map_some, String.ofList_toList]

/-- A printed value begins with a character that is neither a gap nor closes a list. -/
theorem prettyChars_lead {v : Json} (legible : v.Legible) (level : Nat) :
    ∃ c cs, prettyChars level v = c :: cs ∧ isGap c = false ∧ c ≠ ']' := by
  have number {n : Numeral} (formed : n.WellFormed) :
      ∃ c cs, n.chars = c :: cs ∧ isGap c = false ∧ c ≠ ']' := by
    unfold Numeral.chars
    split
    · exact ⟨'-', n.bodyChars, rfl, by decide, by decide⟩
    · obtain ⟨c, cs, lead⟩ := List.exists_cons_of_ne_nil formed.whole_ne_nil
      have digit : isDigit c = true := formed.whole_digits c (by simp [lead])
      have body : n.bodyChars = c :: (cs ++ Numeral.fractionChars n.fraction? ++
          Numeral.exponentChars n.exponent?) := by
        simp [Numeral.bodyChars, lead]
      exact ⟨c, _, body, isGap_of_isDigit digit, ne_mark_of_isDigit digit ']' (by decide)⟩
  match v with
  | .null => exact ⟨'n', _, rfl, by decide, by decide⟩
  | .bool true => exact ⟨'t', _, rfl, by decide, by decide⟩
  | .bool false => exact ⟨'f', _, rfl, by decide, by decide⟩
  | .whole n =>
    rw [prettyChars, wholeChars_eq]
    exact number (Numeral.ofInt_wellFormed n)
  | .double d =>
    rw [prettyChars, Double.chars_eq]
    exact number (by simpa [Numbers] using legible)
  | .string s => exact ⟨'"', _, rfl, by decide, by decide⟩
  | .array [] => exact ⟨'[', _, rfl, by decide, by decide⟩
  | .array (item :: items) => exact ⟨'[', _, rfl, by decide, by decide⟩
  | .object [] => exact ⟨'\x7b', _, rfl, by decide, by decide⟩
  | .object (entry :: entries) => exact ⟨'\x7b', _, rfl, by decide, by decide⟩

/-- What stands behind the first of some items. -/
def itemsBehind (level : Nat) : List Json → List Char
  | [] => []
  | items => ',' :: prettyItems level items

theorem prettyItems_cons (level : Nat) (item : Json) (its : List Json) :
    prettyItems level (item :: its) =
      lineBreak level ++ (prettyChars level item ++ itemsBehind level its) := by
  cases its <;> simp [prettyItems, itemsBehind]

/-- What stands behind the first of some entries. -/
def entriesBehind (level : Nat) : List (String × Json) → List Char
  | [] => []
  | entries => ',' :: prettyEntries level entries

theorem prettyEntries_cons (level : Nat) (key : String) (v : Json) (ents : List (String × Json)) :
    prettyEntries level ((key, v) :: ents) = lineBreak level ++
      (stringChars key ++ (':' :: ' ' :: (prettyChars level v ++ entriesBehind level ents))) := by
  cases ents <;> simp [prettyEntries, entriesBehind]

theorem length_lineBreak_pos (level : Nat) : 0 < (lineBreak level).length := by
  simp [lineBreak]

/-- The first character behind the gap before some items does not close their list. -/
theorem skipGap_prettyItems {item : Json} (legible : item.Legible) (level : Nat) (its : List Json)
    (rest : List Char) : ∃ c cs, skipGap (prettyItems level (item :: its) ++ rest) = c :: cs ∧
      c ≠ ']' := by
  obtain ⟨c, cs, lead, gap, close⟩ := prettyChars_lead legible level
  refine ⟨c, cs ++ itemsBehind level its ++ rest, ?_, close⟩
  simp [prettyItems_cons, lead, skipGap_cons gap]

theorem skipGap_prettyEntries (level : Nat) (entry : String × Json) (ents : List (String × Json))
    (rest : List Char) :
    ∃ cs, skipGap (prettyEntries level (entry :: ents) ++ rest) = '"' :: cs := by
  obtain ⟨key, v⟩ := entry
  rw [prettyEntries_cons, List.append_assoc, skipGap_lineBreak]
  exact ⟨_, skipGap_cons (by decide) _⟩

mutual

/-- Scanning the text of a value gives its document and what stands behind it. -/
theorem value_pretty (v : Json) (legible : v.Legible) (level fuel : Nat) (rest : List Char)
    (enough : (prettyChars level v).length < fuel) (stops : Stops rest) :
    value fuel (prettyChars level v ++ rest) = (v.document, some rest) := by
  cases fuel with
  | zero => simp at enough
  | succ fuel =>
    match v with
    | .null =>
      rw [prettyChars, document, List.cons_append, value, skipGap_cons (by decide)]
      exact literal_append "null" .null rest
    | .bool true =>
      rw [prettyChars, document, List.cons_append, value, skipGap_cons (by decide)]
      exact literal_append "true" (.bool true) rest
    | .bool false =>
      rw [prettyChars, document, List.cons_append, value, skipGap_cons (by decide)]
      exact literal_append "false" (.bool false) rest
    | .whole n =>
      rw [prettyChars, wholeChars_eq, document]
      exact value_numeral (Numeral.ofInt_wellFormed n) stops fuel
    | .double d =>
      rw [prettyChars, Double.chars_eq, document]
      exact value_numeral (by simpa [Numbers] using legible) stops fuel
    | .string s =>
      rw [prettyChars, document]
      exact value_string s rest fuel
    | .array [] => simp [prettyChars, document, value, skipGap, isGap, documentItems]
    | .array (item :: its) =>
      rw [Legible, Numbers] at legible
      have text : prettyChars level (.array (item :: its)) ++ rest =
          '[' :: (prettyItems (level + 1) (item :: its) ++ (lineBreak level ++ ']' :: rest)) := by
        simp [prettyChars]
      have short : (prettyItems (level + 1) (item :: its)).length < fuel := by
        simp only [prettyChars, List.length_cons, List.length_append] at enough
        omega
      have inner := items_pretty (item :: its) legible (by simp) (level + 1) level fuel rest short
      obtain ⟨c, cs, lead, close⟩ := skipGap_prettyItems legible.1 (level + 1) its
        (lineBreak level ++ ']' :: rest)
      rw [← items_skipGap, lead] at inner
      rw [text, value, skipGap_cons (by decide)]
      simp [lead, close, inner, document]
    | .object [] => simp [prettyChars, document, value, skipGap, isGap, documentEntries]
    | .object (entry :: ents) =>
      rw [Legible, Numbers] at legible
      have text : prettyChars level (.object (entry :: ents)) ++ rest = '\x7b' ::
          (prettyEntries (level + 1) (entry :: ents) ++ (lineBreak level ++ '\x7d' :: rest)) := by
        simp [prettyChars]
      have short : (prettyEntries (level + 1) (entry :: ents)).length < fuel := by
        simp only [prettyChars, List.length_cons, List.length_append] at enough
        omega
      have inner :=
        entries_pretty (entry :: ents) legible (by simp) (level + 1) level fuel rest short
      obtain ⟨cs, lead⟩ := skipGap_prettyEntries (level + 1) entry ents
        (lineBreak level ++ '\x7d' :: rest)
      rw [← entries_skipGap, lead] at inner
      rw [text, value, skipGap_cons (by decide)]
      simp [lead, inner, document]

/-- Scanning the text of items goes up to the closing bracket. -/
theorem items_pretty (its : List Json) (legible : LegibleItems its) (nonempty : its ≠ [])
    (level outer fuel : Nat) (rest : List Char) (enough : (prettyItems level its).length < fuel) :
    items fuel (prettyItems level its ++ (lineBreak outer ++ ']' :: rest)) =
      (documentItems its, some rest) := by
  cases fuel with
  | zero => simp at enough
  | succ fuel =>
    match its with
    | item :: others =>
      rw [LegibleItems, NumbersItems] at legible
      obtain ⟨head, tail⟩ := legible
      have gap := length_lineBreak_pos level
      simp only [prettyItems_cons, List.length_append] at enough
      have first (behind : List Char) (stops : Stops behind) :=
        value_pretty item head level fuel behind (by omega) stops
      rw [prettyItems_cons, List.append_assoc, List.append_assoc, items, ← value_skipGap,
        skipGap_lineBreak, value_skipGap]
      match others with
      | [] =>
        have bracket : skipGap (lineBreak outer ++ ']' :: rest) = ']' :: rest := by
          rw [skipGap_lineBreak, skipGap_cons (by decide)]
        rw [itemsBehind, List.nil_append, first _ (stops_lineBreak _ _)]
        simp only [bracket, documentItems]
      | next :: others =>
        have inner := items_pretty (next :: others) tail (by simp) level outer fuel rest (by
          simp only [itemsBehind, List.length_cons] at enough
          omega)
        have comma (cs : List Char) : skipGap (',' :: cs) = ',' :: cs := skipGap_cons (by decide) cs
        rw [itemsBehind, List.cons_append, first _ (stops_comma _)]
        · simp only [comma, inner, documentItems]
        · simp

/-- Scanning the text of entries goes up to the closing brace. -/
theorem entries_pretty (ents : List (String × Json)) (legible : LegibleEntries ents)
    (nonempty : ents ≠ []) (level outer fuel : Nat) (rest : List Char)
    (enough : (prettyEntries level ents).length < fuel) :
    entries fuel (prettyEntries level ents ++ (lineBreak outer ++ '\x7d' :: rest)) =
      (documentEntries ents, some rest) := by
  cases fuel with
  | zero => simp at enough
  | succ fuel =>
    match ents with
    | (key, v) :: others =>
      rw [LegibleEntries, NumbersEntries] at legible
      obtain ⟨head, tail⟩ := legible
      have gap := length_lineBreak_pos level
      simp only [prettyEntries_cons, List.length_append, List.length_cons] at enough
      have first (behind : List Char) (stops : Stops behind) :
          value fuel (' ' :: (prettyChars level v ++ behind)) = (v.document, some behind) := by
        have blank : skipGap (' ' :: (prettyChars level v ++ behind)) =
            skipGap (prettyChars level v ++ behind) := by simp [skipGap, isGap]
        rw [← value_skipGap, blank, value_skipGap]
        exact value_pretty v head level fuel behind (by omega) stops
      have text (behind : List Char) : skipGap (prettyEntries level ((key, v) :: others) ++ behind) =
          '"' :: (key.toList.flatMap escape ++ '"' :: (':' :: ' ' :: (prettyChars level v ++
            (entriesBehind level others ++ behind)))) := by
        rw [prettyEntries_cons, List.append_assoc, skipGap_lineBreak]
        simp [stringChars, skipGap_cons (show isGap '"' = false by decide)]
      have colon (cs : List Char) : skipGap (':' :: cs) = ':' :: cs := skipGap_cons (by decide) cs
      rw [entries, text]
      simp only [string?_stringChars, Option.map_some, String.ofList_toList, colon]
      match others with
      | [] =>
        have brace : skipGap (lineBreak outer ++ '\x7d' :: rest) = '\x7d' :: rest := by
          rw [skipGap_lineBreak, skipGap_cons (by decide)]
        rw [entriesBehind, List.nil_append, first _ (stops_lineBreak _ _)]
        simp only [brace, documentEntries]
      | next :: others =>
        have inner := entries_pretty (next :: others) tail (by simp) level outer fuel rest (by
          simp only [entriesBehind, List.length_cons] at enough
          omega)
        have comma (cs : List Char) : skipGap (',' :: cs) = ',' :: cs := skipGap_cons (by decide) cs
        rw [entriesBehind, List.cons_append, first _ (stops_comma _)]
        · simp only [comma, inner, documentEntries]
        · simp

end

/-- The text of a value holds its document and nothing else. -/
theorem ofChars_pretty {v : Json} (legible : v.Legible) :
    Document.ofChars (pretty v).toList = (v.document, true) := by
  have scanned := value_pretty v legible 0 (2 * (prettyChars 0 v).length + 2) [] (by omega)
    stops_nil
  rw [List.append_nil] at scanned
  simp [Document.ofChars, pretty, scanned, skipGap]

end TokenDesk.Json
