import TokenDesk.Json.Printer
import TokenDesk.Proofs.Text.Written

/-!
# The compact form

The compact form of a value stands on one line: it has no character below U+0020, since those in strings
are escaped and nothing else is set apart by white space (`visible_compactChars`).
-/

set_option autoImplicit false

namespace TokenDesk.Json

open TokenDesk.Text

/-- Characters that are no controls. -/
def Visible (cs : List Char) : Prop :=
  ∀ c ∈ cs, 32 ≤ c.toNat

@[simp] theorem visible_nil : Visible [] := by
  simp [Visible]

@[simp] theorem visible_cons {c : Char} {cs : List Char} :
    Visible (c :: cs) ↔ 32 ≤ c.toNat ∧ Visible cs := by
  simp [Visible]

@[simp] theorem visible_append {first later : List Char} :
    Visible (first ++ later) ↔ Visible first ∧ Visible later := by
  simp [Visible, or_imp, forall_and]

/-- Such characters stay on their line. -/
theorem Visible.notMem_lineFeed {cs : List Char} (visible : Visible cs) : '\n' ∉ cs :=
  fun member => absurd (visible '\n' member) (by decide)

theorem Visible.sublist {cs ds : List Char} (visible : Visible ds) (within : cs.Sublist ds) :
    Visible cs :=
  fun c member => visible c (within.subset member)

/-! ## Numbers and strings -/

theorem visible_of_isDigit {cs : List Char} (all : ∀ c ∈ cs, isDigit c = true) : Visible cs := by
  intro c member
  have digit := all c member
  simp only [isDigit, Bool.and_eq_true, decide_eq_true_eq, Char.le_def] at digit
  have zero : '0'.toNat ≤ c.toNat := digit.1
  exact Nat.le_trans (by decide) zero

theorem visible_digits (n : Nat) : Visible (digits n) :=
  visible_of_isDigit fun _ member => isDigit_of_mem_digits member

theorem visible_zeros (n : Nat) : Visible (List.replicate n '0') := by
  intro c member
  rw [List.eq_of_mem_replicate member]
  decide

theorem visible_wholeChars (n : Int) : Visible (wholeChars n) := by
  cases n with
  | ofNat n => exact visible_digits n
  | negSucc n => simpa [wholeChars] using visible_digits (n + 1)

namespace Double

theorem visible_dropZeros {cs : List Char} (visible : Visible cs) : Visible (dropZeros cs) := by
  intro c member
  rw [dropZeros, List.mem_reverse] at member
  exact visible c (List.mem_reverse.mp ((List.dropWhile_sublist _).subset member))

theorem visible_shortestChars {s : Shortest} (visible : Visible s.digits) :
    Visible (shortestChars s) := by
  have kept (n : Nat) : Visible (s.digits.take n) := visible.sublist (List.take_sublist n _)
  have left (n : Nat) : Visible (s.digits.drop n) := visible.sublist (List.drop_sublist n _)
  unfold shortestChars
  split
  case isTrue =>
    dsimp only
    split
    · simp [visible, visible_zeros]
    · simp [kept, left]
  case isFalse =>
    split
    case isTrue => simp [visible, visible_zeros]
    case isFalse =>
      have fraction : Visible (if s.digits.length ≤ 1 then [] else '.' :: s.digits.drop 1) := by
        split
        · simp
        · exact visible_cons.mpr ⟨by decide, left 1⟩
      have sign : 32 ≤ (if s.exponent < 0 then '-' else '+').toNat := by split <;> decide
      simp only [visible_append, visible_cons]
      exact ⟨⟨kept 1, fraction⟩, by decide, sign, visible_digits _⟩

theorem visible_chars (d : Double) : Visible d.chars := by
  have unsigned : Visible (if d.magnitude = 0 then ['0', '.', '0'] else shortestChars d.shortest) := by
    split
    · simp
    · exact visible_shortestChars (visible_dropZeros (visible_digits _))
  unfold chars
  dsimp only
  split
  · exact visible_cons.mpr ⟨by decide, unsigned⟩
  · exact unsigned

end Double

/-- What a character is escaped as has no controls. -/
theorem visible_escape (c : Char) : Visible (escape c) := by
  by_cases control : c.toNat < 32
  · have each : ∀ n < 32, (escape (Char.ofNat n)).all (32 ≤ ·.toNat) = true := by decide
    have shown := each c.toNat control
    rw [Char.ofNat_toNat] at shown
    exact fun d member => of_decide_eq_true (List.all_eq_true.mp shown d member)
  · have kept : 32 ≤ c.toNat := Nat.le_of_not_lt control
    unfold escape
    rw [if_neg control]
    repeat' split
    all_goals simp [kept]

theorem visible_stringChars (s : String) : Visible (stringChars s) := by
  have inner : Visible (s.toList.flatMap escape) := by
    intro c member
    obtain ⟨_, -, among⟩ := List.mem_flatMap.mp member
    exact visible_escape _ c among
  simpa [stringChars] using inner

/-! ## Values -/

mutual

/-- The compact form has no controls. -/
theorem visible_compactChars (v : Json) : Visible v.compactChars := by
  match v with
  | .null | .bool true | .bool false => simp [compactChars]
  | .whole n => exact visible_wholeChars n
  | .double d => exact d.visible_chars
  | .string s => exact visible_stringChars s
  | .array items => simpa [compactChars] using visible_compactItems items
  | .object entries => simpa [compactChars] using visible_compactEntries entries

theorem visible_compactItems (items : List Json) : Visible (compactItems items) := by
  match items with
  | [] => simp [compactItems]
  | [item] => exact visible_compactChars item
  | item :: next :: items =>
    have first := visible_compactChars item
    have rest := visible_compactItems (next :: items)
    simpa [compactItems] using ⟨first, rest⟩

theorem visible_compactEntries (entries : List (String × Json)) :
    Visible (compactEntries entries) := by
  match entries with
  | [] => simp [compactEntries]
  | [(key, value)] =>
    have shown := visible_compactChars value
    simpa [compactEntries] using ⟨visible_stringChars key, shown⟩
  | (key, value) :: next :: entries =>
    have shown := visible_compactChars value
    have rest := visible_compactEntries (next :: entries)
    simpa [compactEntries] using ⟨visible_stringChars key, shown, rest⟩

end

/-- A value in compact form stands on one line. -/
theorem lineFeed_notMem_compact (v : Json) : '\n' ∉ v.compact.toList := by
  rw [compact, String.toList_ofList]
  exact (visible_compactChars v).notMem_lineFeed

end TokenDesk.Json
