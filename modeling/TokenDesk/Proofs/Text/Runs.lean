import TokenDesk.Text.Blank
import TokenDesk.Text.Word

/-!
# Runs of characters of one kind

A run that is followed by a character of another kind is what `takeWhile` takes and `dropWhile` drops
(`takeWhile_run`, `dropWhile_run`). No blank is a word character, so a run of the one ends where a run of
the other begins.
-/

set_option autoImplicit false

namespace TokenDesk.Text

theorem after?_eq_some_iff {mark cs rest : List Char} : after? mark cs = some rest ↔ cs = mark ++ rest :=
  ⟨eq_append_of_after?, fun split => by rw [split, after?_append]⟩

section Run

variable {p : Char → Bool} {cs run rest : List Char}

theorem takeWhile_run (all : ∀ c ∈ run, p c = true) (stop : ∀ c ∈ rest.head?, p c = false) :
    (run ++ rest).takeWhile p = run := by
  rw [List.takeWhile_append_of_pos all]
  cases rest with
  | nil => simp
  | cons c rest => simp [stop c (by simp)]

theorem dropWhile_run (all : ∀ c ∈ run, p c = true) (stop : ∀ c ∈ rest.head?, p c = false) :
    (run ++ rest).dropWhile p = rest := by
  rw [List.dropWhile_append_of_pos all]
  cases rest with
  | nil => rfl
  | cons c rest => simp [stop c (by simp)]

theorem of_mem_takeWhile : ∀ c ∈ cs.takeWhile p, p c = true := fun c member =>
  List.all_eq_true.mp List.all_takeWhile c member

theorem head?_dropWhile : ∀ c ∈ (cs.dropWhile p).head?, p c = false := by
  intro c head
  have first := List.head?_dropWhile_not p cs
  rw [Option.mem_def.mp head] at first
  simpa using first

end Run

/-! ## Blanks and words -/

/-- The blank characters in ascending order. -/
def blankChars : List Char :=
  ([9, 10, 11, 12, 13, 32, 0x85, 0xA0, 0x1680, 0x2000, 0x2001, 0x2002, 0x2003, 0x2004, 0x2005, 0x2006,
    0x2007, 0x2008, 0x2009, 0x200A, 0x2028, 0x2029, 0x202F, 0x205F, 0x3000] : List Nat).map Char.ofNat

theorem mem_blankChars {c : Char} (blank : isBlank c = true) : c ∈ blankChars := by
  rw [blankChars, List.mem_map]
  refine ⟨c.toNat, ?_, Char.ofNat_toNat c⟩
  simp only [isBlank, Bool.or_eq_true, Bool.and_eq_true, decide_eq_true_eq, beq_iff_eq] at blank
  simp only [List.mem_cons, List.not_mem_nil]
  omega

theorem isWord_of_isBlank {c : Char} (blank : isBlank c = true) : isWord c = false := by
  have each : blankChars.all (fun c => !isWord c) = true := by decide +kernel
  simpa using List.all_eq_true.mp each c (mem_blankChars blank)

theorem isBlank_of_isWord {c : Char} (word : isWord c = true) : isBlank c = false := by
  cases blank : isBlank c with
  | false => rfl
  | true => rw [isWord_of_isBlank blank] at word; cases word

/-- Blanks around a text are trimmed off. -/
theorem trimChars_around {lead cs trail : List Char} (before : ∀ c ∈ lead, isBlank c = true)
    (behind : ∀ c ∈ trail, isBlank c = true) : trimChars (lead ++ cs ++ trail) = trimChars cs := by
  have ends (cs : List Char) : trimEnd (cs ++ trail) = trimEnd cs := by
    rw [trimEnd, List.reverse_append, List.dropWhile_append_of_pos (by simpa using behind), trimEnd]
  rw [trimChars, List.append_assoc, List.dropWhile_append_of_pos before, trimChars, List.dropWhile_append]
  split
  case isTrue blank =>
    have gone : (trail ++ []).dropWhile isBlank = [] := dropWhile_run behind (by simp)
    rw [← List.append_nil trail, gone, List.isEmpty_iff.mp blank]
  case isFalse => exact ends _

end TokenDesk.Text
