import Mathlib.Data.List.Infix
import TokenDesk.Assistant.Editing
import TokenDesk.Proofs.Assistant.Declarations

/-!
# Comments of declarations

The block that is rendered for a declaration is one comment just if no comment ends between the name and
the brace of the declaration (`isComment_render_iff`): what stands there is copied into the block as it is.
-/

set_option autoImplicit false

namespace TokenDesk.Assistant.NatSpec

open TokenDesk.Text

variable {spec : NatSpec} {c : Char} {cs before behind between rest : List Char}

/-! ## Ends of comments -/

/-- What is behind the first end of a comment. -/
def behindEnd? : List Char → Option (List Char)
  | [] => none
  | c :: cs => (after? ['*', '/'] (c :: cs)).or (behindEnd? cs)

/-- Whether a text is one comment and the line feed behind it. -/
def IsComment (block : String) : Prop :=
  (after? "/**".toList block.toList).bind behindEnd? = some ['\n']

instance (block : String) : Decidable (IsComment block) :=
  inferInstanceAs (Decidable (_ = _))

/-- Whether a comment that goes on here ends within a text. -/
def Ends (cs : List Char) : Prop :=
  ['*', '/'] <:+: cs

instance (cs : List Char) : Decidable (Ends cs) :=
  inferInstanceAs (Decidable (_ <:+: _))

theorem not_ends_nil : ¬ Ends [] := by
  decide

theorem ends_cons_iff : Ends (c :: cs) ↔ c = '*' ∧ cs.head? = some '/' ∨ Ends cs := by
  unfold Ends
  rw [List.infix_cons_iff]
  cases cs with
  | nil => simp
  | cons d cs => simp [eq_comm]

theorem not_ends (open_ : '/' ∉ cs) : ¬ Ends cs := fun ends =>
  open_ (ends.subset (by simp))

/-- An end lies before, behind or across the place where two texts meet. -/
theorem ends_append_iff : Ends (before ++ behind) ↔
    Ends before ∨ Ends behind ∨ before.getLast? = some '*' ∧ behind.head? = some '/' := by
  induction before with
  | nil => simp [not_ends_nil]
  | cons c before ih =>
    rw [List.cons_append, ends_cons_iff, ends_cons_iff, ih]
    cases before with
    | nil => simp [not_ends_nil, or_comm]
    | cons d before => simp [List.getLast?_cons_cons, or_assoc]

/-- Between texts that neither hold a slash nor lead to one, ends are those of the text itself. -/
theorem ends_around_iff (above : '/' ∉ before) (last : before.getLast? ≠ some '*')
    (below : '/' ∉ behind) : Ends (before ++ cs ++ behind) ↔ Ends cs := by
  have next : behind.head? ≠ some '/' := fun head => below (List.mem_of_head? head)
  simp [ends_append_iff, not_ends above, not_ends below, last, next]

theorem behindEnd?_cons (c : Char) (cs : List Char) : behindEnd? (c :: cs) =
    if c = '*' ∧ cs.head? = some '/' then some cs.tail else behindEnd? cs := by
  rw [behindEnd?, after?]
  by_cases star : c = '*'
  · cases cs with
    | nil => simp [star, after?]
    | cons d cs =>
      by_cases slash : d = '/'
      · simp [star, slash, after?]
      · simp [star, slash, after?, Ne.symm slash]
  · simp [star, Ne.symm star]

/-- Behind a text without an end, the next one is the first. -/
theorem behindEnd?_of_not_ends (open_ : ¬ Ends cs) (rest : List Char) :
    behindEnd? (cs ++ '*' :: '/' :: rest) = some rest := by
  induction cs with
  | nil => simp [behindEnd?_cons]
  | cons c cs ih =>
    rw [ends_cons_iff, not_or] at open_
    rw [List.cons_append, behindEnd?_cons, if_neg, ih open_.2]
    cases cs with
    | nil => simp
    | cons d cs => exact open_.1

/-- Behind the first end of a text is the rest of it and all that follows. -/
theorem behindEnd?_of_ends (ends : Ends cs) (rest : List Char) :
    ∃ more, behindEnd? (cs ++ rest) = some (more ++ rest) := by
  induction cs with
  | nil => exact absurd ends not_ends_nil
  | cons c cs ih =>
    rw [List.cons_append, behindEnd?_cons]
    split
    case isTrue here =>
      cases cs with
      | nil =>
        rw [ends_cons_iff] at ends
        simp [not_ends_nil] at ends
      | cons d cs => exact ⟨cs, rfl⟩
    case isFalse later =>
      rcases ends_cons_iff.mp ends with ⟨star, slash⟩ | deeper
      · refine absurd ⟨star, ?_⟩ later
        rw [List.head?_append, slash, Option.some_or]
      · exact ih deeper

/-- What is between the marks of a comment is its inside just if no comment ends there. -/
theorem isComment_iff {block : String} (text : block.toList = "/**".toList ++ cs ++ "*/\n".toList) :
    IsComment block ↔ ¬ Ends cs := by
  have marked : after? "/**".toList block.toList = some (cs ++ ['*', '/', '\n']) := by
    rw [text, List.append_assoc, after?_append]
    rfl
  rw [IsComment, marked, Option.bind_some]
  by_cases ends : Ends cs
  · obtain ⟨more, early⟩ := behindEnd?_of_ends ends ['*', '/', '\n']
    rw [early]
    simp only [ends, not_true_eq_false, iff_false, Option.some.injEq]
    intro same
    have lengths := congrArg List.length same
    simp at lengths
  · simp [ends, behindEnd?_of_not_ends ends]

/-! ## Blocks -/

/-- What a block says before it names the bases. -/
def opening (contract : String) : String :=
  "\n * @title " ++ contract ++ "\n * @dev Implementation of the " ++ contract

/-- What a block says of the bases. -/
def basesText : Option String → String
  | some bases => " inheriting from " ++ bases
  | none => ""

/-- What every block says below the bases. -/
def credits : String :=
  "\n * @custom:security-contact " ++ securityContact ++ "\n * @author " ++ author ++
    "\n * @notice This contract is auto-generated and may need additional review" ++
    "\n * @custom:date "

def closing (date : Time.Date) : String :=
  credits ++ date.text ++ "\n "

theorem toList_render (spec : NatSpec) (date : Time.Date) : (spec.render date).toList =
    "/**".toList ++ (opening spec.contract ++ basesText spec.inheritance? ++ closing date).toList ++
      "*/\n".toList := by
  have first : "/**\n * @title ".toList = "/**".toList ++ "\n * @title ".toList := by decide
  have last : "\n */\n".toList = "\n ".toList ++ "*/\n".toList := by decide
  unfold render opening closing credits
  simp only [String.toList_append]
  rw [first, last]
  simp only [List.append_assoc]
  rfl

theorem slash_notMem_append {a b : String} (before : '/' ∉ a.toList) (behind : '/' ∉ b.toList) :
    '/' ∉ (a ++ b).toList := by
  rw [String.toList_append, List.mem_append, not_or]
  exact ⟨before, behind⟩

theorem slash_notMem_opening {contract : String} (words : ∀ c ∈ contract.toList, isWord c = true) :
    '/' ∉ (opening contract).toList := by
  have name : '/' ∉ contract.toList := fun member => absurd (words _ member) (by decide)
  have title : '/' ∉ "\n * @title ".toList := by decide
  have dev : '/' ∉ "\n * @dev Implementation of the ".toList := by decide +kernel
  exact slash_notMem_append (slash_notMem_append (slash_notMem_append title name) dev) name

/-- A date is written with digits and signs. -/
theorem notMem_date (date : Time.Date) (digit : isDigit c = false) (minus : c ≠ '-') (plus : c ≠ '+') :
    c ∉ date.text.toList := by
  have number (width n : Nat) : c ∉ padded width n := fun member =>
    Bool.false_ne_true (digit.symm.trans (isDigit_of_mem_padded member))
  have year : c ∉ Time.Date.yearChars date.year := by
    unfold Time.Date.yearChars
    split
    · exact number _ _
    · refine List.not_mem_cons_of_ne_of_not_mem ?_ (number _ _)
      split
      · exact minus
      · exact plus
  rw [Time.Date.text, String.toList_ofList, Time.Date.chars]
  simp [year, number, minus]

theorem slash_notMem_credits : '/' ∉ credits.toList := by
  have contact : '/' ∉ "\n * @custom:security-contact ".toList := by decide +kernel
  have notice : '/' ∉
      "\n * @notice This contract is auto-generated and may need additional review".toList := by
    decide +kernel
  have rest : '/' ∉ securityContact.toList ∧ '/' ∉ "\n * @author ".toList ∧ '/' ∉ author.toList ∧
      '/' ∉ "\n * @custom:date ".toList := by decide +kernel
  obtain ⟨address, by_, name, day⟩ := rest
  exact slash_notMem_append (slash_notMem_append (slash_notMem_append (slash_notMem_append
    (slash_notMem_append contact address) by_) name) notice) day

theorem slash_notMem_closing (date : Time.Date) : '/' ∉ (closing date).toList :=
  slash_notMem_append (slash_notMem_append slash_notMem_credits
    (notMem_date date (by decide) (by decide) (by decide))) (by decide)

/-- A comment ends early in a block just if one ends in the bases. -/
theorem isComment_render (words : ∀ c ∈ spec.contract.toList, isWord c = true) (date : Time.Date) :
    IsComment (spec.render date) ↔ ¬ ∃ bases, spec.inheritance? = some bases ∧ Ends bases.toList := by
  have above := slash_notMem_opening words
  have below := slash_notMem_closing date
  rw [isComment_iff (toList_render spec date)]
  cases spec.inheritance? with
  | none =>
    have open_ := slash_notMem_append (slash_notMem_append above (b := basesText none) (by decide)) below
    exact iff_of_true (not_ends open_) (by simp)
  | some bases =>
    have lead := slash_notMem_append above (b := " inheriting from ") (by decide)
    have last (a : String) : (a ++ " inheriting from ").toList.getLast? ≠ some '*' := by
      have blank : " inheriting from ".toList.getLast? = some ' ' := by decide
      rw [String.toList_append, List.getLast?_append, blank, Option.some_or]
      decide
    have apart (a b c d : String) :
        (a ++ (b ++ c) ++ d).toList = (a ++ b).toList ++ c.toList ++ d.toList := by
      rw [String.toList_append, ← String.append_assoc, String.toList_append]
    have named : basesText (some bases) = " inheriting from " ++ bases := rfl
    rw [named, apart, ends_around_iff lead (last _) below]
    simp

/-- The bases are what is between the name and the brace without `is` and the blanks, which end no comment. -/
theorem Between.ends_iff (fits : Between spec between) : Ends between ↔
    ∃ bases, spec.inheritance? = some bases ∧ Ends bases.toList := by
  rcases fits.bases with ⟨blanks, none_⟩ | ⟨gap, stretch, blanks, rfl, some_⟩
  · simp [none_, not_ends (notMem_of_blanks blanks (by decide))]
  · obtain ⟨lead, trail, split, before, behind⟩ := exists_around_trimChars stretch
    have above {c : Char} (visible : isBlank c = false) (other : c ∉ ['i', 's']) :
        c ∉ gap ++ ['i', 's'] ++ lead := by
      simp only [List.mem_append, not_or]
      exact ⟨⟨notMem_of_blanks blanks visible, other⟩, notMem_of_blanks before visible⟩
    have last : (gap ++ ['i', 's'] ++ lead).getLast? ≠ some '*' := fun star =>
      above (by decide) (by decide) (List.mem_of_getLast? star)
    have text : gap ++ ['i', 's'] ++ stretch =
        gap ++ ['i', 's'] ++ lead ++ trimChars stretch ++ trail := by
      conv_lhs => rw [split]
      simp only [List.append_assoc]
    rw [text, ends_around_iff (above (by decide) (by decide)) last
      (notMem_of_blanks behind (by decide)), some_, basesIn?]
    cases trimmed : trimChars stretch with
    | nil => simp [not_ends_nil]
    | cons c cs => simp

/-- The block of a declaration that is found is one comment just if no comment ends between the name and the
brace of the declaration. -/
theorem isComment_render_iff {text : String} {offset : Nat} (found : (offset, spec) ∈ find text)
    (date : Time.Date) : ∃ before tail between rest, text.toList = before ++ tail ∧
      offset = byteLength before ∧ Declaration tail spec between rest ∧
        (IsComment (spec.render date) ↔ ¬ Ends between) := by
  obtain ⟨before, tail, between, rest, split, place, declaration⟩ := exists_of_mem_find found
  refine ⟨before, tail, between, rest, split, place, declaration, ?_⟩
  rw [isComment_render declaration.words, declaration.between.ends_iff]

theorem isComment_render_base : (0, ⟨"A", some "B"⟩) ∈ find "contract A is B \x7b\x7d" ∧
    ∃ before tail between rest, "contract A is B \x7b\x7d".toList = before ++ tail ∧
      0 = byteLength before ∧ Declaration tail ⟨"A", some "B"⟩ between rest ∧
        (IsComment (render ⟨"A", some "B"⟩ ⟨2024, 1, 1⟩) ↔ ¬ Ends between) := by
  have found : (0, ⟨"A", some "B"⟩) ∈ find "contract A is B \x7b\x7d" := by decide +kernel
  exact ⟨found, isComment_render_iff found ⟨2024, 1, 1⟩⟩

/-- A remark among the bases ends the comment of the block, and the rest of the block is left as code. -/
theorem remark_not_isComment :
    find "contract A is B /* C */ \x7b\x7d" = [(0, ⟨"A", some "B /* C */"⟩)] ∧
      ¬ IsComment (render ⟨"A", some "B /* C */"⟩ ⟨2024, 1, 1⟩) := by
  have ends : Ends "B /* C */".toList := by decide
  have words : ∀ c ∈ "A".toList, isWord c = true := List.all_eq_true.mp (by decide)
  refine ⟨by decide +kernel, fun whole => ?_⟩
  exact (isComment_render words ⟨2024, 1, 1⟩).mp whole ⟨_, rfl, ends⟩

end TokenDesk.Assistant.NatSpec
