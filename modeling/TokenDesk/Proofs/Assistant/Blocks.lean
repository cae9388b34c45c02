import TokenDesk.Proofs.Assistant.Comments
import TokenDesk.Proofs.Assistant.Scan

/-!
# Blocks without declarations

The block that is rendered for a declaration has the word `contract` in it, and the name and the bases are
copied into it. Yet no declaration begins in it, whatever follows, unless the word is in the bases
(`skipped_render`).
-/

set_option autoImplicit false

namespace TokenDesk.Assistant.NatSpec

open TokenDesk.Text

variable {spec : NatSpec} {cs before behind name : List Char}

/-! ## Texts in which no declaration begins -/

theorem Begins.word (begins : Begins cs) : "contract".toList <+: cs := by
  obtain ⟨declared, spec, rest, declares, rfl⟩ := begins
  obtain ⟨gap, between, -, -, -, -, rfl⟩ := declares.text
  simp only [List.append_assoc]
  exact List.prefix_append _ _

/-- In a text without the word none begins, if the word does not begin at its end. -/
theorem skipped_plain (free : ¬ "contract".toList <:+: before)
    (apart : before.getLast?.all (· ∉ "contract".toList) = true) (behind : List Char) :
    Skipped before behind := by
  rintro passed left rfl some_ begins
  rcases List.prefix_or_prefix_of_prefix begins.word (List.prefix_append left behind) with whole | part
  · exact free (whole.isInfix.trans (List.suffix_append passed left).isInfix)
  · have last : (passed ++ left).getLast? = some (left.getLast some_) := by
      rw [List.getLast?_append, List.getLast?_eq_some_getLast some_, Option.some_or]
    rw [last, Option.all_some, decide_eq_true_eq] at apart
    exact apart (part.subset (List.getLast_mem some_))

theorem isWord_contract : ∀ c ∈ "contract".toList, isWord c = true :=
  List.all_eq_true.mp (by decide +kernel)

/-- In a name none begins, if none does where the word itself is in its place. -/
theorem skipped_name (words : ∀ c ∈ name, isWord c = true) (stop : ∀ c ∈ behind.head?, isWord c = false)
    (none_ : declaration? ("contract".toList ++ behind) = none) : Skipped name behind := by
  rintro passed left rfl some_ begins
  obtain ⟨declared, spec, rest, declares, split⟩ := begins
  obtain ⟨gap, between, gapped, blanks, -, -, rfl⟩ := id declares.text
  obtain ⟨c, gap, rfl⟩ := List.exists_cons_of_ne_nil gapped
  have leftWords : ∀ c ∈ left, isWord c = true := fun c member =>
    words c (List.mem_append_right passed member)
  -- The word characters at the head are those of `left`, and also those of `contract`.
  have word : left = "contract".toList := by
    have first := congrArg (List.takeWhile isWord) split
    rw [takeWhile_run leftWords stop] at first
    simp only [List.append_assoc] at first
    rw [takeWhile_run isWord_contract (by simpa using isWord_of_isBlank (blanks c (by simp)))] at first
    exact first
  rw [← word] at none_
  exact begins_iff.mp ⟨_, spec, rest, declares, split⟩ none_

/-! ## Blocks -/

/-- What a block says between the bases and the word `contract` of its notice. -/
def aboveNotice : String :=
  "\n * @custom:security-contact " ++ securityContact ++ "\n * @author " ++ author ++ "\n * @notice This "

/-- What a block says between the word `contract` of its notice and the date. -/
def belowNotice : String :=
  " is auto-generated and may need additional review" ++ "\n * @custom:date "

theorem toList_credits :
    credits.toList = aboveNotice.toList ++ "contract".toList ++ belowNotice.toList := by
  have notice : "\n * @notice This contract is auto-generated and may need additional review" =
      "\n * @notice This " ++ "contract" ++ " is auto-generated and may need additional review" := by
    decide +kernel
  unfold credits aboveNotice belowNotice
  rw [notice]
  simp only [String.toList_append, List.append_assoc]

theorem toList_basesText (bases : String) :
    (basesText (some bases)).toList = " inheriting from ".toList ++ bases.toList :=
  String.toList_append

theorem skipped_notice (behind : List Char) :
    Skipped (aboveNotice.toList ++ "contract".toList ++ belowNotice.toList) behind := by
  refine .append (.append ?_ ?_) ?_
  · exact skipped_plain (by decide +kernel) (by decide +kernel) _
  · -- `contract is` lacks a brace: the word behind it is taken for the name.
    exact skipped_name isWord_contract (by rintro c ⟨⟩; decide) rfl
  · exact skipped_plain (by decide +kernel) (by decide +kernel) _

theorem skipped_day (date : Time.Date) (behind : List Char) :
    Skipped (date.text ++ "\n ").toList behind := by
  have free : 'c' ∉ (date.text ++ "\n ").toList := by
    rw [String.toList_append, List.mem_append, not_or]
    exact ⟨notMem_date date (by decide) (by decide) (by decide), by decide⟩
  have last : "\n ".toList.getLast? = some ' ' := by decide
  refine skipped_plain (fun word => free (word.subset (by decide))) ?_ behind
  rw [String.toList_append, List.getLast?_append, last, Option.some_or]
  decide

theorem skipped_opening {contract : String} (words : ∀ c ∈ contract.toList, isWord c = true)
    (stop : ∀ c ∈ behind.head?, isWord c = false)
    (none_ : declaration? ("contract".toList ++ behind) = none) :
    Skipped (opening contract).toList behind := by
  simp only [opening, String.toList_append]
  refine .append (.append (.append ?_ ?_) ?_) (skipped_name words stop none_)
  · exact skipped_plain (by decide +kernel) (by decide +kernel) _
  · exact skipped_name words (by rintro c ⟨⟩; decide) rfl
  · exact skipped_plain (by decide +kernel) (by decide +kernel) _

/-- Bases without the word end before the next line. -/
theorem skipped_basesText {inheritance? : Option String}
    (free : ∀ bases, inheritance? = some bases → ¬ "contract".toList <:+: bases.toList) (behind : List Char) :
    Skipped (basesText inheritance?).toList ('\n' :: behind) := by
  cases inheritance? with
  | none => exact skipped_nil
  | some bases =>
    have line : ¬ "contract".toList <:+: bases.toList ++ ['\n'] := by
      rw [List.infix_concat_iff, not_or]
      refine ⟨?_, free bases rfl⟩
      rintro ⟨before, split⟩
      have last := congrArg List.getLast? split
      rw [List.getLast?_append, List.getLast?_append] at last
      cases last
    have lined := skipped_plain line (by simp) behind
    rw [toList_basesText]
    exact .append (skipped_plain (by decide +kernel) (by decide +kernel) _) (skipped_append.mp lined).1

/-- Behind the name a block goes on with the bases, or with the next line. -/
theorem basesText_append (inheritance? : Option String) (line : List Char) :
    (∃ cs, (basesText inheritance?).toList ++ line = " inheriting from ".toList ++ cs) ∨
      (basesText inheritance?).toList ++ line = line := by
  cases inheritance? with
  | none => exact .inr rfl
  | some bases =>
    refine .inl ⟨bases.toList ++ line, ?_⟩
    rw [toList_basesText, List.append_assoc]

/-- No declaration begins in a block, if the word is not in the bases that are copied into it. -/
theorem skipped_render (words : ∀ c ∈ spec.contract.toList, isWord c = true)
    (free : ∀ bases, spec.inheritance? = some bases → ¬ "contract".toList <:+: bases.toList)
    (date : Time.Date) (behind : List Char) : Skipped (spec.render date).toList behind := by
  have parts : (spec.render date).toList = "/**".toList ++ ((opening spec.contract).toList ++
      ((basesText spec.inheritance?).toList ++ ((aboveNotice.toList ++ "contract".toList ++
        belowNotice.toList) ++ ((date.text ++ "\n ").toList ++ "*/\n".toList)))) := by
    rw [toList_render]
    simp only [closing, String.toList_append, toList_credits, List.append_assoc]
  rw [parts]
  refine .append ?_ (.append ?_ (.append ?_ (.append (skipped_notice _)
    (.append (skipped_day date _) ?_))))
  · exact skipped_plain (by decide) (by decide) _
  · simp only [List.append_assoc]
    rcases basesText_append spec.inheritance? _ with ⟨cs, same⟩ | same
    · rw [same]
      exact skipped_opening words (by rintro c ⟨⟩; decide) rfl
    · rw [same]
      exact skipped_opening words (by rintro c ⟨⟩; decide) rfl
  · exact skipped_basesText free _
  · exact skipped_plain (by decide) (by decide) _

end TokenDesk.Assistant.NatSpec
