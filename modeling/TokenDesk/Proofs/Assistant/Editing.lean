import TokenDesk.Assistant.Document

/-!
# Lines of an edited text

A block that is put before a line of a document stands on lines of its own: the lines above it, those of the
block and those below it follow one another, and none of them is changed, joined or split
(`lines_insert?`). This holds for every line, whether the document has it or not.
-/

set_option autoImplicit false

namespace TokenDesk.Assistant

open TokenDesk.Text

variable {c : Char} {cs before behind block : List Char}

/-! ## Lines -/

/-- The lines of a text without the line feeds that end them; the last line may end with the text. -/
def lines : List Char → List (List Char)
  | [] => []
  | c :: cs =>
    if c = '\n' then [] :: lines cs
    else
      match lines cs with
      | [] => [[c]]
      | line :: others => (c :: line) :: others

/-- Whether what follows a text begins a new line. -/
def Closed (cs : List Char) : Prop :=
  cs = [] ∨ cs.getLast? = some '\n'

theorem lines_feed (cs : List Char) : lines ('\n' :: cs) = [] :: lines cs := by
  rw [lines, if_pos rfl]

theorem lines_eq_nil_iff : lines cs = [] ↔ cs = [] := by
  cases cs with
  | nil => simp [lines]
  | cons c cs =>
    rw [lines]
    split
    · simp
    · split <;> simp

/-- A character before a text goes into its first line. -/
theorem lines_cons (other : c ≠ '\n') (cs : List Char) :
    lines (c :: cs) = (c :: (lines cs).headD []) :: (lines cs).tail := by
  rw [lines, if_neg other]
  split <;> simp [*]

/-- At a line feed the lines before and behind are apart. -/
theorem lines_append_feed (before behind : List Char) :
    lines (before ++ '\n' :: behind) = lines (before ++ ['\n']) ++ lines behind := by
  induction before with
  | nil => simp [lines]
  | cons c before ih =>
    by_cases feed : c = '\n'
    · subst feed
      simp only [List.cons_append, lines_feed, ih]
    · obtain ⟨line, others, split⟩ : ∃ line others, lines (before ++ ['\n']) = line :: others :=
        List.exists_cons_of_ne_nil (by simp [lines_eq_nil_iff])
      simp only [List.cons_append, lines_cons feed, ih, split, List.headD_cons, List.tail_cons]

theorem Closed.lines_append (closed : Closed before) (behind : List Char) :
    lines (before ++ behind) = lines before ++ lines behind := by
  rcases closed with rfl | feed
  · rfl
  · obtain ⟨before, rfl⟩ := List.getLast?_eq_some_iff.mp feed
    rw [List.append_assoc, List.singleton_append, lines_append_feed]

/-- A line feed behind an open line ends that line and begins none. -/
theorem lines_close (opened : ¬ Closed cs) : lines (cs ++ ['\n']) = lines cs := by
  induction cs with
  | nil => exact absurd (.inl rfl) opened
  | cons c cs ih =>
    by_cases last : cs = []
    · subst last
      have other : c ≠ '\n' := fun feed => opened (.inr (by simp [feed]))
      simp [lines, other]
    · have rest : ¬ Closed cs := by
        rintro (none_ | feed)
        · exact last none_
        · exact opened (.inr (by rw [List.getLast?_cons, feed]; rfl))
      by_cases feed : c = '\n'
      · rw [feed, List.cons_append, lines_feed, lines_feed, ih rest]
      · rw [List.cons_append, lines_cons feed, lines_cons feed, ih rest]

/-! ## Offsets -/

/-- A piece goes between the characters before and behind its offset. -/
theorem insertAt_byteLength (piece before behind : List Char) :
    insertAt piece (byteLength before) (before ++ behind) = some (before ++ (piece ++ behind)) := by
  induction before with
  | nil => simp [insertAt]
  | cons c before ih =>
    obtain ⟨more, size⟩ := Nat.exists_eq_add_one_of_ne_zero (Nat.ne_of_gt c.utf8Size_pos)
    have offset : byteLength (c :: before) = more + byteLength before + 1 := by
      rw [byteLength_cons, size]
      omega
    have rest : more + byteLength before + 1 - c.utf8Size = byteLength before := by omega
    rw [offset, List.cons_append, insertAt, if_pos (by omega), rest, ih]
    rfl

/-- The offset behind so many line feeds cuts a text between its lines. -/
theorem exists_offsetBehind (feeds offset : Nat) (cs : List Char) : ∃ before behind,
    cs = before ++ behind ∧ offsetBehind feeds offset cs = offset + byteLength before ∧
      lines before = (lines cs).take feeds ∧ lines behind = (lines cs).drop feeds ∧
        (behind ≠ [] → Closed before) := by
  induction cs generalizing feeds offset with
  | nil => exact ⟨[], [], by cases feeds <;> simp [offsetBehind, lines]⟩
  | cons c cs ih =>
    cases feeds with
    | zero => exact ⟨[], c :: cs, by simp [offsetBehind, lines, Closed]⟩
    | succ feeds =>
      by_cases feed : c = '\n'
      · obtain ⟨before, behind, split, place, above, below, closed⟩ := ih feeds (offset + 1)
        refine ⟨c :: before, behind, by rw [split, List.cons_append], ?_, ?_, ?_, fun more => ?_⟩
        · have size : c.utf8Size = 1 := by rw [feed]; rfl
          rw [offsetBehind, if_pos feed, place, byteLength_cons, size, Nat.add_assoc]
        · rw [feed, lines_feed, lines_feed, List.take_succ_cons, above]
        · rw [feed, lines_feed, List.drop_succ_cons, below]
        · rcases closed more with rfl | last
          · exact .inr (by simp [feed])
          · exact .inr (by rw [List.getLast?_cons, last]; rfl)
      · obtain ⟨before, behind, split, place, above, below, closed⟩ :=
          ih (feeds + 1) (offset + c.utf8Size)
        refine ⟨c :: before, behind, by rw [split, List.cons_append], ?_, ?_, ?_, fun more => ?_⟩
        · rw [offsetBehind, if_neg feed, place, byteLength_cons, Nat.add_assoc]
        · rw [lines_cons feed, lines_cons feed, above, List.take_succ_cons]
          cases lines cs <;> simp
        · rw [lines_cons feed, below, List.drop_succ_cons]
          cases lines cs <;> simp
        · -- Behind an open line nothing is left.
          rcases closed more with rfl | last
          · rw [lines, eq_comm, List.take_eq_nil_iff] at above
            have none_ : lines cs = [] := by simpa using above
            rw [lines_eq_nil_iff.mp none_] at split
            exact absurd (by simpa using split.symm) more
          · exact .inr (by rw [List.getLast?_cons, last]; rfl)

/-! ## Blocks -/

/-- At the end of a text a block begins a new line. -/
theorem lines_fitBlock_atEnd (text block : List Char) :
    lines (text ++ fitBlock text true block) = lines text ++ lines block := by
  by_cases closed : Closed text
  · have kept : fitBlock text true block = block := by
      unfold fitBlock
      rcases closed with rfl | feed
      · simp
      · simp [feed]
    rw [kept, closed.lines_append]
  · have apart : fitBlock text true block = '\n' :: block := by
      obtain ⟨there, open_⟩ := not_or.mp closed
      simp [fitBlock, there, open_]
    rw [apart, lines_append_feed, lines_close closed]

/-- Within a text a block ends its last line. -/
theorem lines_fitBlock_within (text : List Char) (some_ : block ≠ []) (behind : List Char) :
    lines (fitBlock text false block ++ behind) = lines block ++ lines behind := by
  by_cases closed : Closed block
  · have kept : fitBlock text false block = block := by
      rcases closed with none_ | feed
      · exact absurd none_ some_
      · simp [fitBlock, feed]
    rw [kept, closed.lines_append]
  · have ended : fitBlock text false block = block ++ ['\n'] := by
      simp [fitBlock, (not_or.mp closed).2]
    rw [ended, List.append_assoc, List.singleton_append, lines_append_feed, lines_close closed]

/-- Whether a block fits at an offset is decided by what stands behind it. -/
theorem atEnd_iff (before behind : List Char) :
    (byteLength before == byteLength (before ++ behind)) = behind.isEmpty := by
  rw [byteLength_append, Bool.eq_iff_iff, beq_iff_eq, List.isEmpty_iff, ← byteLength_eq_zero_iff]
  omega

/-- A block that is put before a line stands between the lines above it and those from this line on, all of
them as they were: above the first line for a line zero, and below the last for a line past the end. -/
theorem lines_insert? (d : Document) {block : String} (some_ : block ≠ "") :
    let old := lines d.text.toList
    let above := min (max d.line 1 - 1) old.length
    ∃ text, d.insert? block = some { d with text := text } ∧
      lines text.toList = old.take above ++ lines block.toList ++ old.drop above := by
  intro old above
  obtain ⟨before, behind, split, place, upper, lower, closed⟩ :=
    exists_offsetBehind (d.line - 1) 0 d.text.toList
  have feeds : max d.line 1 - 1 = d.line - 1 := by omega
  have taken : old.take above = lines before := by
    rw [upper, ← List.take_eq_take_min, feeds]
  have dropped : old.drop above = lines behind := by
    rw [lower, ← List.drop_eq_drop_min, feeds]
  have offset : lineOffset d.text d.line = byteLength before := by
    rw [lineOffset, place, Nat.zero_add]
  have there : block.toList ≠ [] := by simpa using some_
  refine ⟨String.ofList (before ++ (fitBlock d.text.toList behind.isEmpty block.toList ++ behind)),
    ?_, ?_⟩
  · unfold Document.insert? insertAtLine
    dsimp only
    rw [offset, split, atEnd_iff, insertAt_byteLength]
    rfl
  · rw [taken, dropped, String.toList_ofList]
    cases behind with
    | nil =>
      rw [List.append_nil] at split ⊢
      rw [split, List.isEmpty_nil, lines_fitBlock_atEnd]
      simp [lines]
    | cons c behind =>
      rw [List.isEmpty_cons, (closed (List.cons_ne_nil c behind)).lines_append,
        lines_fitBlock_within _ there, List.append_assoc]

/-- Below a last line that no line feed ends, a block begins a line of its own. -/
theorem lines_insert?_past : "y" ≠ "" ∧ ∃ text,
    (Document.mk "A.sol" "ä\n\nx" 9).insert? "y" = some ⟨"A.sol", text, 9⟩ ∧
      lines text.toList = [['ä'], [], ['x'], ['y']] := by
  have apart : "y" ≠ "" := by decide
  obtain ⟨text, inserted, framed⟩ := lines_insert? ⟨"A.sol", "ä\n\nx", 9⟩ apart
  refine ⟨apart, text, inserted, framed.trans ?_⟩
  decide +kernel

end TokenDesk.Assistant
