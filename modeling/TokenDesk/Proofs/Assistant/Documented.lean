import TokenDesk.Proofs.Assistant.Blocks
import TokenDesk.Proofs.Assistant.Insertion

/-!
# Documented texts

Blocks go before the declarations of a text. What is passed in front of a block begins no declaration that
goes on behind the slash of the block, if it began none before (`Skipped.before_slash`), and none begins in
the block. So a documented text has the declarations it had, moved by the blocks, and documenting it again
finds them once more (`find_of_documented`).
-/

set_option autoImplicit false

namespace TokenDesk.Assistant

open TokenDesk.Text

namespace NatSpec

variable {spec : NatSpec} {cs left passed before declared rest : List Char} {found : List (Nat × NatSpec)}

/-! ## Texts before a block -/

theorem Declares.braceless (declares : Declares declared spec) :
    ∃ inner, declared = inner ++ ['\x7b'] ∧ '\x7b' ∉ inner := by
  obtain ⟨gap, between, -, blanks, -, inherits, rfl⟩ := id declares.text
  refine ⟨_, rfl, ?_⟩
  simp only [List.mem_append, not_or]
  refine ⟨⟨⟨by decide, notMem_of_blanks blanks rfl⟩, fun member => ?_⟩, inherits.braceless⟩
  exact absurd (declares.words _ member) (by decide)

/-- A character that is not in the first part is in the second. -/
theorem exists_of_append_eq {first second more : List Char} {c : Char} (absent : c ∉ first)
    (split : first ++ second = left ++ c :: more) :
    ∃ lead, left = first ++ lead ∧ second = lead ++ c :: more := by
  rcases List.append_eq_append_iff.mp split with ⟨lead, rfl, behind⟩ | ⟨trail, rfl, behind⟩
  · exact ⟨lead, rfl, behind⟩
  · cases trail with
    | nil => exact ⟨[], by simp, by simpa using behind.symm⟩
    | cons d trail =>
      obtain ⟨rfl, -⟩ := List.cons.inj behind
      exact absurd (List.mem_append_right left List.mem_cons_self) absent

/-- A stretch that is cut before a slash goes on to any other brace just as well. -/
theorem IsStretch.continued {lead more inner stretch : List Char} (stretched : IsStretch stretch)
    (cut : stretch ++ ['\x7b'] = lead ++ '/' :: more) (some_ : inner ≠ []) (braceless : '\x7b' ∉ inner) :
    IsStretch (lead ++ inner) := by
  have part : lead <+: stretch := by
    rcases List.append_eq_append_iff.mp cut with ⟨trail, rfl, behind⟩ | ⟨trail, rfl, -⟩
    · cases trail with
      | nil => exact ⟨[], by simp⟩
      | cons c trail => cases trail <;> cases behind
    · exact List.prefix_append lead trail
  cases lead with
  | nil =>
    -- A stretch begins with a blank, and not with a slash.
    have first : stretch.head? = some '/' := by
      have head := congrArg List.head? cut
      rw [List.head?_append_of_ne_nil _ (List.length_pos_iff.mp (by have := stretched.long; omega))] at head
      simpa using head
    exact absurd (stretched.blank _ first) (by decide)
  | cons c lead =>
    obtain ⟨trail, rfl⟩ := part
    refine ⟨by simpa using stretched.blank, ?_, ?_⟩
    · have length := List.length_pos_iff.mpr some_
      simp only [List.cons_append, List.length_cons, List.length_append]
      omega
    · have lacks := stretched.braceless
      simp only [List.mem_append, not_or] at lacks ⊢
      exact ⟨lacks.1, braceless⟩

/-- Of a declaration with a slash, what is before the slash goes on to any other brace just as well: the slash
stands in the bases. -/
theorem Declares.begins_of_slash {more inner : List Char} (declares : Declares (left ++ '/' :: more) spec)
    (some_ : inner ≠ []) (braceless : '\x7b' ∉ inner) (rest : List Char) :
    Begins (left ++ (inner ++ ['\x7b'] ++ rest)) := by
  obtain ⟨gap, between, gapped, blanks, -, inherits, text⟩ := declares.text
  have before : '/' ∉ "contract".toList ++ gap ++ spec.contract.toList := by
    simp only [List.mem_append, not_or]
    refine ⟨⟨by decide, notMem_of_blanks blanks rfl⟩, fun member => ?_⟩
    exact absurd (declares.words _ member) (by decide)
  generalize spec.inheritance? = inheritance? at inherits
  cases inherits with
  | nothing others =>
    have slash : '/' ∈ left ++ '/' :: more := by simp
    rw [text] at slash
    simp only [List.mem_append] at before slash
    rcases slash with (early | late) | brace
    · exact absurd early before
    · exact absurd late (notMem_of_blanks others rfl)
    · exact absurd brace (by decide)
  | @bases other stretch more_ others stretched =>
    have absent : '/' ∉ "contract".toList ++ gap ++ spec.contract.toList ++ (other ++ ['i', 's']) := by
      have is_ : '/' ∉ other ++ ['i', 's'] := by
        rw [List.mem_append, not_or]
        exact ⟨notMem_of_blanks others rfl, by decide⟩
      exact fun slash => (List.mem_append.mp slash).elim before is_
    have parts : "contract".toList ++ gap ++ spec.contract.toList ++ (other ++ ['i', 's']) ++
        (stretch ++ ['\x7b']) = left ++ '/' :: more := by
      rw [text]
      simp only [List.append_assoc]
    obtain ⟨lead, rfl, cut⟩ := exists_of_append_eq absent parts
    have inherits := Inherits.bases more_ others (stretched.continued cut some_ braceless)
    refine ⟨_, ⟨spec.contract, basesIn? (lead ++ inner)⟩, rest, ⟨declares.named, declares.words, gap, _,
      gapped, blanks, inherits.apart [], inherits, rfl⟩, ?_⟩
    simp only [List.append_assoc]

/-- In front of a slash no declaration begins where none begins in front of a declaration. -/
theorem Skipped.before_slash (skipped : Skipped before (declared ++ rest)) (declares : Declares declared spec)
    (more : List Char) : Skipped before ('/' :: more) := by
  rintro passed left rfl some_ ⟨taken, other, behind, begun, split⟩
  refine skipped passed left rfl some_ ?_
  rcases List.append_eq_append_iff.mp split with ⟨trail, rfl, tail⟩ | ⟨trail, rfl, -⟩
  · cases trail with
    | nil => exact ⟨_, other, declared ++ rest, begun, by simp⟩
    | cons c trail =>
      obtain ⟨rfl, -⟩ := List.cons.inj tail
      obtain ⟨inner, rfl, braceless⟩ := declares.braceless
      obtain ⟨gap, between, -, -, -, -, text⟩ := declares.text
      have some_ : inner ≠ [] := by
        rw [(List.append_inj' text rfl).1]
        exact List.append_ne_nil_of_left_ne_nil (by simp) _
      exact begun.begins_of_slash some_ braceless rest
  · exact ⟨taken, other, trail ++ (declared ++ rest), begun, by simp⟩

/-! ## Declarations that are moved -/

/-- Declarations with a block before each, `shift` bytes before the first of them. -/
def moved (block : NatSpec → String) (shift : Nat) : List (Nat × NatSpec) → List (Nat × NatSpec)
  | [] => []
  | (offset, spec) :: found =>
    (offset + (shift + byteLength (block spec).toList), spec) ::
      moved block (shift + byteLength (block spec).toList) found

theorem getElem?_moved (block : NatSpec → String) (shift i : Nat) (found : List (Nat × NatSpec)) :
    (moved block shift found)[i]? = found[i]?.map fun one =>
      (one.1 + (shift + byteLength ((found.take (i + 1)).flatMap fun one => (block one.2).toList)),
        one.2) := by
  induction found generalizing shift i with
  | nil => rfl
  | cons one found ih =>
    cases i with
    | zero => simp [moved]
    | succ i => simp [moved, ih, Nat.add_assoc]

theorem map_moved (block : NatSpec → String) (shift : Nat) (found : List (Nat × NatSpec)) :
    (moved block shift found).map Prod.snd = found.map Prod.snd := by
  induction found generalizing shift with
  | nil => rfl
  | cons one found ih => simp [moved, ih]

/-- With blocks that begin no declaration, a scan meets what it met, moved. -/
theorem Met.documented (met : Met passed cs found) (block : NatSpec → String)
    (slash : ∀ one ∈ found, ∃ more, (block one.2).toList = '/' :: more)
    (skipped : ∀ one ∈ found, ∀ behind, Skipped (block one.2).toList behind) {ahead : List Char} {shift : Nat}
    (place : byteLength ahead = byteLength passed + shift) :
    ∃ new, Inserted passed (found.map fun one => (one.1, block one.2)) cs new ∧
      Met ahead new (moved block shift found) := by
  induction met generalizing ahead shift with
  | @done passed cs nothing => exact ⟨cs, .done, .done nothing⟩
  | @next passed before declared rest spec found first declares later ih =>
    rw [List.forall_mem_cons] at slash skipped
    obtain ⟨more, begun⟩ := slash.1
    have further : byteLength (ahead ++ (before ++ (block spec).toList) ++ declared) =
        byteLength (passed ++ before ++ declared) + (shift + byteLength (block spec).toList) := by
      simp only [byteLength_append, place]
      omega
    obtain ⟨new, inserted, meets⟩ := ih slash.2 skipped.2 further
    refine ⟨before ++ ((block spec).toList ++ (declared ++ new)), ?_, ?_⟩
    · rw [List.append_assoc before]
      exact .next inserted.behind
    · have passes : Skipped (before ++ (block spec).toList) (declared ++ new) := by
        refine .append ?_ (skipped.1 _)
        rw [begun]
        exact first.before_slash declares _
      have here : byteLength (passed ++ before) + (shift + byteLength (block spec).toList) =
          byteLength (ahead ++ (before ++ (block spec).toList)) := by
        simp only [byteLength_append, place]
        omega
      rw [moved, here, ← List.append_assoc before, ← List.append_assoc (before ++ _)]
      exact .next passes declares meets

/-- The word that begins a declaration is in no bases that are found. -/
def PlainBases (text : String) : Prop :=
  ∀ offset spec bases, (offset, spec) ∈ find text → spec.inheritance? = some bases →
    ¬ "contract".toList <:+: bases.toList

theorem PlainBases.of_same {first second : String} (plain : PlainBases first)
    (same : (find second).map Prod.snd = (find first).map Prod.snd) : PlainBases second := by
  intro offset spec bases found some_
  have member := List.mem_map_of_mem (f := Prod.snd) found
  rw [same] at member
  obtain ⟨⟨place, other⟩, among, rfl⟩ := List.mem_map.mp member
  exact plain place other bases among some_

theorem exists_documented {text : String} (plain : PlainBases text) (date : Time.Date) :
    ∃ new, Inserted [] (comments text date) text.toList new ∧
      find (String.ofList new) = moved (fun spec => spec.render date) 0 (find text) := by
  have met : Met [] text.toList (find text) := met_iff.mpr rfl
  have slash (spec : NatSpec) : ∃ more, (spec.render date).toList = '/' :: more := by
    rw [toList_render, List.append_assoc]
    exact ⟨_, rfl⟩
  have skipped : ∀ one ∈ find text, ∀ behind, Skipped (one.2.render date).toList behind := by
    rintro ⟨offset, spec⟩ member behind
    obtain ⟨-, declared, -, -, -, declares⟩ := met.declares member
    exact skipped_render declares.words (plain offset spec · member) date behind
  obtain ⟨new, inserted, meets⟩ := met.documented (fun spec => spec.render date)
    (fun one _ => slash one.2) skipped (show byteLength [] = byteLength [] + 0 from rfl)
  rw [← String.toList_ofList (l := new)] at meets
  exact ⟨new, inserted, (met_iff.mp meets).symm⟩

end NatSpec

namespace Document

open NatSpec

theorem comments_ascending (text : String) (date : Time.Date) :
    ((comments text date).map Prod.fst).Pairwise (· < ·) := by
  have ascending := (met_iff.mpr (rfl : find text = find text)).ascending.2
  rwa [comments, List.map_map]

theorem exists_documented_eq {d : Document} (plain : PlainBases d.text) (date : Time.Date) :
    ∃ text, d.documented date = ({ d with text := text }, true) ∧
      Inserted [] (comments d.text date) d.text.toList text.toList ∧
      find text = moved (fun spec => spec.render date) 0 (find d.text) := by
  obtain ⟨new, inserted, found⟩ := exists_documented plain date
  refine ⟨String.ofList new, ?_, by rwa [String.toList_ofList], found⟩
  rw [documented, insertAll, insertAtOffsets_of_inserted (comments_ascending d.text date) inserted]

/-- However often a document is documented, its declarations are the same. -/
theorem exists_documentedEach_eq {d : Document} (plain : PlainBases d.text) (dates : List Time.Date) :
    ∃ text, d.documentedEach dates = ({ d with text := text }, true) ∧
      (find text).map Prod.snd = (find d.text).map Prod.snd := by
  induction dates generalizing d with
  | nil => exact ⟨d.text, rfl, rfl⟩
  | cons date dates ih =>
    obtain ⟨text, documented, -, found⟩ := exists_documented_eq plain date
    have same : (find text).map Prod.snd = (find d.text).map Prod.snd := by
      rw [found, map_moved]
    have still : PlainBases { d with text := text }.text := plain.of_same same
    obtain ⟨later, all, declarations⟩ := ih still
    refine ⟨later, ?_, declarations.trans same⟩
    rw [documentedEach, documented]
    exact all

/-- If the word `contract` is in no bases, as many blocks as there are declarations are put in, each at the
offset of its own; the same declarations are then found again, each moved by the blocks up to its own, and so
they are however often the document is documented. -/
theorem find_of_documented (d : Document) (date : Time.Date) (plain : PlainBases d.text) :
    (comments d.text date).length = (find d.text).length ∧
      (∃ text, d.documented date = ({ d with text := text }, true) ∧
        Inserted [] (comments d.text date) d.text.toList text.toList ∧
        ∀ i, (find text)[i]? = (find d.text)[i]?.map fun one =>
          (one.1 + byteLength (((comments d.text date).take (i + 1)).flatMap fun piece => piece.2.toList),
            one.2)) ∧
      ∀ dates, ∃ text, d.documentedEach dates = ({ d with text := text }, true) ∧
        (find text).map Prod.snd = (find d.text).map Prod.snd := by
  refine ⟨by rw [comments, List.length_map], ?_, exists_documentedEach_eq plain⟩
  obtain ⟨text, documented, inserted, found⟩ := exists_documented_eq plain date
  refine ⟨text, documented, inserted, fun i => ?_⟩
  rw [found, getElem?_moved, comments, ← List.map_take, List.flatMap_map]
  simp only [Nat.zero_add]

theorem find_of_documented_base : PlainBases "contract A is B \x7b\x7d" ∧
    ∃ text, documented ⟨"a.sol", "contract A is B \x7b\x7d", 1⟩ ⟨2024, 1, 1⟩ = (⟨"a.sol", text, 1⟩, true) ∧
      (find text)[0]? = some (244, ⟨"A", some "B"⟩) := by
  have found : find "contract A is B \x7b\x7d" = [(0, ⟨"A", some "B"⟩)] := by decide +kernel
  have plain : PlainBases "contract A is B \x7b\x7d" := by
    intro offset spec bases member some_
    rw [found] at member
    cases List.mem_singleton.mp member
    cases some_
    decide
  obtain ⟨-, ⟨text, documented, -, moved⟩, -⟩ :=
    find_of_documented ⟨"a.sol", "contract A is B \x7b\x7d", 1⟩ ⟨2024, 1, 1⟩ plain
  refine ⟨plain, text, documented, ?_⟩
  rw [moved 0]
  decide +kernel

end Document

end TokenDesk.Assistant
