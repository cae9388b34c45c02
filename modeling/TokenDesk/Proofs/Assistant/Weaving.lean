import TokenDesk.Proofs.Assistant.Insertion
import TokenDesk.Proofs.Text.Runs

/-!
# Texts with pieces between their characters

Where every offset is a boundary of the text, inserting all pieces gives the text with each piece in front of the
character that its offset is the offset of, however the list of pieces is ordered (`insertAll_eq_woven`). Of
pieces for one offset the later in the list comes first. Taking the pieces out again gives the text back.
-/

set_option autoImplicit false

namespace TokenDesk.Assistant

open TokenDesk.Text

variable {passed before cs : List Char} {offset : Nat} {pieces insertions others : List (Nat × String)}

/-- A place between two characters of a text or at one of its ends, as the number of bytes before it. -/
def IsBoundary (cs : List Char) (offset : Nat) : Prop :=
  ∃ before behind, cs = before ++ behind ∧ byteLength before = offset

/-- The pieces for an offset, the later in the list the earlier. -/
def piecesAt (insertions : List (Nat × String)) (offset : Nat) : List Char :=
  (insertions.filter (·.1 = offset)).reverse.flatMap fun one => one.2.toList

/-- The characters, of which the first has the offset `offset`, with the pieces for each offset before the
character there. -/
def woven (insertions : List (Nat × String)) : Nat → List Char → List Char
  | offset, [] => piecesAt insertions offset
  | offset, c :: cs => piecesAt insertions offset ++ c :: woven insertions (offset + c.utf8Size) cs

/-- What is left where at each offset of it the pieces for the offset are taken out; none where they are not
there. -/
def unwoven (insertions : List (Nat × String)) (offset : Nat) (cs : List Char) : Option (List Char) :=
  match _found : after? (piecesAt insertions offset) cs with
  | none => none
  | some [] => some []
  | some (c :: rest) => (unwoven insertions (offset + c.utf8Size) rest).map (c :: ·)
  termination_by cs.length
  decreasing_by
    rw [eq_append_of_after? _found, List.length_append, List.length_cons]
    omega

/-! ## Pieces for an offset -/

theorem piecesAt_eq_nil (apart : ∀ one ∈ insertions, one.1 ≠ offset) : piecesAt insertions offset = [] := by
  have nothing : insertions.filter (·.1 = offset) = [] := by
    rw [List.filter_eq_nil_iff]
    simpa using apart
  rw [piecesAt, nothing]
  rfl

/-- A piece at the end of the list comes before the others for its offset. -/
theorem piecesAt_concat (insertions : List (Nat × String)) (offset : Nat) (piece : String) :
    piecesAt (insertions ++ [(offset, piece)]) offset = piece.toList ++ piecesAt insertions offset := by
  simp [piecesAt, List.filter_append]

theorem piecesAt_concat_of_ne {other : Nat} (apart : other ≠ offset) (piece : String) :
    piecesAt (insertions ++ [(other, piece)]) offset = piecesAt insertions offset := by
  simp [piecesAt, List.filter_append, apart]

theorem filter_level (insertions : List (Nat × String)) (offset : Nat) :
    (insertions.filter (·.1 = offset)).Pairwise fun a b => b.1 ≤ a.1 := by
  refine List.pairwise_of_forall_mem_list fun a first b second => ?_
  have here : a.1 = offset := by simpa using (List.mem_filter.mp first).2
  have there : b.1 = offset := by simpa using (List.mem_filter.mp second).2
  exact Nat.le_of_eq (there.trans here.symm)

/-- Sorting by falling offsets keeps the order of the pieces for one offset. -/
theorem filter_byFallingOffset (insertions : List (Nat × String)) (offset : Nat) :
    (byFallingOffset insertions).filter (·.1 = offset) = insertions.filter (·.1 = offset) := by
  have level : (insertions.filter (·.1 = offset)).Pairwise fun a b => decide (b.1 ≤ a.1) = true := by
    simpa only [decide_eq_true_eq] using filter_level insertions offset
  have kept : (insertions.filter (·.1 = offset)).Sublist (byFallingOffset insertions) :=
    List.sublist_mergeSort (fun a b c => by simp only [decide_eq_true_eq]; omega)
      (fun a b => by simp only [Bool.or_eq_true, decide_eq_true_eq]; omega) level
      List.filter_sublist
  have among := kept.filter (·.1 = offset)
  rw [List.filter_filter] at among
  simp only [Bool.and_self] at among
  have perm : (byFallingOffset insertions).Perm insertions := List.mergeSort_perm _ _
  exact (among.eq_of_length (perm.filter _).length_eq.symm).symm

theorem piecesAt_byFallingOffset (insertions : List (Nat × String)) (offset : Nat) :
    piecesAt (byFallingOffset insertions) offset = piecesAt insertions offset := by
  rw [piecesAt, filter_byFallingOffset, piecesAt]

/-- With one piece at most for each offset the order of the list does not matter. -/
theorem piecesAt_of_perm (distinct : (insertions.map Prod.fst).Nodup) (perm : others.Perm insertions)
    (offset : Nat) : piecesAt others offset = piecesAt insertions offset := by
  have same : others.filter (·.1 = offset) = insertions.filter (·.1 = offset) := by
    refine (perm.filter _).eq_of_pairwise (fun a b first second le ge => ?_) (filter_level others offset)
      (filter_level insertions offset)
    exact List.inj_on_of_nodup_map distinct (perm.subset (List.mem_filter.mp first).1)
      (List.mem_filter.mp second).1 (Nat.le_antisymm ge le)
  rw [piecesAt, same, piecesAt]

/-! ## Weaving -/

theorem woven_congr (same : ∀ other, offset ≤ other → piecesAt insertions other = piecesAt others other)
    (cs : List Char) : woven insertions offset cs = woven others offset cs := by
  induction cs generalizing offset with
  | nil => exact same offset (Nat.le_refl _)
  | cons c cs ih =>
    rw [woven, woven, same offset (Nat.le_refl _), ih fun other later => same other (by omega)]

/-- Without pieces nothing changes. -/
theorem woven_nil (offset : Nat) (cs : List Char) : woven [] offset cs = cs := by
  induction cs generalizing offset with
  | nil => rfl
  | cons c cs ih => rw [woven, ih, piecesAt_eq_nil (by simp), List.nil_append]

/-- What is before all offsets stays as it is. -/
theorem woven_append (later : ∀ one ∈ insertions, offset + byteLength before ≤ one.1) (cs : List Char) :
    woven insertions offset (before ++ cs) =
      before ++ woven insertions (offset + byteLength before) cs := by
  induction before generalizing offset with
  | nil => rfl
  | cons c before ih =>
    have size := c.utf8Size_pos
    rw [byteLength_cons, ← Nat.add_assoc] at later ⊢
    have nothing : piecesAt insertions offset = [] := piecesAt_eq_nil fun one member => by
      have := later one member
      omega
    rw [List.cons_append, woven, nothing, ih later, List.nil_append, List.cons_append]

/-- The last piece of the list comes first of all at its offset. -/
theorem woven_concat (insertions : List (Nat × String)) (offset : Nat) (piece : String) (cs : List Char) :
    woven (insertions ++ [(offset, piece)]) offset cs = piece.toList ++ woven insertions offset cs := by
  cases cs with
  | nil => exact piecesAt_concat insertions offset piece
  | cons c cs =>
    have size := c.utf8Size_pos
    have beyond : woven (insertions ++ [(offset, piece)]) (offset + c.utf8Size) cs =
        woven insertions (offset + c.utf8Size) cs :=
      woven_congr (fun other later => piecesAt_concat_of_ne (by omega) piece) cs
    rw [woven, woven, piecesAt_concat, beyond, List.append_assoc]

theorem unwoven_piecesAt (insertions : List (Nat × String)) (offset : Nat) :
    unwoven insertions offset (piecesAt insertions offset) = some [] := by
  have found := after?_append (piecesAt insertions offset) []
  rw [List.append_nil] at found
  rw [unwoven]
  split
  case h_1 missing => cases found.symm.trans missing
  case h_2 => rfl
  case h_3 more => cases found.symm.trans more

theorem unwoven_append (insertions : List (Nat × String)) (offset : Nat) (c : Char) (cs : List Char) :
    unwoven insertions offset (piecesAt insertions offset ++ c :: cs) =
      (unwoven insertions (offset + c.utf8Size) cs).map (c :: ·) := by
  have found := after?_append (piecesAt insertions offset) (c :: cs)
  rw [unwoven]
  split
  case h_1 missing => cases found.symm.trans missing
  case h_2 nothing => cases found.symm.trans nothing
  case h_3 more =>
    cases found.symm.trans more
    rfl

/-- Taken out again, the pieces leave the text as it was. -/
theorem unwoven_woven (insertions : List (Nat × String)) (offset : Nat) (cs : List Char) :
    unwoven insertions offset (woven insertions offset cs) = some cs := by
  induction cs generalizing offset with
  | nil => rw [woven, unwoven_piecesAt]
  | cons c cs ih => rw [woven, unwoven_append, ih, Option.map_some]

/-! ## Insertions at boundaries -/

/-- Of two boundaries the one that is not before the other cuts what is behind it. -/
theorem IsBoundary.behind {behind : List Char} (boundary : IsBoundary (before ++ behind) offset)
    (later : byteLength before ≤ offset) : ∃ more rest, behind = more ++ rest ∧
      byteLength (before ++ more) = offset := by
  obtain ⟨lead, rest, split, size⟩ := boundary
  rcases List.append_eq_append_iff.mp split with ⟨more, rfl, rest_⟩ | ⟨more, rfl, rest_⟩
  · exact ⟨more, rest, rest_, size⟩
  · -- The cut is not before the first one, so nothing lies between them.
    rw [byteLength_append] at later
    have none_ : more = [] := byteLength_eq_zero_iff.mp (by omega)
    subst none_
    exact ⟨[], behind, rfl, by simpa using size⟩

/-- Pieces with rising offsets that are boundaries are put in by weaving them in the reverse order. -/
theorem inserted_woven (rising : pieces.Pairwise fun a b => a.1 ≤ b.1)
    (later : ∀ one ∈ pieces, byteLength passed ≤ one.1)
    (fit : ∀ one ∈ pieces, IsBoundary (passed ++ cs) one.1) :
    Inserted passed pieces cs (woven pieces.reverse (byteLength passed) cs) := by
  induction pieces generalizing passed cs with
  | nil =>
    rw [List.reverse_nil, woven_nil]
    exact .done
  | cons first pieces ih =>
    obtain ⟨offset, piece⟩ := first
    rw [List.pairwise_cons] at rising
    rw [List.forall_mem_cons] at later fit
    obtain ⟨before, rest, rfl, size⟩ := fit.1.behind later.1
    have onward : Inserted (passed ++ before) pieces rest
        (woven pieces.reverse (byteLength (passed ++ before)) rest) := by
      refine ih rising.2 (fun one member => ?_) (fun one member => ?_)
      · rw [size]
        exact rising.1 one member
      · rw [List.append_assoc]
        exact fit.2 one member
    have beyond : ∀ one ∈ pieces.reverse ++ [(offset, piece)],
        byteLength passed + byteLength before ≤ one.1 := by
      rw [← byteLength_append, size]
      intro one member
      rcases List.mem_append.mp member with among | last
      · exact rising.1 one (List.mem_reverse.mp among)
      · rw [List.mem_singleton.mp last]
    rw [List.reverse_cons, woven_append beyond, ← byteLength_append, size, woven_concat]
    rw [size] at onward
    subst size
    exact .next onward

theorem insertAtOffsets_eq_woven {text : String} (fit : ∀ one ∈ insertions, IsBoundary text.toList one.1) :
    insertAtOffsets text insertions = (String.ofList (woven insertions 0 text.toList), true) := by
  have rising : (byFallingOffset insertions).reverse.Pairwise fun a b => a.1 ≤ b.1 :=
    List.pairwise_reverse.mpr (byFallingOffset_pairwise insertions)
  have inserted : Inserted [] (byFallingOffset insertions).reverse text.toList
      (woven (byFallingOffset insertions).reverse.reverse (byteLength []) text.toList) := by
    refine inserted_woven rising (fun one _ => Nat.zero_le _) fun one member => ?_
    exact fit one (List.mem_mergeSort.mp (List.mem_reverse.mp member))
  have whole := inserted.insertEach
  rw [List.reverse_reverse, List.nil_append, List.nil_append, byteLength_nil,
    woven_congr fun other _ => piecesAt_byFallingOffset insertions other] at whole
  rw [insertAtOffsets, whole]

/-- Pieces whose offsets are boundaries of a document all fit. What comes out is the text with each piece at its
offset, those for one offset in the reverse order of the list; the pieces can be taken out of it again, and if
the offsets differ the order of the list does not matter. -/
theorem insertAll_eq_woven (d : Document) (fit : ∀ one ∈ insertions, IsBoundary d.text.toList one.1) :
    ∃ text, d.insertAll insertions = ({ d with text := text }, true) ∧
      text.toList = woven insertions 0 d.text.toList ∧
      unwoven insertions 0 text.toList = some d.text.toList ∧
      ((insertions.map Prod.fst).Nodup → ∀ others, others.Perm insertions →
        d.insertAll others = d.insertAll insertions) := by
  have inserted : d.insertAll insertions =
      ({ d with text := String.ofList (woven insertions 0 d.text.toList) }, true) := by
    rw [Document.insertAll, insertAtOffsets_eq_woven fit]
  refine ⟨_, inserted, String.toList_ofList, ?_, fun distinct others perm => ?_⟩
  · rw [String.toList_ofList, unwoven_woven]
  · have fits : ∀ one ∈ others, IsBoundary d.text.toList one.1 := fun one member =>
      fit one (perm.subset member)
    rw [inserted, Document.insertAll, insertAtOffsets_eq_woven fits,
      woven_congr fun other _ => piecesAt_of_perm distinct perm other]

/-- Two pieces go behind a character of two bytes, the later of the list first; with one of them only, the list
may be turned. -/
theorem insertAll_eq_woven_behind :
    (∀ one ∈ [(3, "x"), (0, "y"), (3, "z")], IsBoundary "aäb".toList one.1) ∧
      Document.insertAll ⟨"A.sol", "aäb", 1⟩ [(3, "x"), (0, "y"), (3, "z")] =
        (⟨"A.sol", "yaäzxb", 1⟩, true) ∧
      ([(3, "x"), (0, "y")].map Prod.fst).Nodup ∧
      Document.insertAll ⟨"A.sol", "aäb", 1⟩ [(0, "y"), (3, "x")] =
        Document.insertAll ⟨"A.sol", "aäb", 1⟩ [(3, "x"), (0, "y")] := by
  have first : IsBoundary "aäb".toList 0 := ⟨[], ['a', 'ä', 'b'], rfl, rfl⟩
  have third : IsBoundary "aäb".toList 3 := ⟨['a', 'ä'], ['b'], rfl, rfl⟩
  have three : ∀ one ∈ [(3, "x"), (0, "y"), (3, "z")], IsBoundary "aäb".toList one.1 :=
    List.forall_mem_cons.mpr ⟨third, List.forall_mem_cons.mpr ⟨first, List.forall_mem_singleton.mpr third⟩⟩
  have two : ∀ one ∈ [(3, "x"), (0, "y")], IsBoundary "aäb".toList one.1 :=
    List.forall_mem_cons.mpr ⟨third, List.forall_mem_singleton.mpr first⟩
  have distinct : ([(3, "x"), (0, "y")].map Prod.fst).Nodup := by decide
  obtain ⟨text, inserted, chars, -, -⟩ := insertAll_eq_woven ⟨"A.sol", "aäb", 1⟩ three
  obtain ⟨-, -, -, -, turned⟩ := insertAll_eq_woven ⟨"A.sol", "aäb", 1⟩ two
  have written : text = "yaäzxb" := by
    apply String.toList_inj.mp
    rw [chars]
    decide +kernel
  rw [written] at inserted
  exact ⟨three, inserted, distinct, turned distinct _ (.swap _ _ _)⟩

end TokenDesk.Assistant
