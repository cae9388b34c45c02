import TokenDesk.Proofs.Assistant.Declarations

/-!
# What a scan reports

The declarations of a text are those that a scan from left to right meets (`Met`): it passes text in which no
declaration begins, takes the declaration that begins there, and goes on behind its brace. Nothing else is
met, and in the order of the text (`met_iff`, `Met.ascending`).
-/

set_option autoImplicit false

namespace TokenDesk.Assistant.NatSpec

open TokenDesk.Text

variable {spec : NatSpec} {cs passed before behind declared taken rest : List Char}
  {found : List (Nat × NatSpec)} {c : Char}

/-! ## Where a declaration begins -/

theorem Declares.byteLength_pos (declares : Declares declared spec) : 0 < byteLength declared := by
  obtain ⟨gap, between, -, -, -, -, rfl⟩ := declares.text
  have word : byteLength "contract".toList = 8 := rfl
  simp only [byteLength_append, word]
  omega

theorem Declares.ne_nil (declares : Declares declared spec) : declared ≠ [] := fun empty => by
  have some_ := declares.byteLength_pos
  rw [empty] at some_
  exact Nat.lt_irrefl 0 some_

theorem Declares.length_lt (declares : Declares declared spec) (rest : List Char) :
    rest.length < (declared ++ rest).length := by
  have some_ := List.length_pos_iff.mpr declares.ne_nil
  rw [List.length_append]
  omega

/-- A declaration begins at the head of the text. -/
def Begins (cs : List Char) : Prop :=
  ∃ declared spec rest, Declares declared spec ∧ cs = declared ++ rest

theorem begins_iff : Begins cs ↔ declaration? cs ≠ none := by
  constructor
  · rintro ⟨declared, spec, rest, declares, split⟩ none_
    rw [declaration?_eq_some_iff.mpr ⟨declared, declares, split⟩] at none_
    cases none_
  · intro some_
    obtain ⟨⟨spec, rest⟩, found⟩ := Option.ne_none_iff_exists'.mp some_
    obtain ⟨declared, declares, split⟩ := declaration?_eq_some_iff.mp found
    exact ⟨declared, spec, rest, declares, split⟩

/-- No declaration begins in `before`, where `behind` follows. -/
def Skipped (before behind : List Char) : Prop :=
  ∀ passed left, before = passed ++ left → left ≠ [] → ¬ Begins (left ++ behind)

@[simp] theorem skipped_nil : Skipped [] behind := by
  intro passed left split some_
  exact absurd (List.append_eq_nil_iff.mp split.symm).2 some_

@[simp] theorem skipped_cons :
    Skipped (c :: before) behind ↔ ¬ Begins (c :: before ++ behind) ∧ Skipped before behind := by
  constructor
  · intro skipped
    exact ⟨skipped [] _ rfl (List.cons_ne_nil c before), fun passed left split some_ =>
      skipped (c :: passed) left (by rw [split, List.cons_append]) some_⟩
  · rintro ⟨here, later⟩ passed left split some_
    cases passed with
    | nil =>
      rw [← (show c :: before = left from split)]
      exact here
    | cons d passed => exact later passed left (List.cons.inj split).2 some_

theorem skipped_append {first second : List Char} :
    Skipped (first ++ second) behind ↔ Skipped first (second ++ behind) ∧ Skipped second behind := by
  induction first with
  | nil => simp
  | cons c first ih => simp [ih, and_assoc]

theorem Skipped.append {first second : List Char} (one : Skipped first (second ++ behind))
    (two : Skipped second behind) : Skipped (first ++ second) behind :=
  skipped_append.mpr ⟨one, two⟩

/-! ## The scan -/

/-- What a scan of `cs` meets, where `passed` is before it. -/
inductive Met : List Char → List Char → List (Nat × NatSpec) → Prop
  | done {passed cs : List Char} (nothing : Skipped cs []) : Met passed cs []
  | next {passed before declared rest : List Char} {spec : NatSpec} {found : List (Nat × NatSpec)}
      (first : Skipped before (declared ++ rest)) (declares : Declares declared spec)
      (later : Met (passed ++ before ++ declared) rest found) :
      Met passed (before ++ declared ++ rest) ((byteLength (passed ++ before), spec) :: found)

theorem Met.cons (here : ¬ Begins (c :: cs)) (met : Met (passed ++ [c]) cs found) :
    Met passed (c :: cs) found := by
  cases met with
  | done nothing => exact .done (by simp [here, nothing])
  | @next _ before declared rest spec _ first declares later =>
    have all : Met passed ((c :: before) ++ declared ++ rest)
        ((byteLength (passed ++ c :: before), spec) :: _) :=
      .next (by simpa [first] using here) declares (by simpa using later)
    simpa using all

theorem scan_declares {fuel offset : Nat} (declares : Declares declared spec) :
    scan (fuel + 1) offset (declared ++ rest) =
      (offset, spec) :: scan fuel (offset + byteLength declared) rest := by
  have here : declaration? (declared ++ rest) = some (spec, rest) :=
    declaration?_eq_some_iff.mpr ⟨declared, declares, rfl⟩
  obtain ⟨c, cs, split⟩ := List.exists_cons_of_ne_nil
    (List.append_ne_nil_of_left_ne_nil declares.ne_nil rest)
  rw [split] at here
  rw [split, scan, here]
  dsimp only
  rw [← split, byteLength_append, Nat.add_sub_cancel]

theorem scan_skipped {fuel offset : Nat} (skipped : Skipped before behind) :
    scan (before.length + fuel) offset (before ++ behind) =
      scan fuel (offset + byteLength before) behind := by
  induction before generalizing offset with
  | nil => simp
  | cons c before ih =>
    obtain ⟨here, later⟩ := skipped_cons.mp skipped
    have none_ : declaration? (c :: (before ++ behind)) = none := by
      simpa [begins_iff] using here
    rw [List.length_cons, Nat.add_right_comm, List.cons_append, scan, none_]
    dsimp only
    rw [ih later, byteLength_cons, Nat.add_assoc]

theorem met_scan {fuel : Nat} (enough : cs.length < fuel) :
    Met passed cs (scan fuel (byteLength passed) cs) := by
  induction fuel generalizing passed cs with
  | zero => cases enough
  | succ fuel ih =>
    cases cs with
    | nil => exact .done skipped_nil
    | cons c cs =>
      by_cases here : Begins (c :: cs)
      · obtain ⟨declared, spec, rest, declares, split⟩ := here
        rw [split, scan_declares declares, ← byteLength_append]
        have shorter := declares.length_lt rest
        have first : Met passed ([] ++ declared ++ rest)
            ((byteLength (passed ++ []), spec) :: scan fuel (byteLength (passed ++ declared)) rest) :=
          .next skipped_nil declares (by
            rw [List.append_nil]
            exact ih (by rw [← split] at shorter; omega))
        simpa using first
      · have none_ : declaration? (c :: cs) = none := by simpa [begins_iff] using here
        have offset : byteLength passed + c.utf8Size = byteLength (passed ++ [c]) := by simp
        rw [scan, none_]
        dsimp only
        rw [offset]
        exact (ih (by simpa using enough)).cons here

/-- A scan reports what it meets, if its fuel is enough for the text. -/
theorem Met.eq_scan {fuel : Nat} (met : Met passed cs found) (enough : cs.length < fuel) :
    found = scan fuel (byteLength passed) cs := by
  induction met generalizing fuel with
  | @done passed cs nothing =>
    obtain ⟨more, rfl⟩ : ∃ more, fuel = cs.length + more := ⟨fuel - cs.length, by omega⟩
    have empty : scan more (byteLength passed + byteLength cs) [] = [] := by cases more <;> rfl
    rw [← empty, ← scan_skipped nothing, List.append_nil]
  | @next passed before declared rest spec found first declares later ih =>
    have shorter := declares.length_lt rest
    rw [List.append_assoc, List.length_append] at enough
    obtain ⟨more, rfl⟩ : ∃ more, fuel = before.length + (more + 1) :=
      ⟨fuel - before.length - 1, by omega⟩
    have less : rest.length < more := by omega
    rw [List.append_assoc, scan_skipped first, scan_declares declares, ih less]
    simp only [byteLength_append]

theorem met_iff {text : String} : Met [] text.toList found ↔ found = find text :=
  ⟨fun met => met.eq_scan (Nat.lt_succ_self _), fun same => same ▸ met_scan (Nat.lt_succ_self _)⟩

/-! ## What is met -/

/-- Whatever is met begins behind what was met before it. -/
theorem Met.ascending (met : Met passed cs found) :
    (∀ one ∈ found, byteLength passed ≤ one.1) ∧ (found.map Prod.fst).Pairwise (· < ·) := by
  induction met with
  | done nothing => simp
  | @next passed before declared rest spec found first declares later ih =>
    obtain ⟨behind, ascending⟩ := ih
    have some_ := declares.byteLength_pos
    simp only [byteLength_append] at behind
    refine ⟨?_, ?_⟩
    · rintro one member
      rcases List.mem_cons.mp member with rfl | member
      · simp
      · exact Nat.le_trans (by omega) (behind one member)
    · rw [List.map_cons, List.pairwise_cons]
      refine ⟨fun offset member => ?_, ascending⟩
      obtain ⟨one, among, rfl⟩ := List.mem_map.mp member
      have far := behind one among
      simp only [byteLength_append]
      omega

/-- Whatever is met is a declaration of the text at its offset. -/
theorem Met.declares (met : Met passed cs found) {offset : Nat} (member : (offset, spec) ∈ found) :
    ∃ before declared rest, passed ++ cs = before ++ declared ++ rest ∧ offset = byteLength before ∧
      Declares declared spec := by
  induction met with
  | done nothing => cases member
  | @next passed before declared rest first found skipped declares later ih =>
    rcases List.mem_cons.mp member with same | member
    · cases same
      exact ⟨passed ++ before, declared, rest, by simp, rfl, declares⟩
    · simpa using ih member

end TokenDesk.Assistant.NatSpec
