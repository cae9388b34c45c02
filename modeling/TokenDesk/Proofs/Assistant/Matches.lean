import TokenDesk.Proofs.Assistant.Scan
import TokenDesk.Proofs.Text.Expression

/-!
# Declarations as matches

The declarations of a text are the matches of a regular expression (`pattern`). At one place it can match in
several ways, since the blanks around the bases belong to any of its parts, but what is reported is the same
for all of them: the name is maximal, and the bases are trimmed (`declares_of_takes`). So the leftmost matches
report what a scan meets (`find_matches`).
-/

set_option autoImplicit false

namespace TokenDesk.Assistant.NatSpec

open TokenDesk.Text Text.Expression

variable {spec : NatSpec} {cs between declared taken rest : List Char} {groups : List (Nat × List Char)}
  {inheritance? : Option String}

/-! ## The pattern -/

/-- The bases of a contract, the second group: `\s+is\s+([^\x7b]+)`. -/
def basesPattern : Expression :=
  .sequence (.plus isBlank) <| .sequence (.literal ['i', 's']) <| .sequence (.plus isBlank) <|
    .capture 2 (.plus (· != '\x7b'))

/-- A declaration, its name the first group: `contract\s+(\w+)(?:\s+is\s+([^\x7b]+))?\s*\x7b`. -/
def pattern : Expression :=
  .sequence (.literal "contract".toList) <| .sequence (.plus isBlank) <|
    .sequence (.capture 1 (.plus isWord)) <| .sequence (.optional basesPattern) <|
      .sequence (.star isBlank) (.literal ['\x7b'])

/-- What a match reports: the name, and the trimmed bases if there are any. -/
def reported (groups : List (Nat × List Char)) : NatSpec :=
  ⟨String.ofList ((groups.lookup 1).getD []), (groups.lookup 2).bind basesIn?⟩

theorem basesIn?_around {lead bases trail : List Char} (before : ∀ c ∈ lead, isBlank c = true)
    (behind : ∀ c ∈ trail, isBlank c = true) : basesIn? (lead ++ bases ++ trail) = basesIn? bases := by
  rw [basesIn?, trimChars_around before behind, basesIn?]

theorem takes_basesPattern_iff : basesPattern.Takes taken groups ↔
    ∃ gap lead bases, (gap ≠ [] ∧ ∀ c ∈ gap, isBlank c = true) ∧
      (lead ≠ [] ∧ ∀ c ∈ lead, isBlank c = true) ∧ (bases ≠ [] ∧ '\x7b' ∉ bases) ∧
      taken = gap ++ ['i', 's'] ++ lead ++ bases ∧ groups = [(2, bases)] := by
  have braceless (bases : List Char) : (∀ c ∈ bases, (c != '\x7b') = true) ↔ '\x7b' ∉ bases := by
    simp only [bne_iff_ne, List.forall_mem_ne']
  simp only [basesPattern, Takes, braceless]
  constructor
  · rintro ⟨gap, _, _, _, ⟨some_, blanks, rfl⟩, ⟨_, _, _, _, ⟨rfl, rfl⟩, ⟨lead, bases, _, _,
      ⟨more, others, rfl⟩, ⟨_, ⟨there, braceless, rfl⟩, rfl⟩, rfl, rfl⟩, rfl, rfl⟩, rfl, rfl⟩
    exact ⟨gap, lead, bases, ⟨some_, blanks⟩, ⟨more, others⟩, ⟨there, braceless⟩, by simp, rfl⟩
  · rintro ⟨gap, lead, bases, ⟨some_, blanks⟩, ⟨more, others⟩, ⟨there, braceless⟩, rfl, rfl⟩
    exact ⟨gap, _, [], _, ⟨some_, blanks, rfl⟩, ⟨_, _, [], _, ⟨rfl, rfl⟩, ⟨lead, bases, [], _,
      ⟨more, others, rfl⟩, ⟨[], ⟨there, braceless, rfl⟩, rfl⟩, rfl, rfl⟩, rfl, rfl⟩, by simp, rfl⟩

theorem takes_pattern_iff : pattern.Takes taken groups ↔
    ∃ gap name told trail noted, (gap ≠ [] ∧ ∀ c ∈ gap, isBlank c = true) ∧
      (name ≠ [] ∧ ∀ c ∈ name, isWord c = true) ∧ (optional basesPattern).Takes told noted ∧
      (∀ c ∈ trail, isBlank c = true) ∧
      taken = "contract".toList ++ gap ++ name ++ (told ++ trail) ++ ['\x7b'] ∧
      groups = (1, name) :: noted := by
  rw [pattern]
  generalize optional basesPattern = bases
  simp only [Takes]
  constructor
  · rintro ⟨_, _, _, _, ⟨rfl, rfl⟩, ⟨gap, _, _, _, ⟨some_, blanks, rfl⟩, ⟨name, _, _, _,
      ⟨_, ⟨named, words, rfl⟩, rfl⟩, ⟨told, _, noted, _, takes, ⟨trail, _, _, _, ⟨others, rfl⟩,
      ⟨rfl, rfl⟩, rfl, rfl⟩, rfl, rfl⟩, rfl, rfl⟩, rfl, rfl⟩, rfl, rfl⟩
    exact ⟨gap, name, told, trail, noted, ⟨some_, blanks⟩, ⟨named, words⟩, takes, others, by simp, by simp⟩
  · rintro ⟨gap, name, told, trail, noted, ⟨some_, blanks⟩, ⟨named, words⟩, takes, others, rfl, rfl⟩
    exact ⟨_, _, [], _, ⟨rfl, rfl⟩, ⟨gap, _, [], _, ⟨some_, blanks, rfl⟩, ⟨name, _, _, _,
      ⟨[], ⟨named, words, rfl⟩, rfl⟩, ⟨told, _, noted, _, takes, ⟨trail, _, [], [], ⟨others, rfl⟩,
      ⟨rfl, rfl⟩, rfl, rfl⟩, rfl, rfl⟩, rfl, rfl⟩, rfl, rfl⟩, by simp, by simp⟩

/-- However the blanks are shared out, the same bases are told. -/
theorem inherits_of_takes {told trail : List Char} (takes : (optional basesPattern).Takes told groups)
    (blanks : ∀ c ∈ trail, isBlank c = true) :
    Inherits (told ++ trail) ((groups.lookup 2).bind basesIn?) := by
  rcases takes with inner | ⟨rfl, rfl⟩
  · obtain ⟨gap, lead, bases, ⟨some_, gapBlanks⟩, ⟨more, leadBlanks⟩, ⟨there, braceless⟩, rfl, rfl⟩ :=
      takes_basesPattern_iff.mp inner
    obtain ⟨c, lead, rfl⟩ := List.exists_cons_of_ne_nil more
    have stretched : IsStretch (c :: lead ++ bases ++ trail) := by
      refine ⟨by simpa using leadBlanks c (by simp), ?_, ?_⟩
      · have length := List.length_pos_iff.mpr there
        simp only [List.length_append, List.length_cons]
        omega
      · simp only [List.mem_append, not_or]
        exact ⟨⟨notMem_of_blanks leadBlanks rfl, braceless⟩, notMem_of_blanks blanks rfl⟩
    have inherits := Inherits.bases some_ gapBlanks stretched
    rw [basesIn?_around leadBlanks blanks] at inherits
    simpa using inherits
  · exact .nothing (by simpa using blanks)

theorem exists_takes_of_inherits (inherits : Inherits between inheritance?) :
    ∃ told trail groups, (optional basesPattern).Takes told groups ∧ (∀ c ∈ trail, isBlank c = true) ∧
      between = told ++ trail := by
  cases inherits with
  | nothing blanks => exact ⟨[], between, [], .inr ⟨rfl, rfl⟩, blanks, rfl⟩
  | @bases gap stretch some_ blanks stretched =>
    obtain ⟨blank, long, braceless⟩ := stretched
    match stretch, long with
    | c :: d :: bases, _ =>
      refine ⟨gap ++ ['i', 's'] ++ [c] ++ d :: bases, [], _, .inl (takes_basesPattern_iff.mpr
        ⟨gap, [c], d :: bases, ⟨some_, blanks⟩, ⟨by simp, by simpa using blank⟩, ⟨by simp, ?_⟩, rfl, rfl⟩),
        by simp, by simp⟩
      exact List.not_mem_of_not_mem_cons braceless

/-- What the pattern takes is the declaration that it reports. -/
theorem declares_of_takes (takes : pattern.Takes declared groups) : Declares declared (reported groups) := by
  obtain ⟨gap, name, told, trail, noted, ⟨some_, blanks⟩, ⟨named, words⟩, bases, others, rfl, rfl⟩ :=
    takes_pattern_iff.mp takes
  have inherits := inherits_of_takes bases others
  have contract : (reported ((1, name) :: noted)).contract.toList = name := by simp [reported]
  refine ⟨?_, ?_, gap, told ++ trail, some_, blanks, inherits.apart [], inherits, by rw [contract]⟩
  · rw [contract]
    exact named
  · rw [contract]
    exact words

theorem exists_takes_of_declares (declares : Declares declared spec) :
    ∃ groups, pattern.Takes declared groups := by
  obtain ⟨gap, between, some_, blanks, -, inherits, rfl⟩ := declares.text
  obtain ⟨told, trail, groups, takes, others, rfl⟩ := exists_takes_of_inherits inherits
  exact ⟨_, takes_pattern_iff.mpr ⟨gap, spec.contract.toList, told, trail, groups, ⟨some_, blanks⟩,
    ⟨declares.named, declares.words⟩, takes, others, rfl, rfl⟩⟩

/-- The preferred way to match at a place reports the declaration there; there is none where no declaration
begins. -/
theorem declaration?_eq_head? (cs : List Char) : declaration? cs =
    (pattern.ways cs).head?.map fun way => (reported way.groups, way.rest) := by
  cases head : (pattern.ways cs).head? with
  | none =>
    have empty := List.head?_eq_none_iff.mp head
    cases found : declaration? cs with
    | none => rfl
    | some parts =>
      obtain ⟨declared, declares, split⟩ := declaration?_eq_some_iff.mp found
      obtain ⟨groups, takes⟩ := exists_takes_of_declares declares
      have member := mem_ways_iff.mpr ⟨split, takes⟩
      rw [empty] at member
      cases member
  | some way =>
    obtain ⟨taken, rest, groups⟩ := way
    obtain ⟨split, takes⟩ := mem_ways_iff.mp (List.mem_of_head? head)
    exact declaration?_eq_some_iff.mpr ⟨taken, declares_of_takes takes, split⟩

theorem search_eq_scan {fuel offset : Nat} (enough : cs.length < fuel) :
    (pattern.search offset cs).map (fun one => (one.1, reported one.2.groups)) = scan fuel offset cs := by
  induction fuel generalizing offset cs with
  | zero => cases enough
  | succ fuel ih =>
    have here := declaration?_eq_head? cs
    cases head : (pattern.ways cs).head? with
    | none =>
      rw [head] at here
      cases cs with
      | nil =>
        rw [search_nil head]
        rfl
      | cons c cs =>
        rw [search_passed head, scan, here]
        exact ih (by simpa using enough)
    | some way =>
      obtain ⟨split, takes⟩ := mem_ways_iff.mp (List.mem_of_head? head)
      have declares := declares_of_takes takes
      have shorter := declares.length_lt way.rest
      rw [← split] at shorter
      rw [search_matched head shorter, List.map_cons, ih (by omega), split, scan_declares declares]

/-- What is found is what a scan of the text meets, in the order of the offsets; each offset is that of a
character, where the declaration stands. It is also what the leftmost matches of the pattern report. -/
theorem find_matches (text : String) :
    (∀ found, Met [] text.toList found ↔ found = find text) ∧
      ((find text).map Prod.fst).Pairwise (· < ·) ∧
      (∀ offset spec, (offset, spec) ∈ find text → ∃ before declared rest,
        text.toList = before ++ declared ++ rest ∧ offset = byteLength before ∧ Declares declared spec) ∧
      find text = (pattern.search 0 text.toList).map fun one => (one.1, reported one.2.groups) := by
  have met : Met [] text.toList (find text) := met_iff.mpr rfl
  refine ⟨fun found => met_iff, met.ascending.2, fun offset spec member => ?_, ?_⟩
  · simpa using met.declares member
  · exact (search_eq_scan (Nat.lt_succ_self _)).symm

end TokenDesk.Assistant.NatSpec
