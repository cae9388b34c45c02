import TokenDesk.Proofs.Text.Runs
import TokenDesk.Text.Utf8

/-!
# Regular expressions

An expression takes the beginning of a text in several ways, which stand in the order in which they are
preferred: a repetition takes as much as it can, and an optional part is there if it can be. A search gives
the leftmost matches, of those that begin at one place the preferred one, and goes on behind each.
-/

set_option autoImplicit false

namespace TokenDesk.Text

inductive Expression where
  | literal (text : List Char)
  /-- Any number of characters of a class. -/
  | star (accepts : Char → Bool)
  /-- At least one character of a class. -/
  | plus (accepts : Char → Bool)
  | sequence (first second : Expression)
  | optional (inner : Expression)
  | capture (number : Nat) (inner : Expression)

namespace Expression

/-- One way to take the beginning of a text. -/
structure Way where
  taken : List Char
  rest : List Char
  /-- What the captures that had a part in it have taken. -/
  groups : List (Nat × List Char) := []

/-- The beginnings of a text that are of a class throughout, the longest first, and what is behind each. -/
def runs (accepts : Char → Bool) : List Char → List (List Char × List Char)
  | [] => [([], [])]
  | c :: cs =>
    if accepts c then (runs accepts cs).map (fun run => (c :: run.1, run.2)) ++ [([], c :: cs)]
    else [([], c :: cs)]

/-- The ways to take the beginning of a text, the preferred one first. -/
def ways : Expression → List Char → List Way
  | literal text, cs => ((after? text cs).map fun rest => ⟨text, rest, []⟩).toList
  | star accepts, cs => (runs accepts cs).map fun run => ⟨run.1, run.2, []⟩
  | plus accepts, cs =>
    ((runs accepts cs).filter fun run => !run.1.isEmpty).map fun run => ⟨run.1, run.2, []⟩
  | sequence first second, cs =>
    (ways first cs).flatMap fun before => (ways second before.rest).map fun behind =>
      ⟨before.taken ++ behind.taken, behind.rest, before.groups ++ behind.groups⟩
  | optional inner, cs => ways inner cs ++ [⟨[], cs, []⟩]
  | capture number inner, cs =>
    (ways inner cs).map fun way => { way with groups := (number, way.taken) :: way.groups }

/-- The leftmost matches of a text with their byte offsets, counted from `offset`. A search goes on behind
each match, and a character later where the match took nothing. -/
def search (e : Expression) (offset : Nat) (cs : List Char) : List (Nat × Way) :=
  match cs, (e.ways cs).head? with
  | [], none => []
  | [], some way => [(offset, way)]
  | c :: cs, none => search e (offset + c.utf8Size) cs
  | c :: cs, some way =>
    if way.rest.length ≤ cs.length then
      (offset, way) :: search e (offset + byteLength way.taken) way.rest
    else (offset, way) :: search e (offset + c.utf8Size) cs
  termination_by cs.length

variable {accepts : Char → Bool} {cs text taken rest : List Char} {groups : List (Nat × List Char)}

/-! ## Ways -/

theorem mem_runs_iff : (taken, rest) ∈ runs accepts cs ↔
    cs = taken ++ rest ∧ ∀ c ∈ taken, accepts c = true := by
  induction cs generalizing taken with
  | nil =>
    constructor
    · intro member
      cases List.mem_singleton.mp member
      simp
    · rintro ⟨split, -⟩
      obtain ⟨rfl, rfl⟩ := List.append_eq_nil_iff.mp split.symm
      exact List.mem_singleton_self _
  | cons c cs ih =>
    cases taken with
    | nil => rw [runs]; split <;> simp [eq_comm (a := rest)]
    | cons d taken =>
      have longer : (d :: taken, rest) ∈ runs accepts (c :: cs) ↔
          accepts c = true ∧ c = d ∧ (taken, rest) ∈ runs accepts cs := by
        rw [runs]
        by_cases accepted : accepts c = true
        · rw [if_pos accepted, List.mem_append, List.mem_map]
          constructor
          · rintro (⟨_, member, same⟩ | alone)
            · cases same
              exact ⟨accepted, rfl, member⟩
            · cases List.mem_singleton.mp alone
          · rintro ⟨-, rfl, member⟩
            exact .inl ⟨_, member, rfl⟩
        · simp [accepted]
      rw [longer, ih]
      simp only [List.cons_append, List.cons.injEq, List.forall_mem_cons]
      constructor
      · rintro ⟨accepted, rfl, split, all⟩
        exact ⟨⟨rfl, split⟩, accepted, all⟩
      · rintro ⟨⟨rfl, split⟩, accepted, all⟩
        exact ⟨accepted, rfl, split, all⟩

/-- What an expression takes and the groups it leaves, told by what it is made of. -/
def Takes : Expression → List Char → List (Nat × List Char) → Prop
  | literal text, taken, groups => taken = text ∧ groups = []
  | star accepts, taken, groups => (∀ c ∈ taken, accepts c = true) ∧ groups = []
  | plus accepts, taken, groups => taken ≠ [] ∧ (∀ c ∈ taken, accepts c = true) ∧ groups = []
  | sequence first second, taken, groups => ∃ before behind noted later, Takes first before noted ∧
      Takes second behind later ∧ taken = before ++ behind ∧ groups = noted ++ later
  | optional inner, taken, groups => Takes inner taken groups ∨ taken = [] ∧ groups = []
  | capture number inner, taken, groups => ∃ noted, Takes inner taken noted ∧
      groups = (number, taken) :: noted

/-- The ways into a text are its beginnings that the expression takes. -/
theorem mem_ways_iff {e : Expression} :
    ⟨taken, rest, groups⟩ ∈ ways e cs ↔ cs = taken ++ rest ∧ Takes e taken groups := by
  induction e generalizing cs taken rest groups with
  | literal text =>
    rw [ways, Takes]
    cases found : after? text cs with
    | none =>
      refine ⟨fun member => absurd member List.not_mem_nil, ?_⟩
      rintro ⟨split, rfl, -⟩
      rw [after?_eq_some_iff.mpr split] at found
      cases found
    | some behind =>
      obtain rfl := after?_eq_some_iff.mp found
      simp only [Option.map_some, Option.toList_some, List.mem_singleton, Way.mk.injEq]
      constructor
      · rintro ⟨rfl, rfl, rfl⟩
        exact ⟨rfl, rfl, rfl⟩
      · rintro ⟨split, rfl, rfl⟩
        exact ⟨rfl, (List.append_cancel_left split).symm, rfl⟩
  | star accepts =>
    rw [ways, Takes, ← and_assoc, ← mem_runs_iff, List.mem_map]
    constructor
    · rintro ⟨_, member, same⟩
      cases same
      exact ⟨member, rfl⟩
    · rintro ⟨member, rfl⟩
      exact ⟨_, member, rfl⟩
  | plus accepts =>
    rw [ways, Takes, and_left_comm, ← and_assoc (c := groups = []), ← mem_runs_iff, List.mem_map]
    constructor
    · rintro ⟨_, member, same⟩
      cases same
      obtain ⟨member, more⟩ := List.mem_filter.mp member
      exact ⟨by simpa using more, member, rfl⟩
    · rintro ⟨more, member, rfl⟩
      exact ⟨_, List.mem_filter.mpr ⟨member, by simpa using more⟩, rfl⟩
  | sequence first second one two =>
    simp only [ways, Takes, List.mem_flatMap, List.mem_map, Way.mk.injEq]
    constructor
    · rintro ⟨⟨before, middle, noted⟩, head, ⟨behind, _, later⟩, tail, rfl, rfl, rfl⟩
      obtain ⟨rfl, taken⟩ := one.mp head
      obtain ⟨rfl, more⟩ := two.mp tail
      exact ⟨(List.append_assoc _ _ _).symm, before, behind, noted, later, taken, more, rfl, rfl⟩
    · rintro ⟨rfl, before, behind, noted, later, taken, more, rfl, rfl⟩
      exact ⟨_, one.mpr ⟨List.append_assoc _ _ _, taken⟩, _, two.mpr ⟨rfl, more⟩, rfl, rfl, rfl⟩
  | optional inner ih =>
    simp only [ways, Takes, List.mem_append, ih, List.mem_singleton, Way.mk.injEq]
    constructor
    · rintro (⟨split, taken⟩ | ⟨rfl, rfl, rfl⟩)
      · exact ⟨split, .inl taken⟩
      · exact ⟨rfl, .inr ⟨rfl, rfl⟩⟩
    · rintro ⟨split, taken | ⟨rfl, rfl⟩⟩
      · exact .inl ⟨split, taken⟩
      · exact .inr ⟨rfl, split.symm, rfl⟩
  | capture number inner ih =>
    simp only [ways, Takes, List.mem_map, Way.mk.injEq]
    constructor
    · rintro ⟨⟨_, _, noted⟩, member, rfl, rfl, rfl⟩
      obtain ⟨split, taken⟩ := ih.mp member
      exact ⟨split, noted, taken, rfl⟩
    · rintro ⟨split, noted, taken, rfl⟩
      exact ⟨_, ih.mpr ⟨split, taken⟩, rfl, rfl, rfl⟩

/-! ## Searches -/

variable {e : Expression} {offset : Nat} {c : Char} {way : Way}

theorem search_nil (none_ : (e.ways []).head? = none) : e.search offset [] = [] := by
  unfold search
  rw [none_]

theorem search_passed (none_ : (e.ways (c :: cs)).head? = none) :
    e.search offset (c :: cs) = e.search (offset + c.utf8Size) cs := by
  rw [search.eq_def, none_]

theorem search_matched (some_ : (e.ways cs).head? = some way) (shorter : way.rest.length < cs.length) :
    e.search offset cs = (offset, way) :: e.search (offset + byteLength way.taken) way.rest := by
  cases cs with
  | nil => cases shorter
  | cons c cs =>
    rw [search.eq_def, some_]
    dsimp only
    rw [if_pos (Nat.le_of_lt_succ shorter)]

end Expression

end TokenDesk.Text
