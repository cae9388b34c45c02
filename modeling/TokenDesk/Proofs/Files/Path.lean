import TokenDesk.Files.Path
import TokenDesk.Proofs.Text.Split

/-!
# Path texts taken apart

A path and its pieces between slashes determine each other (`ofPieces_pieces`, `pieces_ofPieces`). The
path above another begins it, in its text and in its pieces (`parent?_above`).
-/

set_option autoImplicit false

namespace TokenDesk.Path

open TokenDesk.Text

/-! ## Pieces -/

/-- A text without slashes is one piece. -/
def IsPiece (text : String) : Prop :=
  '/' ∉ text.toList

instance (text : String) : Decidable (IsPiece text) :=
  inferInstanceAs (Decidable (¬_))

@[simp] theorem pieces_ne_nil (path : String) : pieces path ≠ [] := by
  simp [pieces, splitAll_eq_splitOn]

@[simp] theorem ofPieces_pieces (path : String) : ofPieces (pieces path) = path := by
  apply String.toList_inj.mp
  rw [ofPieces, String.toList_intercalate, pieces, List.map_map, splitAll_eq_splitOn]
  have asWritten : String.toList ∘ String.ofList = id := funext fun cs => by simp
  rw [asWritten, List.map_id]
  exact List.intercalate_splitOn '/'

theorem pieces_ofPieces {ps : List String} (some : ps ≠ []) (each : ∀ p ∈ ps, IsPiece p) :
    pieces (ofPieces ps) = ps := by
  have split : (['/'].intercalate (ps.map String.toList)).splitOn '/' = ps.map String.toList := by
    apply List.splitOn_intercalate
    · simpa [IsPiece] using each
    · simpa using some
  have asWritten : String.ofList ∘ String.toList = id := funext fun s => by simp
  rw [pieces, splitAll_eq_splitOn, ofPieces, String.toList_intercalate]
  change List.map String.ofList ((['/'].intercalate (ps.map String.toList)).splitOn '/') = ps
  rw [split, List.map_map, asWritten, List.map_id]

theorem pieces_of_isPiece {name : String} (piece : IsPiece name) : pieces name = [name] := by
  have alone : pieces (ofPieces [name]) = [name] :=
    pieces_ofPieces (by simp) (by simpa using piece)
  simpa [ofPieces] using alone

/-- A slash divides the pieces of a path. -/
theorem pieces_append_slash (base path : String) :
    pieces (base ++ "/" ++ path) = pieces base ++ pieces path := by
  simp only [pieces, splitAll_eq_splitOn, String.toList_append, ← List.map_append]
  change List.map String.ofList ((base.toList ++ ['/'] ++ path.toList).splitOn '/') = _
  rw [List.append_assoc, List.singleton_append, List.splitOn_append_cons_self]

theorem isPiece_of_mem_pieces (path : String) {piece : String} (member : piece ∈ pieces path) :
    IsPiece piece := by
  rw [pieces] at member
  obtain ⟨part, among, rfl⟩ := List.mem_map.mp member
  simpa [IsPiece] using notMem_of_mem_splitAll among

/-- What a piece holds stands in the path. -/
theorem mem_of_mem_pieces {path piece : String} (member : piece ∈ pieces path) {c : Char}
    (among : c ∈ piece.toList) : c ∈ path.toList := by
  rw [← ofPieces_pieces path, ofPieces, String.toList_intercalate]
  exact mem_intercalate '/' (List.mem_map_of_mem member) among

theorem isAbsolute_append {path : String} (named : path ≠ "") (more : String) :
    isAbsolute (path ++ more) = isAbsolute path := by
  have nonempty : path.toList ≠ [] := by simpa using named
  obtain ⟨c, cs, chars⟩ := List.exists_cons_of_ne_nil nonempty
  simp [isAbsolute, chars]

/-! ## The path above -/

/-- What a path begins with, as pieces. -/
def Lead.pieces : Lead → List String
  | .none => []
  | .root => [""]
  | .here => ["."]

theorem pieces_parts {path : String} (named : path ≠ "") :
    pieces path = (parts path).lead.pieces ++ (parts path).body := by
  have joined : ofPieces (pieces path) = path := ofPieces_pieces path
  unfold parts
  split
  case h_1 body split =>
    rw [split] at joined ⊢
    cases body with
    | nil => exact absurd joined.symm named
    | cons piece body =>
      have slash : isAbsolute path = true := by
        rw [← joined]
        simp [ofPieces, isAbsolute]
      simp [slash, Lead.pieces]
  case h_2 body split => rw [split, Lead.pieces, List.singleton_append]
  case h_3 => rw [Lead.pieces, List.nil_append]

theorem lead_of_isAbsolute {path : String} (absolute : isAbsolute path) :
    (parts path).lead = .root := by
  have slash : path.toList.head? = some '/' := by simpa [isAbsolute] using absolute
  obtain ⟨cs, chars⟩ := List.head?_eq_some_iff.mp slash
  have split : pieces path = "" :: (splitAll '/' cs).map String.ofList := by
    simp [pieces, chars, splitAll]
  simp [parts, split, absolute]

/-- A path without a directory above it has idle pieces only. -/
theorem idle_of_parent?_eq_none {path : String} (none : parent? path = none) :
    ∀ piece ∈ (parts path).body, isIdle piece := by
  unfold parent? at none
  dsimp only at none
  split at none
  case h_1 nothing =>
    have whole := List.takeWhile_append_dropWhile (p := isIdle) (l := (parts path).body.reverse)
    rw [nothing, List.append_nil] at whole
    intro piece member
    rw [← List.mem_reverse, ← whole] at member
    exact List.all_eq_true.mp List.all_takeWhile piece member
  case h_2 => cases none

theorem parent?_ne_blank {path : String} (absolute : isAbsolute path) :
    parent? path ≠ some "" := by
  unfold parent?
  dsimp only
  rw [lead_of_isAbsolute absolute]
  split <;> simp [Parts.text]

theorem text_eq (p : Parts) (named : p.lead = .root → p.body ≠ []) :
    p.text = ofPieces (p.lead.pieces ++ p.body) := by
  obtain ⟨lead, body⟩ := p
  cases lead with
  | none => rfl
  | root =>
    obtain ⟨piece, body, rfl⟩ := List.exists_cons_of_ne_nil (named rfl)
    simp [Parts.text, Lead.pieces, ofPieces]
  | here => cases body <;> simp [Parts.text, Lead.pieces, ofPieces]

/-- A path that stands above another: it begins its text and, idle pieces apart, its pieces. -/
structure Above (parent path : String) : Prop where
  text : ∃ rest, rest ≠ "" ∧ path = parent ++ rest
  pieces : ∃ before idle rest, Path.pieces parent = before ++ idle ∧
    (∀ piece ∈ idle, isIdle piece) ∧ rest ≠ [] ∧ Path.pieces path = before ++ rest

theorem above_of_pieces {path : String} {before rest : List String} (first : before ≠ [])
    (last : rest ≠ []) (split : pieces path = before ++ rest) : Above (ofPieces before) path := by
  have each (piece : String) (member : piece ∈ before) : IsPiece piece :=
    isPiece_of_mem_pieces path (by simp [split, member])
  refine ⟨⟨"/" ++ ofPieces rest, by simp, ?_⟩, before, [], rest, ?_, by simp, last, split⟩
  · calc path = ofPieces (before ++ rest) := by rw [← split, ofPieces_pieces]
      _ = ofPieces before ++ ("/" ++ ofPieces rest) := by
        rw [ofPieces, String.intercalate_append_of_ne_nil first last, String.append_assoc]
        rfl
  · rw [pieces_ofPieces first each, List.append_nil]

theorem above_root {path name : String} {rest : List String} (member : name ∈ rest)
    (named : name ≠ "") (split : pieces path = "" :: rest) : Above "/" path := by
  have last : rest ≠ [] := List.ne_nil_of_mem member
  refine ⟨⟨ofPieces rest, ?_, ?_⟩, [""], [""], rest, rfl, by simp [isIdle], last, split⟩
  · intro blank
    have each (piece : String) (among : piece ∈ rest) : IsPiece piece :=
      isPiece_of_mem_pieces path (by simp [split, among])
    have alone : rest = pieces "" := by rw [← pieces_ofPieces last each, blank]
    rw [alone] at member
    exact named (List.mem_singleton.mp member)
  · calc path = ofPieces ("" :: rest) := by rw [← split, ofPieces_pieces]
      _ = "/" ++ ofPieces rest := by
        rw [ofPieces, String.intercalate_cons_of_ne_nil last]
        rfl

/-- A piece that is not idle, and only idle ones behind it. -/
theorem split_of_dropWhile {pieces upper : List String} {last : String}
    (found : pieces.reverse.dropWhile isIdle = last :: upper) : ∃ idle,
    pieces = upper.reverse ++ last :: idle ∧ (∀ piece ∈ idle, isIdle piece) ∧ isIdle last = false := by
  have whole := List.takeWhile_append_dropWhile (p := isIdle) (l := pieces.reverse)
  rw [found] at whole
  refine ⟨(pieces.reverse.takeWhile isIdle).reverse, ?_, fun piece member => ?_, ?_⟩
  · simpa using (congrArg List.reverse whole).symm
  · exact List.all_eq_true.mp List.all_takeWhile piece (List.mem_reverse.mp member)
  · have first := List.head?_dropWhile_not isIdle pieces.reverse
    simpa [found] using first

theorem ne_blank_of_body {path : String} (some : (parts path).body ≠ []) : path ≠ "" := by
  rintro rfl
  exact some (by decide)

theorem parent?_split {path parent : String} (found : parent? path = some parent)
    (named : parent ≠ "") : ∃ upper rest name, (parts path).body = upper ++ rest ∧ name ∈ rest ∧
      name ≠ "" ∧ parent = Parts.text ⟨(parts path).lead, upper⟩ := by
  unfold parent? at found
  dsimp only at found
  split at found
  case h_1 =>
    split at found
    · exact absurd (Option.some.inj found).symm named
    · cases found
  case h_2 name before last =>
    obtain ⟨idle, body, -, proper⟩ := split_of_dropWhile last
    have inner := List.takeWhile_append_dropWhile (p := isIdle) (l := before)
    rw [← inner, List.reverse_append, List.append_assoc] at body
    refine ⟨_, _, name, body, by simp, ?_, (Option.some.inj found).symm⟩
    rintro rfl
    cases proper

theorem parent?_above {path parent : String} (found : parent? path = some parent)
    (named : parent ≠ "") : Above parent path := by
  obtain ⟨upper, rest, name, body, member, notBlank, written⟩ := parent?_split found named
  have last : rest ≠ [] := List.ne_nil_of_mem member
  have there : path ≠ "" := ne_blank_of_body (by simp [body, last])
  have split : pieces path = ((parts path).lead.pieces ++ upper) ++ rest := by
    rw [pieces_parts there, body, List.append_assoc]
  by_cases bare : (parts path).lead = .root ∧ upper = []
  · obtain ⟨root, rfl⟩ := bare
    rw [root] at split written
    have text : parent = "/" := by simp [written, Parts.text, ofPieces]
    rw [text]
    exact above_root member notBlank split
  · have text : parent = ofPieces ((parts path).lead.pieces ++ upper) := by
      rw [written]
      exact text_eq _ fun root => fun empty => bare ⟨root, empty⟩
    rw [text] at named ⊢
    refine above_of_pieces ?_ last split
    intro empty
    rw [empty] at named
    simp [ofPieces] at named

theorem Above.length_lt {parent path : String} (above : Above parent path) :
    parent.length < path.length := by
  obtain ⟨rest, some, rfl⟩ := above.text
  have positive : rest.length ≠ 0 := by simpa using some
  rw [String.length_append]
  omega

theorem Above.trans {upper parent path : String} (first : Above upper parent)
    (second : Above parent path) : Above upper path := by
  obtain ⟨⟨behind, some, text⟩, before, idle, rest, pieces, each, more, split⟩ := first
  obtain ⟨⟨behind', -, text'⟩, before', idle', rest', pieces', each', more', split'⟩ := second
  refine ⟨⟨behind ++ behind', by simp [some], by rw [text', text, String.append_assoc]⟩, ?_⟩
  rw [split] at pieces'
  rcases List.append_eq_append_iff.mp pieces' with ⟨further, same, -⟩ | ⟨further, same, tail⟩
  · refine ⟨before, idle, further ++ rest', pieces, each, by simp [more'], ?_⟩
    rw [split', same, List.append_assoc]
  · refine ⟨before', further ++ idle, rest', by rw [pieces, same, List.append_assoc], ?_, more', split'⟩
    intro piece member
    rcases List.mem_append.mp member with inner | outer
    · exact each' piece (by simp [tail, inner])
    · exact each piece outer

theorem Above.isAbsolute_eq {parent path : String} (above : Above parent path)
    (named : parent ≠ "") : isAbsolute path = isAbsolute parent := by
  obtain ⟨rest, -, rfl⟩ := above.text
  exact isAbsolute_append named rest

/-! ## Paths below a directory -/

/-- A text that can stand as a name between two slashes. -/
structure IsName (name : String) : Prop where
  piece : IsPiece name
  proper : isIdle name = false ∧ name ≠ ".."

theorem isName_iff {name : String} :
    IsName name ↔ IsPiece name ∧ isIdle name = false ∧ name ≠ ".." :=
  ⟨fun named => ⟨named.piece, named.proper⟩, fun ⟨piece, proper⟩ => ⟨piece, proper⟩⟩

instance (name : String) : Decidable (IsName name) :=
  decidable_of_iff _ isName_iff.symm

theorem IsName.ne_blank {name : String} (named : IsName name) : name ≠ "" := by
  rintro rfl
  exact absurd named.proper.1 (by decide)

theorem IsPiece.notAbsolute {name : String} (piece : IsPiece name) :
    isAbsolute name = false := by
  unfold IsPiece at piece
  unfold isAbsolute
  cases chars : name.toList with
  | nil => rfl
  | cons c cs =>
    rw [chars] at piece
    have other : c ≠ '/' := fun same => piece (by simp [same])
    simpa using other

theorem join_closed {base name : String} (piece : IsPiece name) (there : base ≠ "")
    (slash : base.toList.getLast? = some '/') : join base name = base ++ name := by
  rw [join, if_neg (by simp [piece.notAbsolute, there]), if_pos slash]

theorem join_open {base name : String} (piece : IsPiece name) (there : base ≠ "")
    (slash : base.toList.getLast? ≠ some '/') : join base name = base ++ "/" ++ name := by
  rw [join, if_neg (by simp [piece.notAbsolute, there]), if_neg slash]

/-- The pieces of a relative path stand behind those that lead to the base. -/
theorem pieces_join_relative {base path : String} (there : base ≠ "")
    (relative : isAbsolute path = false) :
    ∃ before, pieces (join base path) = before ++ pieces path ∧
      (pieces base = before ∨ pieces base = before ++ [""]) := by
  unfold join
  rw [if_neg (by simp [relative, there])]
  split
  case isTrue slash =>
    obtain ⟨cs, chars⟩ := List.getLast?_eq_some_iff.mp slash
    have base' : base = String.ofList cs ++ "/" ++ "" := by
      apply String.toList_inj.mp
      simp [chars]
    refine ⟨pieces (String.ofList cs), ?_, .inr ?_⟩
    · rw [base', String.append_empty, pieces_append_slash]
    · rw [base', pieces_append_slash]
      rfl
  case isFalse =>
    exact ⟨pieces base, by rw [pieces_append_slash], .inl rfl⟩

/-- A piece is the last one of its path; before it the pieces lead to the base. -/
theorem pieces_join {base name : String} (there : base ≠ "") (piece : IsPiece name) :
    ∃ before, pieces (join base name) = before ++ [name] ∧
      (pieces base = before ∨ pieces base = before ++ [""]) := by
  have split := pieces_join_relative there piece.notAbsolute
  rwa [pieces_of_isPiece piece] at split

theorem isAbsolute_join {base path : String} (there : base ≠ "")
    (relative : isAbsolute path = false) : isAbsolute (join base path) = isAbsolute base := by
  unfold join
  rw [if_neg (by simp [relative, there])]
  split
  · exact isAbsolute_append there path
  · rw [String.append_assoc]
    exact isAbsolute_append there _

theorem join_ne_blank {base path : String} (there : base ≠ "")
    (relative : isAbsolute path = false) : join base path ≠ "" := by
  unfold join
  rw [if_neg (by simp [relative, there])]
  split <;> simp [there]

/-- A path followed by names one after the other. -/
theorem pieces_join_all {base : String} {names : List String} (there : base ≠ "")
    (each : ∀ name ∈ names, IsPiece name ∧ name ≠ "") (some : names ≠ []) :
    ∃ before, pieces (names.foldl join base) = before ++ names ∧
      (pieces base = before ∨ pieces base = before ++ [""]) := by
  induction names generalizing base with
  | nil => exact absurd rfl some
  | cons name names ih =>
    obtain ⟨piece, named⟩ := each name (by simp)
    obtain ⟨before, first, begins⟩ := pieces_join there piece
    rw [List.foldl_cons]
    by_cases last : names = []
    · subst last
      exact ⟨before, first, begins⟩
    · obtain ⟨middle, whole, ends⟩ := ih (join_ne_blank there piece.notAbsolute)
        (fun other member => each other (by simp [member])) last
      have joined : middle = before ++ [name] := by
        rcases ends with exact | blank
        · rw [← exact, first]
        · rw [first] at blank
          obtain ⟨-, same⟩ := List.append_inj' blank rfl
          exact absurd (List.singleton_inj.mp same) named
      exact ⟨before, by rw [whole, joined, List.append_assoc]; rfl, begins⟩

theorem isAbsolute_join_all {base : String} {names : List String} (there : base ≠ "")
    (each : ∀ name ∈ names, IsPiece name) :
    isAbsolute (names.foldl join base) = isAbsolute base := by
  induction names generalizing base with
  | nil => rfl
  | cons name names ih =>
    have relative := (each name (by simp)).notAbsolute
    rw [List.foldl_cons, ih (join_ne_blank there relative)
      (fun other member => each other (by simp [member])), isAbsolute_join there relative]

end TokenDesk.Path
