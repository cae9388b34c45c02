import TokenDesk.Proofs.Files.Plain

/-!
# Canonical paths

Where nothing links elsewhere, a path leads where its text says: names go down, two dots go up and the rest stays
(`eq_landing_of_resolve`). Its canonical form is where it leads, unless the system does not look at one of the
names on the way, since the absolute path to it is too long (`canonicalize_eq_ok_iff`). The path of a place below
another is written by going on behind the upper one (`samePath_below`).
-/

set_option autoImplicit false

namespace TokenDesk

open TokenDesk.Text
open TokenDesk.Path (isIdle)

/-! ## Paths as texts -/

namespace Path

variable {path name : String}

/-- Where pieces lead by their text; the root is above itself. -/
def landing (at_ : Location) : List String → Location
  | [] => at_
  | piece :: pieces =>
    if isIdle piece then landing at_ pieces
    else if piece == ".." then landing at_.dropLast pieces
    else landing (at_ ++ [piece]) pieces

theorem landing_append (at_ : Location) (before after : List String) :
    landing at_ (before ++ after) = landing (landing at_ before) after := by
  induction before generalizing at_ with
  | nil => rfl
  | cons piece before ih =>
    rw [List.cons_append, landing, landing]
    split_ifs <;> exact ih _

theorem landing_name (at_ : Location) {name : String} (proper : isIdle name = false) (down : name ≠ "..") :
    landing at_ [name] = at_ ++ [name] := by
  simp [landing, proper, down]

/-- Paths are the same if their components are. -/
def SamePath (first second : String) : Prop :=
  components first = components second

instance (first second : String) : Decidable (SamePath first second) :=
  inferInstanceAs (Decidable (_ = _))

/-- What is written behind the path of a place for names below it. -/
def below : List String → String
  | [] => ""
  | name :: names => "/" ++ name ++ below names

theorem ofPieces_append_below {upper : List String} (some : upper ≠ []) (names : List String) :
    ofPieces upper ++ below names = ofPieces (upper ++ names) := by
  induction names generalizing upper with
  | nil => simp [below]
  | cons name names ih =>
    have next : ofPieces upper ++ ("/" ++ name) = ofPieces (upper ++ [name]) := by
      rw [ofPieces, ofPieces, String.intercalate_append_of_ne_nil some (by simp), String.append_assoc]
      simp
    rw [below, ← String.append_assoc, next, ih (by simp), List.append_assoc]
    rfl

theorem below_cons (name : String) (names : List String) :
    below (name :: names) = "/" ++ ofPieces (name :: names) := by
  have behind : ofPieces [name] ++ below names = ofPieces (name :: names) :=
    ofPieces_append_below (by simp) names
  rw [below, String.append_assoc, ← behind]
  simp [ofPieces]

theorem components_slash (text : String) : components ("/" ++ text) =
    (0, "") :: ((pieces text).filter fun piece => !isIdle piece).map fun piece =>
      if piece == ".." then (2, "") else (3, piece) := by
  have split : pieces ("/" ++ text) = "" :: pieces text := pieces_append_slash "" text
  have slash : isAbsolute ("/" ++ text) = true := by simp [isAbsolute]
  simp [components, parts, split, slash]

/-- A second slash at the beginning adds no component. -/
theorem samePath_slashes (text : String) : SamePath ("/" ++ ("/" ++ text)) ("/" ++ text) := by
  have split : pieces ("/" ++ text) = "" :: pieces text := pieces_append_slash "" text
  rw [SamePath, components_slash, components_slash, split, List.filter_cons_of_neg (by decide)]

example : SamePath "//ws/A.sol" "/ws/A.sol" := by decide

/-- The path of a place, followed by names, is the path of the place they lead to. -/
theorem samePath_below (at_ : Location) (names : List String) :
    SamePath (Files.absolute at_ ++ below names) (Files.absolute (at_ ++ names)) := by
  unfold Files.absolute
  rw [String.append_assoc]
  by_cases top : at_ = []
  · subst top
    cases names with
    | nil => rfl
    | cons name names =>
      rw [below_cons]
      simpa [ofPieces] using samePath_slashes (ofPieces (name :: names))
  · rw [ofPieces_append_below top]
    rfl

/-- A last name stands behind other pieces, and only idle ones behind it. -/
theorem exists_pieces_of_fileName? (found : fileName? path = some name) : ∃ before idle,
    pieces path = before ++ name :: idle ∧ (∀ piece ∈ idle, isIdle piece) ∧ isIdle name = false ∧
      name ≠ ".." := by
  unfold fileName? at found
  split at found
  case h_1 => cases found
  case h_2 last upper reversed =>
    split at found
    case isTrue => cases found
    case isFalse down =>
      cases found
      obtain ⟨idle, body, blank, proper⟩ := split_of_dropWhile reversed
      have there : path ≠ "" := ne_blank_of_body (by simp [body])
      refine ⟨(parts path).lead.pieces ++ upper.reverse, idle, ?_, blank, proper, by simpa using down⟩
      rw [pieces_parts there, body, List.append_assoc]

end Path

/-! ## Where they lead -/

namespace FileTree

variable {t : FileTree} {at_ place : Location} {pieces : List String}

theorem follow_head_eq_ok {piece : String} : t.follow at_ (piece :: pieces) = .ok place ↔
    ∃ next, t.follow at_ [piece] = .ok next ∧ t.follow next pieces = .ok place := by
  rw [← List.singleton_append, follow_append_eq_ok]

theorem eq_landing_of_follow (found : t.follow at_ pieces = .ok place) :
    place = Path.landing at_ pieces := by
  induction pieces generalizing at_ with
  | nil =>
    cases found
    rfl
  | cons piece pieces ih =>
    obtain ⟨-, next, step, rest⟩ := follow_cons_eq_ok.mp found
    rw [ih rest, Path.landing]
    cases step with
    | stay idle => simp [idle]
    | up dots =>
      subst dots
      have named : isIdle ".." = false := by decide
      simp [named]
    | down named proper short there => simp [named, proper]

/-- The names of a place lead to it from any place above. -/
theorem follow_of_standing (named : t.Named) (sound : t.WellFormed) {names : List String}
    (there : (t.get? (at_ ++ names)).isSome) : t.follow at_ names = .ok (at_ ++ names) := by
  induction names generalizing at_ with
  | nil => simp [follow]
  | cons name names ih =>
    have above := sound.directory_above (by simp) there
    rw [List.append_cons] at there ⊢
    have standing : (t.get? (at_ ++ [name])).isSome := by
      by_cases last : names = []
      · simpa [last] using there
      · simp [sound.directory_above last there]
    obtain ⟨entry, among⟩ := exists_entry (by simp) standing
    obtain ⟨⟨-, proper, down⟩, short, -⟩ := named _ among name (by simp)
    exact (Files.follow_name_eq_ok proper down).mpr ⟨above, short, standing, ih there⟩

theorem eq_of_follow_idle (idle : ∀ piece ∈ pieces, isIdle piece)
    (found : t.follow at_ pieces = .ok place) : place = at_ := by
  by_cases none : pieces = []
  · subst none
    cases found
    rfl
  · rw [follow_idle idle (directory_of_follow none found)] at found
    cases found
    rfl

end FileTree

namespace Files

variable {f : Files} {path : String} {at_ other : Location}

/-- Where a path leads by its text. -/
def landing (f : Files) (path : String) : Location :=
  Path.landing (f.origin path) (Path.pieces path)

theorem eq_landing_of_resolve (found : f.resolve path = .ok at_) : at_ = f.landing path :=
  FileTree.eq_landing_of_follow (resolve_eq_ok_iff.mp found).2.2

/-- A path leads to a place where something stands. -/
def Stands (f : Files) (path : String) (at_ : Location) : Prop :=
  f.resolve path = .ok at_ ∧ (f.tree.get? at_).isSome

theorem Stands.unique (first : f.Stands path at_) (second : f.Stands path other) : at_ = other := by
  obtain ⟨found, -⟩ := first
  obtain ⟨again, -⟩ := second
  cases found.symm.trans again
  rfl

/-- What a name leads to stands there, whatever idle pieces follow. -/
theorem stands_of_name {name : String} {before idle : List String}
    (split : Path.pieces path = before ++ name :: idle) (blank : ∀ piece ∈ idle, isIdle piece)
    (proper : isIdle name = false) (down : name ≠ "..") (found : f.resolve path = .ok at_) :
    f.Stands path at_ := by
  obtain ⟨-, -, way⟩ := resolve_eq_ok_iff.mp found
  rw [split, FileTree.follow_append_eq_ok] at way
  obtain ⟨upper, -, last⟩ := way
  obtain ⟨-, -, there, rest⟩ := (follow_name_eq_ok proper down).mp last
  cases FileTree.eq_of_follow_idle blank rest
  exact ⟨found, there⟩

/-! ## Canonical forms -/

/-- The system looks at every name among pieces that begin at a place: the path to it is not too long. -/
def Seen (at_ : Location) (pieces : List String) : Prop :=
  ∀ before name after, pieces = before ++ name :: after → isIdle name = false → name ≠ ".." →
    lookupSize (Path.landing at_ (before ++ [name])) after < pathLimit

/-- The system looks at every name on the way of a path. -/
def InSight (f : Files) (path : String) : Prop :=
  Seen (f.origin path) (Path.pieces path)

theorem seen_nil (at_ : Location) : Seen at_ [] := by
  intro before name after split
  simp at split

theorem seen_cons {piece : String} {pieces : List String} : Seen at_ (piece :: pieces) ↔
    (isIdle piece = false → piece ≠ ".." → lookupSize (at_ ++ [piece]) pieces < pathLimit) ∧
      Seen (Path.landing at_ [piece]) pieces := by
  constructor
  · intro seen
    constructor
    · intro proper down
      have first := seen [] piece pieces rfl proper down
      rwa [List.nil_append, Path.landing_name at_ proper down] at first
    · intro before name after split proper down
      rw [← Path.landing_append]
      exact seen (piece :: before) name after (by rw [split]; rfl) proper down
  · intro given before name after split proper down
    obtain ⟨first, later⟩ := given
    cases before with
    | nil =>
      cases split
      rw [List.nil_append, Path.landing_name at_ proper down]
      exact first proper down
    | cons other before =>
      cases split
      rw [← List.singleton_append, List.append_assoc, Path.landing_append]
      exact later before name after rfl proper down

variable {t : FileTree} {pieces : List String}

/-- Where a way leads, looking its names up leads if the system looks at all of them, and else to a refusal. -/
theorem lookUp_of_follow (found : t.follow at_ pieces = .ok other) :
    (Seen at_ pieces → lookUp t at_ pieces = .ok other) ∧
      (¬Seen at_ pieces → lookUp t at_ pieces = .error .nameTooLong) := by
  induction pieces generalizing at_ with
  | nil =>
    exact ⟨fun _ => found, fun hidden => absurd (seen_nil at_) hidden⟩
  | cons piece pieces ih =>
    obtain ⟨next, step, rest⟩ := FileTree.follow_head_eq_ok.mp found
    obtain ⟨looks, refuses⟩ := ih rest
    have turn : next = Path.landing at_ [piece] := FileTree.eq_landing_of_follow step
    rw [seen_cons, ← turn, lookUp, step]
    by_cases far : isIdle piece = false ∧ piece ≠ ".." ∧ pathLimit ≤ lookupSize (at_ ++ [piece]) pieces
    · obtain ⟨proper, down, long⟩ := far
      rw [if_pos (by simp [proper, down, long])]
      exact ⟨fun seen => absurd (seen.1 proper down) (Nat.not_lt.mpr long), fun _ => rfl⟩
    · have near : isIdle piece = false → piece ≠ ".." → lookupSize (at_ ++ [piece]) pieces < pathLimit :=
        fun proper down => Nat.not_le.mp fun long => far ⟨proper, down, long⟩
      rw [if_neg (by simpa [and_assoc] using far), and_iff_right near]
      exact ⟨looks, refuses⟩

theorem follow_of_lookUp (found : lookUp t at_ pieces = .ok other) : t.follow at_ pieces = .ok other := by
  induction pieces generalizing at_ with
  | nil => exact found
  | cons piece pieces ih =>
    rw [lookUp] at found
    split at found
    case isTrue => cases found
    case isFalse =>
      cases step : t.follow at_ [piece] with
      | error e =>
        rw [step] at found
        cases found
      | ok next =>
        rw [step] at found
        exact FileTree.follow_head_eq_ok.mpr ⟨next, step, ih found⟩

theorem canonicalize_of_text (some : path ≠ "") (clean : hasZero path = false) :
    f.canonicalize path = lookUp f.tree (f.origin path) (Path.pieces path) := by
  rw [canonicalize, if_neg (by simpa using some), if_neg (by simp [clean])]

/-- The canonical form of a path is where it leads, if the system looks at every name on the way. -/
theorem canonicalize_eq_ok_iff : f.canonicalize path = .ok at_ ↔ f.resolve path = .ok at_ ∧ f.InSight path := by
  constructor
  · intro found
    have text := found
    unfold canonicalize at text
    split at text
    case isTrue => cases text
    case isFalse some =>
      split at text
      case isTrue => cases text
      case isFalse clean =>
        have way := follow_of_lookUp text
        refine ⟨resolve_eq_ok_iff.mpr ⟨by simpa using some, by simpa using clean, way⟩, ?_⟩
        by_contra hidden
        rw [(lookUp_of_follow way).2 hidden] at text
        cases text
  · intro given
    obtain ⟨some, clean, way⟩ := resolve_eq_ok_iff.mp given.1
    rw [canonicalize_of_text some clean]
    exact (lookUp_of_follow way).1 given.2

/-- Where a path leads, only its length keeps it from its canonical form. -/
theorem canonicalize_of_hidden (found : f.resolve path = .ok at_) (hidden : ¬f.InSight path) :
    f.canonicalize path = .error .nameTooLong := by
  obtain ⟨some, clean, way⟩ := resolve_eq_ok_iff.mp found
  rw [canonicalize_of_text some clean]
  exact (lookUp_of_follow way).2 hidden

/-! ## How long the paths to places are -/

theorem size_absolute (named : at_ ≠ []) : (absolute at_).utf8ByteSize = total at_ := by
  have slash : "/".utf8ByteSize = 1 := by decide
  rw [absolute, String.utf8ByteSize_append, slash, total_of_ne_nil named, Nat.add_comm]

theorem lookupSize_le (at_ : Location) (name : String) (after : List String) :
    lookupSize (at_ ++ [name]) after ≤ total at_ + total (name :: after) := by
  rw [lookupSize, size_absolute (by simp), total_append, total_cons, total_cons, total]
  cases after with
  | nil =>
    simp [asksDirectory, total]
  | cons piece after =>
    rw [total_cons]
    split <;> omega

theorem total_landing_le (at_ : Location) (pieces : List String) :
    total (Path.landing at_ pieces) ≤ total at_ + total pieces := by
  induction pieces generalizing at_ with
  | nil => exact Nat.le_refl _
  | cons piece pieces ih =>
    have shorter : total at_.dropLast ≤ total at_ := total_le_of_sublist (List.dropLast_sublist at_)
    have longer : total (at_ ++ [piece]) = total at_ + (piece.utf8ByteSize + 1) := by
      rw [total_append, total_cons, total]
    rw [Path.landing, total_cons]
    split
    · exact Nat.le_trans (ih at_) (by omega)
    · split
      · exact Nat.le_trans (ih at_.dropLast) (by omega)
      · exact Nat.le_trans (ih (at_ ++ [piece])) (by omega)

/-- The system looks at every name of a path that, behind where it begins, is short enough itself. -/
theorem inSight_of_short (short : total (f.origin path) + path.utf8ByteSize + 1 < pathLimit) :
    f.InSight path := by
  intro before name after split proper down
  have whole := total_pieces path
  rw [split, total_append] at whole
  have upper := total_landing_le (f.origin path) before
  have size := lookupSize_le (Path.landing (f.origin path) before) name after
  rw [Path.landing_append, Path.landing_name _ proper down]
  omega

end Files

end TokenDesk
