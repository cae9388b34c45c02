import TokenDesk.Files.Glob
import TokenDesk.Proofs.Files.Pattern
import TokenDesk.Proofs.Files.Writing

/-!
# What a path pattern finds

Every path that a pattern finds leads to something that exists, and the names that lead there from the
start fit the components of the pattern (`Fits`, `mem_glob`).
-/

set_option autoImplicit false

namespace TokenDesk

open TokenDesk.Text
open TokenDesk.Path (isIdle IsPiece IsName)

/-! ## Ways by names -/

namespace FileTree

variable {t : FileTree} {at_ place : Location}

/-- An idle piece before another one leads nowhere else. -/
theorem follow_skip {idle : String} {pieces : List String} (skipped : isIdle idle = true)
    (some : pieces ≠ []) : t.follow at_ (idle :: pieces) = t.follow at_ pieces := by
  obtain ⟨piece, pieces, rfl⟩ := List.exists_cons_of_ne_nil some
  rw [follow]
  cases found : t.get? at_ with
  | none => simp [follow, found]
  | some entry =>
    cases entry with
    | file bytes => simp [follow, found]
    | directory => simp [skipped]

/-- Idle pieces around a way do not change where it leads. -/
theorem follow_idle_around {before way after : List String}
    (idle : ∀ piece ∈ before ++ after, isIdle piece) (begins : t.get? at_ = some .directory)
    (ends : t.get? place = some .directory) :
    t.follow at_ (before ++ way ++ after) = .ok place ↔ t.follow at_ way = .ok place := by
  have first : t.follow at_ before = .ok at_ :=
    follow_idle (fun piece member => idle piece (by simp [member])) begins
  have last {stop : Location} (standing : t.get? stop = some .directory) :
      t.follow stop after = .ok stop :=
    follow_idle (fun piece member => idle piece (by simp [member])) standing
  rw [List.append_assoc, follow_append, first]
  change t.follow at_ (way ++ after) = .ok place ↔ _
  rw [follow_append_eq_ok]
  constructor
  · rintro ⟨stop, reached, onward⟩
    by_cases none : after = []
    · subst none
      cases onward
      exact reached
    · rw [last (directory_of_follow none onward)] at onward
      cases onward
      exact reached
  · intro reached
    exact ⟨place, reached, last ends⟩

/-- Names lead down. -/
theorem follow_names {names : List String} (each : ∀ name ∈ names, IsName name)
    (found : t.follow at_ names = .ok place) : place = at_ ++ names := by
  induction names generalizing at_ with
  | nil =>
    cases found
    simp
  | cons name names ih =>
    obtain ⟨idle, up⟩ := (each name (by simp)).proper
    obtain ⟨-, -, -, rest⟩ := (Files.follow_name_eq_ok idle up).mp found
    rw [ih (fun other member => each other (by simp [member])) rest, List.append_assoc]
    rfl

/-- All names in the tree can be written in a path, and are no longer than the system allows. -/
def Named (t : FileTree) : Prop :=
  ∀ e ∈ t.entries, ∀ name ∈ e.1,
    IsName name ∧ name.utf8ByteSize ≤ nameLimit ∧ Files.hasZero name = false

instance (t : FileTree) : Decidable t.Named :=
  inferInstanceAs (Decidable (∀ e ∈ t.entries, ∀ name ∈ e.1, _))

theorem Named.put (named : t.Named) (each : ∀ name ∈ at_,
    IsName name ∧ name.utf8ByteSize ≤ nameLimit ∧ Files.hasZero name = false) (entry : Entry) :
    (t.put at_ entry).Named := by
  intro e member
  rcases List.mem_cons.mp member with same | other
  · rw [same]
    exact each
  · exact named e (List.mem_filter.mp other).1

theorem Named.of_isSome (named : t.Named) (there : (t.get? at_).isSome) :
    ∀ name ∈ at_, IsName name := by
  cases at_ with
  | nil => simp
  | cons first names =>
    rw [get?] at there
    obtain ⟨entry, found⟩ := Option.isSome_iff_exists.mp there
    obtain ⟨before, after, whole, -⟩ := List.lookup_eq_some_iff.mp found
    intro name member
    exact (named (first :: names, entry) (by simp [whole]) name member).1

/-- A way that begins among names ends among names. -/
theorem Named.follow (named : t.Named) {pieces : List String} (begins : ∀ name ∈ at_, IsName name)
    (found : t.follow at_ pieces = .ok place) : ∀ name ∈ place, IsName name := by
  induction pieces generalizing at_ with
  | nil =>
    cases found
    exact begins
  | cons piece pieces ih =>
    obtain ⟨-, next, step, rest⟩ := follow_cons_eq_ok.mp found
    cases step with
    | stay => exact ih begins rest
    | up => exact ih (fun name member => begins name (List.dropLast_subset _ member)) rest
    | down named' proper short there => exact ih (named.of_isSome there) rest

theorem exists_of_mem_names {name : String} (member : name ∈ t.names at_) :
    ∃ e ∈ t.entries, e.1 = at_ ++ [name] := by
  rw [names, List.mem_mergeSort, List.mem_eraseDups, List.mem_filterMap] at member
  obtain ⟨e, among, below⟩ := member
  unfold nameBelow? at below
  split at below
  case isTrue above =>
    obtain ⟨upper, whole⟩ := List.getLast?_eq_some_iff.mp below
    refine ⟨e, among, ?_⟩
    rw [whole, ← eq_of_beq above, whole, List.dropLast_concat]
  case isFalse => cases below

theorem isSome_of_mem {e : Location × Entry} (member : e ∈ t.entries) : (t.get? e.1).isSome := by
  obtain ⟨names, entry⟩ := e
  cases names with
  | nil => rfl
  | cons name names =>
    rw [get?, Option.isSome_iff_ne_none]
    intro absent
    simpa using List.lookup_eq_none_iff.mp absent _ member

theorem exists_entry (named : at_ ≠ []) (there : (t.get? at_).isSome) :
    ∃ entry, (at_, entry) ∈ t.entries := by
  obtain ⟨first, names, rfl⟩ := List.exists_cons_of_ne_nil named
  obtain ⟨entry, found⟩ := Option.isSome_iff_exists.mp there
  obtain ⟨before, after, whole, -⟩ := List.lookup_eq_some_iff.mp found
  exact ⟨entry, by simp [whole]⟩

end FileTree

theorem FileTree.Named.resolve {f : Files} {path : String} {at_ : Location} (named : f.tree.Named)
    (found : f.resolve path = .ok at_) : ∀ name ∈ at_, IsName name := by
  obtain ⟨-, -, way⟩ := Files.resolve_eq_ok_iff.mp found
  have begins := FileTree.directory_of_follow (Path.pieces_ne_nil path) way
  exact named.follow (named.of_isSome (by rw [begins]; rfl)) way

/-! ## Paths that go on -/

theorem Path.fileName?_of_pieces {path name : String} {before : List String} (named : IsName name)
    (split : Path.pieces path = before ++ [name]) : Path.fileName? path = some name := by
  have idle : isIdle name = false := named.proper.1
  have there : path ≠ "" := by
    rintro rfl
    have blank : [""] = before ++ [name] := split
    have same : name = "" := by simpa using (congrArg List.getLast? blank).symm
    rw [same] at idle
    cases idle
  have last : ∃ upper, (Path.parts path).body = upper ++ [name] := by
    have whole := Path.pieces_parts there
    rw [split] at whole
    rcases List.eq_nil_or_concat (Path.parts path).body with none | ⟨upper, other, some⟩
    · -- A lead alone is idle, so it is not where the name stands.
      rw [none, List.append_nil] at whole
      have member : name ∈ (Path.parts path).lead.pieces := by simp [← whole]
      cases lead : (Path.parts path).lead <;> rw [lead] at member <;>
        simp [Path.Lead.pieces] at member <;> rw [member] at idle <;> cases idle
    · rw [List.concat_eq_append] at some
      rw [some, ← List.append_assoc] at whole
      obtain ⟨-, same⟩ := List.append_inj' whole rfl
      exact ⟨upper, by rw [some, ← same]⟩
  obtain ⟨upper, body⟩ := last
  have down : (name == "..") = false := by simpa using named.proper.2
  unfold Path.fileName?
  rw [body, List.reverse_append]
  simp [idle, down]

namespace Files

variable {f : Files} {path next last p name : String} {at_ place : Location} {names more : List String}

theorem resolve_of_locate (found : f.locate path = .ok at_) : f.resolve path = .ok at_ := by
  unfold locate at found
  split at found
  · cases found
  · exact found

theorem resolve_of_isDirectory (directory : f.isDirectory path = true) :
    ∃ at_, f.resolve path = .ok at_ ∧ f.tree.get? at_ = some .directory := by
  obtain ⟨at_, found, standing⟩ := isDirectory_iff.mp directory
  exact ⟨at_, resolve_of_locate found, standing⟩

theorem resolve_of_exists (there : f.exists? path = true) : ∃ at_, f.resolve path = .ok at_ := by
  unfold exists? entry? at there
  cases found : f.locate path with
  | error e => simp [found] at there
  | ok at_ => exact ⟨at_, resolve_of_locate found⟩

/-- A path that goes on from another by names, as it is written on the way down. -/
inductive Extends (path : String) : String → List String → Prop
  | refl : Extends path path []
  | step {next last name : String} {names : List String} (before : Extends path next names)
      (piece : IsPiece name) (written : last = entryPath next name ∨ last = Path.join next name)
      (some : last ≠ "") : Extends path last (names ++ [name])

theorem Extends.ne_blank (there : path ≠ "") (goes : Extends path next names) : next ≠ "" := by
  cases goes with
  | refl => exact there
  | step _ _ _ some => exact some

/-- How a path is written that goes on by one piece. -/
theorem written_cases
    (written : last = entryPath next name ∨ last = Path.join next name) :
    (next = "." ∧ last = name) ∨ last = Path.join next name := by
  rcases written with rfl | rfl
  · unfold entryPath
    split
    case isTrue here => exact .inl ⟨eq_of_beq here, rfl⟩
    case isFalse => exact .inr rfl
  · exact .inr rfl

theorem Extends.isAbsolute (there : path ≠ "") (goes : Extends path next names) :
    Path.isAbsolute next = Path.isAbsolute path := by
  induction goes with
  | refl => rfl
  | step before piece written some ih =>
    rcases written_cases written with ⟨rfl, rfl⟩ | rfl
    · rw [← ih, piece.notAbsolute]
      rfl
    · rw [← ih, Path.isAbsolute_join (before.ne_blank there) piece.notAbsolute]

/-- Such a path leads where the names lead from where the path leads. -/
theorem Extends.follow (there : path ≠ "") (goes : Extends path next names) (t : FileTree)
    (at_ : Location) :
    t.follow at_ (Path.pieces next) = t.follow at_ (Path.pieces path ++ names) := by
  induction goes with
  | refl => rw [List.append_nil]
  | @step next last name names before piece written some ih =>
    have upper : t.follow at_ (Path.pieces next ++ [name]) =
        t.follow at_ (Path.pieces path ++ (names ++ [name])) := by
      rw [← List.append_assoc, FileTree.follow_append, ih, ← FileTree.follow_append]
    rw [← upper]
    rcases written_cases written with ⟨rfl, rfl⟩ | rfl
    · rw [Path.pieces_of_isPiece piece]
      exact (FileTree.follow_skip rfl (by simp)).symm
    · obtain ⟨start, whole, base⟩ := Path.pieces_join (before.ne_blank there) piece
      rw [whole]
      rcases base with same | same
      · rw [same]
      · rw [same, List.append_assoc, FileTree.follow_append, FileTree.follow_append]
        congr 1
        funext half
        exact (FileTree.follow_skip rfl (by simp)).symm

theorem Extends.pieces_eq (there : path ≠ "") (goes : Extends path next (names ++ [name])) :
    ∃ before, Path.pieces next = before ++ [name] := by
  generalize whole : names ++ [name] = all at goes
  cases goes with
  | refl => simp at whole
  | step before piece written some =>
    obtain ⟨-, same⟩ := List.append_inj' whole rfl
    cases same
    rcases written_cases written with ⟨rfl, rfl⟩ | rfl
    · exact ⟨[], Path.pieces_of_isPiece piece⟩
    · obtain ⟨start, split, -⟩ := Path.pieces_join (before.ne_blank there) piece
      exact ⟨start, split⟩

theorem Extends.trans (first : Extends path next names) (second : Extends next last more) :
    Extends path last (names ++ more) := by
  induction second with
  | refl => rwa [List.append_nil]
  | step before piece written some ih =>
    rw [← List.append_assoc]
    exact .step ih piece written some

theorem Extends.isPiece (goes : Extends path next names) : ∀ name ∈ names, IsPiece name := by
  induction goes with
  | refl => simp
  | step before piece written some ih =>
    intro name member
    rcases List.mem_append.mp member with early | late
    · exact ih name early
    · rwa [List.mem_singleton.mp late]

theorem hasZero_join {base : String} (first : hasZero base = false) (second : hasZero name = false) :
    hasZero (Path.join base name) = false := by
  unfold Path.join
  unfold hasZero at first second ⊢
  split
  · exact second
  · split <;> simp_all

/-- A relative path behind a directory is followed from there. -/
theorem resolve_join_iff {base : String} (from_ : f.resolve base = .ok at_)
    (standing : f.tree.get? at_ = some .directory) (relative : Path.isAbsolute path = false)
    (clean : hasZero path = false) :
    f.resolve (Path.join base path) = .ok place ↔
      f.tree.follow at_ (Path.pieces path) = .ok place := by
  obtain ⟨there, zero, way⟩ := resolve_eq_ok_iff.mp from_
  obtain ⟨before, joined, begins⟩ := Path.pieces_join_relative there relative
  have upper : f.tree.follow (f.origin base) before = .ok at_ := by
    rcases begins with exact | slash
    · rwa [← exact]
    · have idle : ∀ piece ∈ [] ++ [""], isIdle piece := by decide
      have first := FileTree.directory_of_follow (Path.pieces_ne_nil _) way
      rw [slash] at way
      exact (FileTree.follow_idle_around idle first standing).mp way
  have origin : f.origin (Path.join base path) = f.origin base := by
    rw [Files.origin, Path.isAbsolute_join there relative, ← Files.origin]
  rw [resolve_eq_ok_iff, origin, joined, FileTree.follow_append, upper]
  simp only [Path.join_ne_blank there relative, hasZero_join zero clean, ne_eq,
    not_false_eq_true, true_and]
  rfl

theorem hasZero_written (first : hasZero next = false) (second : hasZero name = false)
    (written : last = entryPath next name ∨ last = Path.join next name) : hasZero last = false := by
  rcases written_cases written with ⟨-, rfl⟩ | rfl
  · exact second
  · exact hasZero_join first second

/-- Where a path goes on, and the name leads somewhere, the path leads there. -/
theorem resolve_written (from_ : f.resolve path = .ok at_) (piece : IsPiece name)
    (clean : hasZero name = false) (written : last = entryPath path name ∨ last = Path.join path name)
    (some : last ≠ "") (leads : f.tree.follow at_ [name] = .ok place) :
    Extends path last [name] ∧ f.resolve last = .ok place := by
  obtain ⟨there, zero, way⟩ := resolve_eq_ok_iff.mp from_
  have goes : Extends path last [name] := .step .refl piece written some
  refine ⟨goes, resolve_eq_ok_iff.mpr ⟨some, hasZero_written zero clean written, ?_⟩⟩
  rw [origin, goes.isAbsolute there, ← origin, goes.follow there,
    FileTree.follow_append_eq_ok]
  exact ⟨at_, way, leads⟩

/-- Conversely, the names lead where the longer path does. -/
theorem Extends.follow_of_resolve (goes : Extends path next names) (from_ : f.resolve path = .ok at_)
    (found : f.resolve next = .ok place) : f.tree.follow at_ names = .ok place := by
  obtain ⟨there, -, way⟩ := resolve_eq_ok_iff.mp from_
  obtain ⟨-, -, onward⟩ := resolve_eq_ok_iff.mp found
  rw [origin, goes.isAbsolute there, ← origin, goes.follow there] at onward
  obtain ⟨half, first, second⟩ := FileTree.follow_append_eq_ok.mp onward
  rw [way] at first
  cases first
  exact second

/-! ## Entries of directories -/

theorem mem_list (listed : name ∈ f.list path) : ∃ at_, f.resolve path = .ok at_ ∧
    f.tree.get? at_ = some .directory ∧ name ∈ f.tree.names at_ := by
  unfold list at listed
  cases found : f.locate path with
  | error e => simp [found] at listed
  | ok at_ =>
    rw [found] at listed
    dsimp only at listed
    split at listed
    case isTrue directory =>
      exact ⟨at_, resolve_of_locate found, by simpa [FileTree.isDirectoryAt] using directory, listed⟩
    case isFalse => cases listed

theorem nameOf_of_pieces {before : List String} (named : IsName name)
    (split : Path.pieces path = before ++ [name]) : nameOf path = name.toList := by
  rw [nameOf, Path.fileName?_of_pieces named split, Option.getD_some]

/-- Where something stands right below a directory, the longer path leads there. -/
theorem resolve_entry (named : f.tree.Named) (from_ : f.resolve path = .ok at_)
    (directory : f.tree.get? at_ = some .directory) (there : (f.tree.get? (at_ ++ [name])).isSome) :
    IsName name ∧ Extends path (entryPath path name) [name] ∧
      f.resolve (entryPath path name) = .ok (at_ ++ [name]) ∧
      nameOf (entryPath path name) = name.toList := by
  obtain ⟨blank, -, -⟩ := resolve_eq_ok_iff.mp from_
  obtain ⟨entry, member⟩ := FileTree.exists_entry (by simp) there
  obtain ⟨proper, short, clean⟩ := named _ member name (by simp)
  have leads : f.tree.follow at_ [name] = .ok (at_ ++ [name]) :=
    (follow_name_eq_ok proper.proper.1 proper.proper.2).mpr ⟨directory, short, there, rfl⟩
  have some : entryPath path name ≠ "" := by
    rcases written_cases (.inl rfl) with ⟨-, same⟩ | same
    · rw [same]
      exact proper.ne_blank
    · rw [same]
      exact Path.join_ne_blank blank proper.piece.notAbsolute
  obtain ⟨goes, found⟩ := resolve_written from_ proper.piece clean (.inl rfl) some leads
  have last : Extends path (entryPath path name) ([] ++ [name]) := goes
  obtain ⟨before, split⟩ := last.pieces_eq blank
  exact ⟨proper, goes, found, nameOf_of_pieces proper split⟩

/-- A name that is listed leads to an entry. -/
theorem resolve_listed (named : f.tree.Named) (from_ : f.resolve path = .ok at_)
    (listed : name ∈ f.list path) : IsName name ∧ Extends path (entryPath path name) [name] ∧
      f.resolve (entryPath path name) = .ok (at_ ++ [name]) ∧
      nameOf (entryPath path name) = name.toList := by
  obtain ⟨other, found, directory, among⟩ := mem_list listed
  rw [from_] at found
  cases found
  obtain ⟨e, member, place⟩ := FileTree.exists_of_mem_names among
  apply resolve_entry named from_ directory
  rw [← place]
  exact FileTree.isSome_of_mem member

/-- What stands below a directory, at any depth. -/
theorem mem_below (named : f.tree.Named) {depth : Nat} (from_ : f.resolve path = .ok at_)
    (member : p ∈ f.below depth path) : ∃ upper name, (∀ other ∈ upper ++ [name], IsName other) ∧
      Extends path p (upper ++ [name]) ∧ f.resolve p = .ok (at_ ++ (upper ++ [name])) ∧
      nameOf p = name.toList := by
  induction depth generalizing path at_ with
  | zero => cases member
  | succ depth ih =>
    rw [below, List.mem_flatMap] at member
    obtain ⟨name, listed, among⟩ := member
    obtain ⟨proper, goes, found, last⟩ := resolve_listed named from_ listed
    dsimp only at among
    rcases List.mem_cons.mp among with rfl | deeper
    · exact ⟨[], name, by simpa using proper, goes, found, last⟩
    · split at deeper
      case isFalse => cases deeper
      case isTrue =>
        obtain ⟨upper, other, each, more, onward, last⟩ := ih found deeper
        refine ⟨name :: upper, other, ?_, goes.trans more, ?_, last⟩
        · intro any member
          rcases List.mem_cons.mp member with rfl | rest
          · exact proper
          · exact each any rest
        · rw [onward, List.append_assoc]
          rfl

/-! ## Steps and names -/

/-- The names fit the components of a path pattern. -/
inductive Fits : List Step → List String → Prop
  | nil : Fits [] []
  /-- A component without wildcards stands for itself. -/
  | name {step : Step} {steps : List Step} {cs : List Char} {names : List String}
      (only : Pattern.literal? step = some cs) (rest : Fits steps names) :
      Fits (step :: steps) (String.ofList cs :: names)
  /-- A component with wildcards stands for a name that it accepts. -/
  | wild {step : Step} {steps : List Step} {name : String} {names : List String}
      (several : Pattern.literal? step = none ∧ step ≠ [.anyDepth])
      (accepted : Pattern.accepts step name.toList = true) (rest : Fits steps names) :
      Fits (step :: steps) (name :: names)
  /-- Two stars stand for directories on the way down. -/
  | depth {steps : List Step} {upper names : List String} (each : ∀ name ∈ upper, IsName name)
      (rest : Fits steps names) : Fits ([.anyDepth] :: steps) (upper ++ names)

theorem Fits.of_accepts {step : Step} {steps : List Step} (deep : step ≠ [.anyDepth])
    (accepted : Pattern.accepts step name.toList = true) (rest : Fits steps names) :
    Fits (step :: steps) (name :: names) := by
  cases only : Pattern.literal? step with
  | none => exact .wild ⟨only, deep⟩ accepted rest
  | some cs =>
    rw [Pattern.eq_chars_of_literal? only] at accepted
    have same : name = String.ofList cs := by
      rw [← Pattern.accepts_chars.mp accepted, String.ofList_toList]
    rw [same]
    exact .name only rest

theorem Fits.of_dropDepths {steps : List Step} (fits : Fits (dropDepths steps) names) :
    Fits steps names := by
  induction steps with
  | nil => exact fits
  | cons step steps ih =>
    unfold dropDepths at fits ih
    rw [List.dropWhile_cons] at fits
    split at fits
    case isTrue deep =>
      rw [eq_of_beq deep]
      have none : ∀ name ∈ ([] : List String), IsName name := by simp
      exact .depth none (ih fits)
    case isFalse => exact fits

theorem Fits.append {first second : List Step} (fits : Fits (first ++ second) names) :
    ∃ before after, names = before ++ after ∧ Fits first before ∧ Fits second after := by
  induction first generalizing names with
  | nil => exact ⟨[], names, rfl, .nil, fits⟩
  | cons step first ih =>
    rw [List.cons_append] at fits
    cases fits with
    | name only rest =>
      obtain ⟨before, after, rfl, left, right⟩ := ih rest
      exact ⟨_ :: before, after, rfl, .name only left, right⟩
    | wild several accepted rest =>
      obtain ⟨before, after, rfl, left, right⟩ := ih rest
      exact ⟨_ :: before, after, rfl, .wild several accepted left, right⟩
    | @depth _ upper _ each rest =>
      obtain ⟨before, after, rfl, left, right⟩ := ih rest
      exact ⟨upper ++ before, after, (List.append_assoc _ _ _).symm, .depth each left, right⟩

/-- Components without wildcards stand for exactly their texts. -/
theorem Fits.eq_of_chars {texts : List String}
    (fits : Fits (texts.map fun text => text.toList.map .char) names) : names = texts := by
  induction texts generalizing names with
  | nil =>
    cases fits
    rfl
  | cons text texts ih =>
    have only := Pattern.literal?_chars text.toList
    generalize shape : List.map Pattern.Token.char text.toList = step at fits only
    rw [List.map_cons, shape] at fits
    cases fits with
    | name other rest =>
      rw [only] at other
      cases other
      rw [ih rest, String.ofList_toList]
    | wild several accepted rest =>
      rw [only] at several
      cases several.1
    | depth each rest => cases only

/-- The components that stand for themselves are pieces. -/
def Legal (steps : List Step) : Prop :=
  ∀ step ∈ steps, ∀ cs, Pattern.literal? step = some cs → '/' ∉ cs

/-- In a directory the dots lead somewhere, however they are written behind it. -/
theorem resolve_dots (from_ : f.resolve path = .ok at_) (directory : f.isDirectory path = true)
    (dots : name = "." ∨ name = "..")
    (written : last = entryPath path name ∨ last = Path.join path name) :
    ∃ place, Extends path last [name] ∧ f.resolve last = .ok place := by
  obtain ⟨other, located, standing⟩ := resolve_of_isDirectory directory
  rw [from_] at located
  cases located
  have dot : IsPiece name ∧ hasZero name = false ∧ name ≠ "" := by
    rcases dots with rfl | rfl <;> decide
  have some : last ≠ "" := by
    rcases written_cases written with ⟨-, same⟩ | same
    · exact same ▸ dot.2.2
    · exact same ▸ Path.join_ne_blank (resolve_eq_ok_iff.mp from_).1 dot.1.notAbsolute
  have leads : ∃ place, f.tree.follow at_ [name] = .ok place := by
    rcases dots with rfl | rfl
    · exact ⟨at_, FileTree.follow_idle (by simp [isIdle]) standing⟩
    · exact ⟨at_.dropLast, by simp [FileTree.follow, standing, isIdle]⟩
  obtain ⟨place, leads⟩ := leads
  exact ⟨place, resolve_written from_ dot.1 dot.2.1 written some leads⟩

/-- A component without wildcards, where it is found. -/
theorem resolve_literal (from_ : f.resolve path = .ok at_) (piece : IsPiece name)
    (found : (if name == "." || name == ".." then f.isDirectory path
      else f.exists? (entryPath path name)) = true) :
    ∃ place, Extends path (entryPath path name) [name] ∧
      f.resolve (entryPath path name) = .ok place := by
  split at found
  case isTrue dots => exact resolve_dots from_ found (by simpa using dots) (.inl rfl)
  case isFalse =>
    obtain ⟨place, located⟩ := resolve_of_exists found
    exact ⟨place, .step .refl piece (.inl rfl) (resolve_eq_ok_iff.mp located).1, located⟩

/-- A component with wildcards, held against the names in a directory. -/
theorem resolve_wild (named : f.tree.Named) (from_ : f.resolve path = .ok at_)
    (directory : f.isDirectory path = true) {step : Step}
    (chosen : p ∈ (((f.list path).map (entryPath path)).filter fun entry =>
        Pattern.accepts step (nameOf entry)) ++ (dotEntries step).map (Path.join path)) :
    ∃ name place, Pattern.accepts step name.toList = true ∧ Extends path p [name] ∧
      f.resolve p = .ok place := by
  rcases List.mem_append.mp chosen with entry | dot
  · obtain ⟨among, accepted⟩ := List.mem_filter.mp entry
    obtain ⟨name, listed, rfl⟩ := List.mem_map.mp among
    obtain ⟨-, goes, found, last⟩ := resolve_listed named from_ listed
    rw [last] at accepted
    exact ⟨name, _, accepted, goes, found⟩
  · obtain ⟨name, among, rfl⟩ := List.mem_map.mp dot
    unfold dotEntries at among
    obtain ⟨-, among⟩ := List.mem_ite_nil_right.mp among
    obtain ⟨dots, accepted⟩ := List.mem_filter.mp among
    obtain ⟨place, goes, found⟩ := resolve_dots from_ directory (by simpa using dots) (.inr rfl)
    exact ⟨name, place, accepted, goes, found⟩

/-- What a path goes on by where it leads somewhere. -/
theorem mem_expand (named : f.tree.Named) {fuel : Nat} {steps : List Step} (legal : Legal steps)
    (from_ : f.resolve path = .ok at_) (member : p ∈ f.expand fuel path steps) :
    ∃ names place, Extends path p names ∧ Fits steps names ∧ f.resolve p = .ok place := by
  induction fuel generalizing path at_ steps with
  | zero => cases member
  | succ fuel ih =>
    cases steps with
    | nil =>
      obtain rfl : p = path := by simpa [expand] using member
      exact ⟨[], at_, .refl, .nil, from_⟩
    | cons step steps =>
      have later : Legal steps := fun other among => legal other (by simp [among])
      rw [expand] at member
      split at member
      case h_1 cs only =>
        dsimp only at member
        obtain ⟨found, member⟩ := List.mem_ite_nil_right.mp member
        have piece : IsPiece (String.ofList cs) := by
          simpa [IsPiece] using legal step (by simp) cs only
        obtain ⟨place, goes, onward⟩ := resolve_literal from_ piece found
        obtain ⟨names, last, more, fits, ends⟩ := ih later onward member
        exact ⟨_ :: names, last, goes.trans more, .name only fits, ends⟩
      case h_2 several =>
        obtain ⟨standing, member⟩ := List.mem_ite_nil_left.mp member
        have directory : f.isDirectory path = true := by simpa using standing
        split at member
        case isTrue deep =>
          rw [eq_of_beq deep]
          dsimp only at member
          split at member
          case h_1 none =>
            obtain ⟨below, -⟩ := List.mem_filter.mp member
            obtain ⟨upper, name, each, goes, ends, -⟩ := mem_below named from_ below
            refine ⟨_, _, goes, ?_, ends⟩
            rw [← List.append_nil (upper ++ [name])]
            exact .depth each (.of_dropDepths (none ▸ .nil))
          case h_2 next steps' some =>
            obtain ⟨entry, chosen, member⟩ := List.mem_flatMap.mp member
            obtain ⟨below, accepted⟩ := List.mem_filter.mp chosen
            obtain ⟨upper, name, each, goes, onward, last⟩ := mem_below named from_ below
            have shallow : next ≠ [.anyDepth] := by
              have first := List.head?_dropWhile_not (· == [.anyDepth]) steps
              unfold dropDepths at some
              simpa [some] using first
            have rest : Legal steps' := by
              intro other among
              have within : other ∈ dropDepths steps := by simp [some, among]
              exact later other ((List.dropWhile_sublist _).subset within)
            rw [last] at accepted
            obtain ⟨names, place, more, fits, ends⟩ := ih rest onward member
            refine ⟨_, place, goes.trans more, ?_, ends⟩
            rw [List.append_assoc]
            refine .depth (fun other among => each other (by simp [among])) (.of_dropDepths ?_)
            rw [some]
            exact .of_accepts shallow accepted fits
        case isFalse shallow =>
          obtain ⟨entry, chosen, member⟩ := List.mem_flatMap.mp member
          obtain ⟨name, place, accepted, goes, onward⟩ := resolve_wild named from_ directory chosen
          obtain ⟨names, last, more, fits, ends⟩ := ih later onward member
          exact ⟨name :: names, last, goes.trans more,
            .wild ⟨several, by simpa using shallow⟩ accepted fits, ends⟩

/-! ## Whole patterns -/

/-- Where a path pattern begins. -/
def patternStart (pattern : String) : String :=
  if Path.isAbsolute pattern then "/" else "."

theorem mem_pieces_of_mem_patternPieces {pattern piece : String}
    (member : piece ∈ patternPieces pattern) : piece ∈ Path.pieces pattern := by
  have trimmed {whole : List String}
      (among : piece ∈ if whole.getLast? == some "" then whole.dropLast else whole) :
      piece ∈ whole := by
    split at among
    · exact List.dropLast_subset _ among
    · exact among
  unfold patternPieces at member
  have among := trimmed member
  split at among
  · exact (List.dropWhile_sublist _).subset among
  · exact among

theorem resolve_patternStart (found : f.resolve path = .ok place) :
    f.resolve (patternStart path) = .ok (f.origin path) ∧
      f.tree.get? (f.origin path) = some .directory := by
  obtain ⟨-, -, way⟩ := resolve_eq_ok_iff.mp found
  have begins := FileTree.directory_of_follow (Path.pieces_ne_nil _) way
  have same : f.origin (patternStart path) = f.origin path := by
    unfold patternStart origin
    cases Path.isAbsolute path <;> rfl
  have idle : patternStart path ≠ "" ∧ hasZero (patternStart path) = false ∧
      ∀ piece ∈ Path.pieces (patternStart path), isIdle piece := by
    unfold patternStart
    split <;> decide
  refine ⟨resolve_eq_ok_iff.mpr ⟨idle.1, idle.2.1, ?_⟩, begins⟩
  rw [same]
  exact FileTree.follow_idle idle.2.2 begins

/-- Pieces without a blank one at the end. -/
def trimmed (pieces : List String) : List String :=
  if pieces.getLast? == some "" then pieces.dropLast else pieces

theorem trimmed_append_blank (pieces : List String) : trimmed (pieces ++ [""]) = pieces := by
  simp [trimmed]

theorem trimmed_of_last {pieces : List String} (last : pieces.getLast? ≠ some "") :
    trimmed pieces = pieces := by
  simp [trimmed, last]

theorem trimmed_sublist (pieces : List String) : (trimmed pieces).Sublist pieces := by
  unfold trimmed
  split
  · exact List.dropLast_sublist pieces
  · exact List.Sublist.refl pieces

theorem patternPieces_eq (path : String) : patternPieces path = trimmed
    (if Path.isAbsolute path then (Path.pieces path).dropWhile (· == "") else Path.pieces path) :=
  rfl

theorem dropWhile_trimmed (pieces : List String) :
    (trimmed pieces).dropWhile (· == "") = trimmed (pieces.dropWhile (· == "")) := by
  rcases List.eq_nil_or_concat pieces with rfl | ⟨upper, last, rfl⟩
  · rfl
  · rw [List.concat_eq_append]
    by_cases blank : last = ""
    · subst blank
      rw [trimmed_append_blank, List.dropWhile_append]
      split
      case isTrue none => simp [List.isEmpty_iff.mp none, trimmed]
      case isFalse => rw [trimmed_append_blank]
    · rw [trimmed_of_last (by simpa using blank), List.dropWhile_append]
      split
      case isTrue none => simp [blank, trimmed]
      case isFalse => rw [trimmed_of_last (by simpa using blank)]

theorem pieces_join_eq {base : String} (there : base ≠ "") (piece : IsPiece name) :
    Path.pieces (Path.join base name) = trimmed (Path.pieces base) ++ [name] := by
  unfold Path.join
  rw [if_neg (by simp [piece.notAbsolute, there])]
  split
  case isTrue slash =>
    obtain ⟨cs, chars⟩ := List.getLast?_eq_some_iff.mp slash
    have whole : base = String.ofList cs ++ "/" ++ "" := by
      apply String.toList_inj.mp
      simp [chars]
    have split : Path.pieces base = Path.pieces (String.ofList cs) ++ [""] := by
      rw [whole, Path.pieces_append_slash]
      rfl
    have joined : base ++ name = String.ofList cs ++ "/" ++ name := by
      rw [whole, String.append_empty]
    rw [split, trimmed_append_blank, joined, Path.pieces_append_slash, Path.pieces_of_isPiece piece]
  case isFalse open_ =>
    rw [Path.pieces_append_slash, Path.pieces_of_isPiece piece, trimmed_of_last]
    intro last
    obtain ⟨upper, split⟩ := List.getLast?_eq_some_iff.mp last
    have written := Path.ofPieces_pieces base
    rw [split] at written
    by_cases none : upper = []
    · subst none
      exact there written.symm
    · apply open_
      rw [← written, Path.ofPieces, String.intercalate_append_of_ne_nil none (by simp)]
      simp

theorem pieces_join_all_eq {base : String} (there : base ≠ "")
    (each : ∀ name ∈ names, IsPiece name ∧ name ≠ "") (some : names ≠ []) :
    Path.pieces (names.foldl Path.join base) = trimmed (Path.pieces base) ++ names := by
  induction names generalizing base with
  | nil => exact absurd rfl some
  | cons name names ih =>
    obtain ⟨piece, named⟩ := each name (by simp)
    have first := pieces_join_eq there piece
    rw [List.foldl_cons]
    by_cases last : names = []
    · subst last
      exact first
    · rw [ih (Path.join_ne_blank there piece.notAbsolute)
        (fun other member => each other (by simp [member])) last, first,
        trimmed_of_last (by simpa using named)]
      simp

/-- The pieces of a pattern that goes on behind a base are those of the base and the names behind it. -/
theorem patternPieces_join_all_eq {base : String} (there : base ≠ "")
    (each : ∀ name ∈ names, IsPiece name ∧ name ≠ "") (some : names ≠ []) :
    patternPieces (names.foldl Path.join base) = patternPieces base ++ names := by
  have last (way : List String) : trimmed (way ++ names) = way ++ names := by
    apply trimmed_of_last
    rw [List.getLast?_append, List.getLast?_eq_some_getLast some, Option.some_or]
    simpa using (each _ (List.getLast_mem some)).2
  have kept : names.dropWhile (· == "") = names := by
    obtain ⟨name, names, rfl⟩ := List.exists_cons_of_ne_nil some
    have named := (each name (by simp)).2
    simp [named]
  rw [patternPieces_eq, patternPieces_eq, Path.isAbsolute_join_all there fun name member => (each name member).1,
    pieces_join_all_eq there each some]
  split
  · rw [List.dropWhile_append, kept, ← dropWhile_trimmed]
    split
    case isTrue none => simpa [List.isEmpty_iff.mp none] using last []
    case isFalse => exact last _
  · exact last _

/-- The pieces of a path are those of its pattern, with blank ones around them. -/
theorem pieces_patternPieces (path : String) : ∃ before after,
    Path.pieces path = before ++ patternPieces path ++ after ∧
      ∀ piece ∈ before ++ after, piece = "" := by
  have ends (pieces : List String) :
      ∃ after, pieces = trimmed pieces ++ after ∧ ∀ piece ∈ after, piece = "" := by
    by_cases last : pieces.getLast? = some ""
    · obtain ⟨upper, rfl⟩ := List.getLast?_eq_some_iff.mp last
      exact ⟨[""], by rw [trimmed_append_blank], by simp⟩
    · exact ⟨[], by rw [trimmed_of_last last, List.append_nil], by simp⟩
  rw [patternPieces_eq]
  split
  case isTrue =>
    obtain ⟨after, split, blank⟩ := ends ((Path.pieces path).dropWhile (· == ""))
    refine ⟨(Path.pieces path).takeWhile (· == ""), after, ?_, ?_⟩
    · rw [List.append_assoc, ← split, List.takeWhile_append_dropWhile]
    · intro piece member
      rcases List.mem_append.mp member with first | last
      · simpa using List.all_eq_true.mp List.all_takeWhile piece first
      · exact blank piece last
  case isFalse =>
    obtain ⟨after, split, blank⟩ := ends (Path.pieces path)
    exact ⟨[], after, split, blank⟩

/-- The components of a path that goes on by names, written as a pattern: idle pieces apart, those of the
path and then the names. -/
theorem patternPieces_join_all {base : String} (there : base ≠ "")
    (each : ∀ name ∈ names, IsPiece name ∧ name ≠ "") (some : names ≠ []) :
    ∃ before way after, Path.pieces base = before ++ way ++ after ∧
      (∀ piece ∈ before ++ after, isIdle piece) ∧
      patternPieces (names.foldl Path.join base) = way ++ names := by
  obtain ⟨before, after, split, blank⟩ := pieces_patternPieces base
  refine ⟨before, patternPieces base, after, split, ?_, patternPieces_join_all_eq there each some⟩
  intro piece member
  rw [blank piece member]
  rfl

theorem exists_of_mapM_tokens {texts : List String} {steps : List Step}
    (read : texts.mapM Pattern.tokens = .ok steps) {step : Step} (member : step ∈ steps) :
    ∃ text ∈ texts, Pattern.tokens text = .ok step := by
  induction texts generalizing steps with
  | nil =>
    cases read
    cases member
  | cons text texts ih =>
    rw [List.mapM_cons] at read
    cases first : Pattern.tokens text with
    | error e =>
      rw [first] at read
      cases read
    | ok head =>
      rw [first] at read
      cases later : texts.mapM Pattern.tokens with
      | error e =>
        rw [later] at read
        cases read
      | ok tail =>
        rw [later] at read
        cases read
        rcases List.mem_cons.mp member with rfl | among
        · exact ⟨text, by simp, first⟩
        · obtain ⟨other, within, same⟩ := ih later among
          exact ⟨other, by simp [within], same⟩

/-- What is found by a path pattern goes on from its start, by names that fit it, and exists. -/
theorem mem_glob (named : f.tree.Named) {pattern : String} {paths : List String}
    (from_ : f.resolve (patternStart pattern) = .ok at_) (found : f.glob pattern = .ok paths)
    (member : p ∈ paths) : ∃ steps names place,
      (patternPieces pattern).mapM Pattern.tokens = .ok steps ∧ Fits steps names ∧
        Extends (patternStart pattern) p names ∧ f.resolve p = .ok place := by
  unfold glob at found
  cases whole : Pattern.tokens pattern with
  | error e =>
    rw [whole] at found
    cases found
  | ok tokens =>
    rw [whole] at found
    cases read : (patternPieces pattern).mapM Pattern.tokens with
    | error e =>
      rw [read] at found
      cases found
    | ok steps =>
      rw [read] at found
      cases found
      have legal : Legal steps := by
        intro step among cs only
        obtain ⟨text, within, written⟩ := exists_of_mapM_tokens read among
        rw [← Pattern.eq_of_tokens written only]
        exact Path.isPiece_of_mem_pieces pattern (mem_pieces_of_mem_patternPieces within)
      rw [Path.sort, List.mem_mergeSort] at member
      obtain ⟨names, place, goes, fits, ends⟩ := mem_expand named legal from_ member
      exact ⟨steps, names, place, rfl, fits, goes, ends⟩

end Files

end TokenDesk
