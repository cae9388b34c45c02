import Mathlib.Data.List.Nodup
import TokenDesk.Assistant.Snippet
import TokenDesk.Proofs.Text.Split

/-!
# Functions under their listed signatures

A snippet calls the first function whose signature is the selector, as long as no name has a parenthesis:
then a signature is nobody's name, and it has a name and a parameter list in one way only
(`signature_eq_iff`). A parameter list is written with the declared types alone, where every tuple is
`tuple`. So overloads that differ in the components of their tuples share a signature, and the list of
signatures selects every function exactly where no two share one (`snippet_of_listed_iff`).
-/

set_option autoImplicit false

namespace TokenDesk

open TokenDesk.Text

/-- The type of a parameter, with the types of the components where it is a tuple. -/
inductive ParameterType where
  | mk (kind : String) (components : List ParameterType)

namespace Parameter

/-- Whether a declared type is that of tuples, or of arrays of tuples. -/
def ofTuples (kind : String) : Bool :=
  "tuple".toList.isPrefixOf kind.toList

mutual

def type : Parameter → ParameterType
  | mk _ kind _ _ components? => .mk kind (if ofTuples kind then optionTypes components? else [])

def optionTypes : Option (List Parameter) → List ParameterType
  | none => []
  | some ps => listTypes ps

def listTypes : List Parameter → List ParameterType
  | [] => []
  | p :: ps => type p :: listTypes ps

end

theorem type_of_elementary {p : Parameter} (elementary : ofTuples p.kind = false) :
    p.type = .mk p.kind [] := by
  obtain ⟨name, kind, internalType?, indexed?, components?⟩ := p
  have single : ofTuples kind = false := elementary
  simp [type, single, Parameter.kind]

/-- A parameter list can be told from its joined types where each is a type without a comma. -/
def Proper (p : Parameter) : Prop :=
  p.kind ≠ "" ∧ ',' ∉ p.kind.toList

end Parameter

namespace AbiItem

variable {f g : AbiItem}

/-- The declared types of the parameters. -/
def kinds (item : AbiItem) : List String :=
  item.inputs.map Parameter.kind

/-- The types of the parameters with those of all components. -/
def types (item : AbiItem) : List ParameterType :=
  item.inputs.map Parameter.type

/-- The parameter list of the signature. -/
def kindsText (item : AbiItem) : String :=
  String.intercalate "," item.kinds

theorem toList_signature (item : AbiItem) :
    item.signature.toList = item.name.toList ++ '(' :: (item.kindsText.toList ++ [')']) := by
  simp [signature, kindsText, kinds]

/-- The first parenthesis of a signature ends the name. -/
theorem signature_eq_iff (plain : '(' ∉ f.name.toList) (plain' : '(' ∉ g.name.toList) :
    f.signature = g.signature ↔ f.name = g.name ∧ f.kindsText = g.kindsText := by
  constructor
  · intro same
    have parted := splitFirst?_eq_some_iff.mpr ⟨toList_signature f, plain⟩
    rw [same, splitFirst?_eq_some_iff.mpr ⟨toList_signature g, plain'⟩] at parted
    obtain ⟨names, lists⟩ := Prod.mk.inj (Option.some.inj parted)
    exact ⟨String.toList_inj.mp names.symm, String.toList_inj.mp (List.append_cancel_right lists).symm⟩
  · rintro ⟨names, lists⟩
    apply String.toList_inj.mp
    rw [toList_signature, toList_signature, names, lists]

theorem name_ne_signature (plain : '(' ∉ f.name.toList) : f.name? ≠ some g.signature := by
  intro same
  have called : f.name = g.signature := by rw [name, same, Option.getD_some]
  rw [called, toList_signature] at plain
  exact plain (List.mem_append_right _ List.mem_cons_self)

/-! ## Joined types -/

theorem splitAll_kindsText (some : f.inputs ≠ []) (proper : ∀ p ∈ f.inputs, p.Proper) :
    splitAll ',' f.kindsText.toList = f.kinds.map String.toList := by
  have joined : f.kindsText.toList = [','].intercalate (f.kinds.map String.toList) :=
    String.toList_intercalate
  rw [joined, splitAll_eq_splitOn]
  apply List.splitOn_intercalate
  · intro text among
    obtain ⟨_, listed, rfl⟩ := List.mem_map.mp among
    obtain ⟨p, member, rfl⟩ := List.mem_map.mp listed
    exact (proper p member).2
  · simpa [kinds] using some

theorem kindsText_of_no_inputs (none : f.inputs = []) : f.kindsText = "" := by
  rw [kindsText, kinds, none]
  rfl

/-- No list of types is written as the empty one is. -/
theorem kindsText_eq_empty_iff (proper : ∀ p ∈ f.inputs, p.Proper) :
    f.kindsText = "" ↔ f.inputs = [] := by
  refine ⟨fun empty => ?_, kindsText_of_no_inputs⟩
  by_contra some
  have pieces := splitAll_kindsText some proper
  rw [empty] at pieces
  -- The one piece of the empty text would be a declared type.
  have among : [] ∈ f.kinds.map String.toList := pieces ▸ List.mem_singleton_self []
  obtain ⟨_, listed, nothing⟩ := List.mem_map.mp among
  obtain ⟨p, member, rfl⟩ := List.mem_map.mp listed
  exact (proper p member).1 (String.toList_eq_nil_iff.mp nothing)

theorem kindsText_eq_iff (proper : ∀ p ∈ f.inputs, p.Proper) (proper' : ∀ p ∈ g.inputs, p.Proper) :
    f.kindsText = g.kindsText ↔ f.kinds = g.kinds := by
  refine ⟨fun same => ?_, fun same => by rw [kindsText, kindsText, same]⟩
  by_cases none : f.inputs = []
  · have none' : g.inputs = [] := by
      rw [← kindsText_eq_empty_iff proper', ← same, kindsText_of_no_inputs none]
    rw [kinds, kinds, none, none']
  · have some' : g.inputs ≠ [] := by
      rwa [Ne, ← kindsText_eq_empty_iff proper', ← same, kindsText_eq_empty_iff proper]
    have pieces := splitAll_kindsText none proper
    rw [same, splitAll_kindsText some' proper'] at pieces
    exact (List.map_injective_iff.mpr (fun _ _ => String.toList_inj.mp) pieces).symm

theorem types_of_elementary (elementary : ∀ p ∈ f.inputs, Parameter.ofTuples p.kind = false) :
    f.types = f.kinds.map (ParameterType.mk · []) := by
  rw [types, kinds, List.map_map]
  exact List.map_congr_left fun p member => Parameter.type_of_elementary (elementary p member)

end AbiItem

namespace DeploymentRecord

variable {r : DeploymentRecord} {g : AbiItem}

theorem forall_listed_iff {P : String → AbiItem → Prop} :
    (∀ listed ∈ r.signatures.zip r.functions, P listed.1 listed.2) ↔
      ∀ f ∈ r.functions, P f.signature f := by
  rw [signatures, ← List.map_prod_right_eq_zip, List.forall_mem_map]

/-- A signature of the list finds some function, and only one that has it. -/
theorem exists_function?_signature (named : ∀ f ∈ r.functions, '(' ∉ f.name.toList)
    (member : g ∈ r.functions) :
    ∃ f ∈ r.functions, r.function? g.signature = some f ∧ f.signature = g.signature := by
  have answers : (r.function? g.signature).isSome = true :=
    List.find?_isSome.mpr ⟨g, member, by simp⟩
  obtain ⟨f, found⟩ := Option.isSome_iff_exists.mp answers
  have listed : f ∈ r.functions := List.mem_of_find?_eq_some found
  have goes : f.signature = g.signature ∨ f.name? = some g.signature := by
    simpa using List.find?_some found
  exact ⟨f, listed, found, goes.resolve_right (AbiItem.name_ne_signature (named f listed))⟩

end DeploymentRecord

namespace Assistant.Snippet

open Parameter AbiItem

variable {r : DeploymentRecord}

/-- Each listed signature gives the call of the function it is listed for. -/
def Selects (r : DeploymentRecord) : Prop :=
  ∀ listed ∈ r.signatures.zip r.functions,
    ofRecord r listed.1 = .ok ⟨r.contract, r.address, listed.2⟩

theorem exists_ofRecord_signature (named : ∀ f ∈ r.functions, '(' ∉ f.name.toList)
    {g : AbiItem} (member : g ∈ r.functions) :
    ∃ f ∈ r.functions, ofRecord r g.signature = .ok ⟨r.contract, r.address, f⟩ ∧
      f.signature = g.signature := by
  obtain ⟨f, listed, found, same⟩ := DeploymentRecord.exists_function?_signature named member
  exact ⟨f, listed, by rw [ofRecord, found], same⟩

/-- The first of two functions answers for a signature they share. -/
theorem selects_iff_injective (named : ∀ f ∈ r.functions, '(' ∉ f.name.toList) :
    Selects r ↔
      ∀ f ∈ r.functions, ∀ g ∈ r.functions, f.signature = g.signature → f = g := by
  rw [Selects, DeploymentRecord.forall_listed_iff
    (P := fun signature f => ofRecord r signature = .ok ⟨r.contract, r.address, f⟩)]
  constructor
  · intro selects f first g second same
    have both := selects f first
    rw [same, selects g second] at both
    simpa using both.symm
  · intro injective g member
    obtain ⟨f, listed, found, same⟩ := exists_ofRecord_signature named member
    rw [found, injective f listed g member same]

/-- The placeholders are read off the declared types. -/
theorem placeholders_eq_mapIdx (place : Nat) (ps : List Parameter) :
    placeholders place ps =
      (ps.map Parameter.kind).mapIdx fun i kind => placeholder kind (place + i) := by
  induction ps generalizing place with
  | nil => rfl
  | cons p ps ih =>
    rw [placeholders, ih, List.map_cons, List.mapIdx_cons]
    simp only [Nat.add_zero, Nat.add_assoc, Nat.add_comm 1]

theorem arguments_eq_of_kinds {s t : Snippet} (same : s.function.kinds = t.function.kinds) :
    s.arguments = t.arguments := by
  have lists : s.function.inputs.map Parameter.kind = t.function.inputs.map Parameter.kind := same
  simp only [arguments, placeholders_eq_mapIdx, lists]

theorem selects_iff_pairwise (named : ∀ f ∈ r.functions, '(' ∉ f.name.toList)
    (distinct : r.functions.Nodup) :
    Selects r ↔
      r.functions.Pairwise fun f g => ¬ (f.name = g.name ∧ f.kindsText = g.kindsText) := by
  rw [selects_iff_injective named, ← List.nodup_map_iff_inj_on distinct, List.Nodup,
    List.pairwise_map]
  exact List.Pairwise.iff_of_mem fun first second =>
    not_congr (signature_eq_iff (named _ first) (named _ second))

/-- Functions that differ in their names or in their types with all components are each selected by
their listed signature exactly where the types as declared, without components, tell them apart as well.
The call has the name and the arguments of the listed function in any case, and without tuples it is
always the call of that function. -/
theorem selects_iff (r : DeploymentRecord)
    (named : ∀ f ∈ r.functions, '(' ∉ f.name.toList)
    (apart : r.functions.Pairwise fun f g => ¬ (f.name = g.name ∧ f.types = g.types)) :
    (Selects r ↔
      r.functions.Pairwise fun f g => ¬ (f.name = g.name ∧ f.kindsText = g.kindsText)) ∧
    ((∀ f ∈ r.functions, ∀ p ∈ f.inputs, p.Proper) →
      (∀ listed ∈ r.signatures.zip r.functions, ∃ called,
        ofRecord r listed.1 = .ok called ∧ called.function.name = listed.2.name ∧
        called.arguments = (Snippet.mk r.contract r.address listed.2).arguments) ∧
      ((∀ f ∈ r.functions, ∀ p ∈ f.inputs, ofTuples p.kind = false) → Selects r)) := by
  have distinct : r.functions.Nodup := apart.imp fun differ same => differ (by simp [same])
  have exact_ := selects_iff_pairwise named distinct
  refine ⟨exact_, fun proper => ⟨?called, ?elementary⟩⟩
  case called =>
    rw [DeploymentRecord.forall_listed_iff (P := fun signature f => ∃ called,
      ofRecord r signature = .ok called ∧ called.function.name = f.name ∧
        called.arguments = (Snippet.mk r.contract r.address f).arguments)]
    intro g member
    obtain ⟨f, listed, found, same⟩ := exists_ofRecord_signature named member
    obtain ⟨names, lists⟩ := (signature_eq_iff (named f listed) (named g member)).mp same
    have kinds : f.kinds = g.kinds := (kindsText_eq_iff (proper f listed) (proper g member)).mp lists
    exact ⟨_, found, names, arguments_eq_of_kinds kinds⟩
  case elementary =>
    intro elementary
    refine exact_.mpr (apart.imp_of_mem fun {f g} first second differ => ?_)
    rintro ⟨names, lists⟩
    have kinds := (kindsText_eq_iff (proper f first) (proper g second)).mp lists
    have types : f.types = g.types := by
      rw [types_of_elementary (elementary f first), types_of_elementary (elementary g second), kinds]
    exact differ ⟨names, types⟩

/-! ## Two overloads -/

/-- A function that reads the value at a key. -/
def getter (key : Parameter) : AbiItem :=
  ⟨"function", some "value", some [key], none, some "view", none⟩

/-- A function of the same name that changes the value at a key. -/
def setter (key : Parameter) : AbiItem :=
  ⟨"function", some "value", some [key], none, some "nonpayable", none⟩

/-- A deployment of the two. -/
def overloaded (read written : Parameter) : DeploymentRecord :=
  ⟨"Registry", "0x5FbDB2315678afecb367f032d93F642f64180aa3", "localhost", ⟨⟨2024, 1, 1⟩, 0, 0⟩,
    "0xf39Fd6e51aad88F6F4ce6aB8827279cffFb92266", [getter read, setter written]⟩

/-- A structure with one field. -/
def structureOf (kind : String) : Parameter :=
  .mk "key" "tuple" none none (some [Parameter.plain "field" kind])

theorem functions_overloaded (read written : Parameter) :
    (overloaded read written).functions = [getter read, setter written] := rfl

theorem named_overloaded (read written : Parameter) :
    ∀ f ∈ (overloaded read written).functions, '(' ∉ f.name.toList := by
  rw [functions_overloaded]
  simp [getter, setter, AbiItem.name]

theorem apart_overloaded {read written : Parameter} (differ : read.type ≠ written.type) :
    (overloaded read written).functions.Pairwise fun f g => ¬ (f.name = g.name ∧ f.types = g.types) := by
  rw [functions_overloaded]
  simpa [getter, setter, AbiItem.types, AbiItem.inputs] using fun _ => differ

/-- An overload for numbers and one for addresses are both selected. -/
theorem selects_numbers_and_addresses :
    Selects (overloaded (Parameter.plain "key" "uint256") (Parameter.plain "key" "address")) := by
  have differ : (Parameter.plain "key" "uint256").type ≠ (Parameter.plain "key" "address").type := by
    intro same
    simp [Parameter.plain, Parameter.type] at same
  have kinds (f : AbiItem) (member : f ∈ (overloaded (Parameter.plain "key" "uint256")
      (Parameter.plain "key" "address")).functions) (p : Parameter) (input : p ∈ f.inputs) :
      p.kind = "uint256" ∨ p.kind = "address" := by
    rcases List.mem_pair.mp member with rfl | rfl
    · exact .inl (congrArg Parameter.kind (List.mem_singleton.mp input))
    · exact .inr (congrArg Parameter.kind (List.mem_singleton.mp input))
  refine ((selects_iff _ (named_overloaded _ _) (apart_overloaded differ)).2 ?_).2 ?_
  · intro f member p input
    rcases kinds f member p input with kind | kind <;> rw [Parameter.Proper, kind] <;> decide
  · intro f member p input
    rcases kinds f member p input with kind | kind <;> rw [kind] <;> decide

/-- Two overloads for structures with different fields are listed under one signature, which gives a call of
the first, a read-only one, where the second is meant. -/
theorem second_structure_not_selected :
    let r := overloaded (structureOf "uint256") (structureOf "address")
    (∀ f ∈ r.functions, '(' ∉ f.name.toList) ∧
    (r.functions.Pairwise fun f g => ¬ (f.name = g.name ∧ f.types = g.types)) ∧
    ("value(tuple)", setter (structureOf "address")) ∈ r.signatures.zip r.functions ∧
    ofRecord r "value(tuple)" = .ok ⟨r.contract, r.address, getter (structureOf "uint256")⟩ ∧
    (getter (structureOf "uint256")).isReadOnly = true ∧
    (setter (structureOf "address")).isReadOnly = false ∧ ¬ Selects r := by
  intro r
  have differ : (structureOf "uint256").type ≠ (structureOf "address").type := by
    intro same
    simp [structureOf, Parameter.type, ofTuples, optionTypes, listTypes, Parameter.plain] at same
  have first : (getter (structureOf "uint256")).signature = "value(tuple)" := by decide +kernel
  have second : (setter (structureOf "address")).signature = "value(tuple)" := by decide +kernel
  have listed : ("value(tuple)", setter (structureOf "address")) ∈ r.signatures.zip r.functions := by
    rw [DeploymentRecord.signatures, functions_overloaded]
    simp [second]
  have selected : ofRecord r "value(tuple)" =
      .ok ⟨r.contract, r.address, getter (structureOf "uint256")⟩ := by
    have found : r.function? "value(tuple)" = some (getter (structureOf "uint256")) := by
      rw [DeploymentRecord.function?, functions_overloaded]
      simp [first]
    rw [ofRecord, found]
  refine ⟨named_overloaded _ _, apart_overloaded differ, listed, selected, by decide, by decide, ?_⟩
  intro selects
  have both := selected.symm.trans (selects _ listed)
  simp [getter, setter] at both

end Assistant.Snippet

end TokenDesk
