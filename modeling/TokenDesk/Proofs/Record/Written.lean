import TokenDesk.Proofs.Json.ReadBack
import TokenDesk.Record.Report

/-!
# Records as they are written

Neither a deployment record nor a report entry holds a number, so that both come back from a file as
they were written. The nesting of a report entry is fixed; that of a deployment record is not, and as it
has no key twice, sorting keeps it.
-/

set_option autoImplicit false

namespace TokenDesk

open TokenDesk.Json

namespace Json

theorem plainEntries_append {before after : List (String × Json)} :
    PlainEntries (before ++ after) ↔ PlainEntries before ∧ PlainEntries after := by
  simp only [numbersEntries_iff, List.mem_append]
  constructor
  · exact fun all => ⟨fun entry member => all entry (.inl member),
      fun entry member => all entry (.inr member)⟩
  · rintro ⟨first, second⟩ entry (member | member)
    · exact first entry member
    · exact second entry member

theorem plainEntries_optional {key : String} {value? : Option Json}
    (plain : ∀ value, value? = some value → value.Plain) : PlainEntries (optional key value?) := by
  cases value? with
  | none => trivial
  | some value => exact ⟨plain value rfl, trivial⟩

theorem distinctEntries_append {before after : List (String × Json)} :
    DistinctEntries (before ++ after) ↔ DistinctEntries before ∧ DistinctEntries after := by
  simp only [distinctEntries_iff, List.mem_append, or_imp, forall_and]

theorem distinctEntries_optional {key : String} {value? : Option Json}
    (distinct : ∀ value, value? = some value → value.Distinct) :
    DistinctEntries (optional key value?) := by
  cases value? with
  | none => trivial
  | some value => exact ⟨distinct value rfl, trivial⟩

theorem keys_optional (key : String) (value? : Option Json) :
    ((optional key value?).map Prod.fst).Sublist [key] := by
  cases value? with
  | none => exact List.nil_sublist _
  | some value => exact List.Sublist.refl _

theorem plain_text (text? : Option String) :
    ∀ value, text?.map Json.string = some value → value.Plain := by
  intro value found
  obtain ⟨text, -, rfl⟩ := Option.map_eq_some_iff.mp found
  trivial

theorem plain_flag (flag? : Option Bool) :
    ∀ value, flag?.map Json.bool = some value → value.Plain := by
  intro value found
  obtain ⟨flag, -, rfl⟩ := Option.map_eq_some_iff.mp found
  trivial

theorem distinct_text (text? : Option String) :
    ∀ value, text?.map Json.string = some value → value.Distinct := by
  intro value found
  obtain ⟨text, -, rfl⟩ := Option.map_eq_some_iff.mp found
  trivial

theorem distinct_flag (flag? : Option Bool) :
    ∀ value, flag?.map Json.bool = some value → value.Distinct := by
  intro value found
  obtain ⟨flag, -, rfl⟩ := Option.map_eq_some_iff.mp found
  trivial

end Json

namespace Parameter

mutual

theorem toJson_plain (p : Parameter) : p.toJson.Plain := by
  obtain ⟨name, kind, internalType?, indexed?, components?⟩ := p
  have components : ∀ value, optionToJson components? = some value → value.Plain :=
    optionToJson_plain components?
  refine plainEntries_append.mpr ⟨plainEntries_append.mpr ⟨plainEntries_append.mpr ⟨?_, ?_⟩, ?_⟩, ?_⟩
  · exact ⟨trivial, trivial, trivial⟩
  · exact plainEntries_optional (plain_text _)
  · exact plainEntries_optional (plain_flag _)
  · exact plainEntries_optional components

theorem optionToJson_plain (ps? : Option (List Parameter)) :
    ∀ value, optionToJson ps? = some value → value.Plain := by
  match ps? with
  | none =>
    rintro value ⟨⟩
  | some ps =>
    rintro value ⟨rfl⟩
    exact listToJson_plain ps

theorem listToJson_plain (ps : List Parameter) : PlainItems (listToJson ps) := by
  match ps with
  | [] => trivial
  | p :: ps => exact ⟨toJson_plain p, listToJson_plain ps⟩

end

mutual

theorem toJson_distinct (p : Parameter) : p.toJson.Distinct := by
  obtain ⟨name, kind, internalType?, indexed?, components?⟩ := p
  have components : ∀ value, optionToJson components? = some value → value.Distinct :=
    optionToJson_distinct components?
  refine ⟨?_, ?_⟩
  · have keys : (["name", "type"] ++ ["internalType"] ++ ["indexed"] ++ ["components"]).Nodup := by
      decide
    refine keys.sublist ?_
    simp only [List.map_append]
    exact .append (.append (.append (List.Sublist.refl _) (keys_optional ..)) (keys_optional ..))
      (keys_optional ..)
  · refine distinctEntries_append.mpr ⟨distinctEntries_append.mpr ⟨distinctEntries_append.mpr
      ⟨⟨trivial, trivial, trivial⟩, ?_⟩, ?_⟩, ?_⟩
    · exact distinctEntries_optional (distinct_text _)
    · exact distinctEntries_optional (distinct_flag _)
    · exact distinctEntries_optional components

theorem optionToJson_distinct (ps? : Option (List Parameter)) :
    ∀ value, optionToJson ps? = some value → value.Distinct := by
  match ps? with
  | none =>
    rintro value ⟨⟩
  | some ps =>
    rintro value ⟨rfl⟩
    exact listToJson_distinct ps

theorem listToJson_distinct (ps : List Parameter) : DistinctItems (listToJson ps) := by
  match ps with
  | [] => trivial
  | p :: ps => exact ⟨toJson_distinct p, listToJson_distinct ps⟩

end

end Parameter

namespace AbiItem

theorem toJson_plain (item : AbiItem) : item.toJson.Plain := by
  refine plainEntries_append.mpr ⟨plainEntries_append.mpr ⟨plainEntries_append.mpr
    ⟨plainEntries_append.mpr ⟨plainEntries_append.mpr ⟨?_, ?_⟩, ?_⟩, ?_⟩, ?_⟩, ?_⟩
  · exact ⟨trivial, trivial⟩
  · exact plainEntries_optional (plain_text _)
  · exact plainEntries_optional (Parameter.optionToJson_plain _)
  · exact plainEntries_optional (Parameter.optionToJson_plain _)
  · exact plainEntries_optional (plain_text _)
  · exact plainEntries_optional (plain_flag _)

theorem listToJson_plain (abi : List AbiItem) : (listToJson abi).Plain := by
  apply numbersItems_iff.mpr
  intro item member
  obtain ⟨entry, -, rfl⟩ := List.mem_map.mp member
  exact entry.toJson_plain

theorem toJson_distinct (item : AbiItem) : item.toJson.Distinct := by
  refine ⟨?_, ?_⟩
  · have keys : (["type"] ++ ["name"] ++ ["inputs"] ++ ["outputs"] ++ ["stateMutability"] ++
        ["anonymous"]).Nodup := by decide
    refine keys.sublist ?_
    simp only [List.map_append]
    exact .append (.append (.append (.append (.append (List.Sublist.refl _) (keys_optional ..))
      (keys_optional ..)) (keys_optional ..)) (keys_optional ..)) (keys_optional ..)
  · refine distinctEntries_append.mpr ⟨distinctEntries_append.mpr ⟨distinctEntries_append.mpr
      ⟨distinctEntries_append.mpr ⟨distinctEntries_append.mpr
        ⟨⟨trivial, trivial⟩, ?_⟩, ?_⟩, ?_⟩, ?_⟩, ?_⟩
    · exact distinctEntries_optional (distinct_text _)
    · exact distinctEntries_optional (Parameter.optionToJson_distinct _)
    · exact distinctEntries_optional (Parameter.optionToJson_distinct _)
    · exact distinctEntries_optional (distinct_text _)
    · exact distinctEntries_optional (distinct_flag _)

theorem listToJson_distinct (abi : List AbiItem) : (listToJson abi).Distinct := by
  apply distinctItems_iff.mpr
  intro item member
  obtain ⟨entry, -, rfl⟩ := List.mem_map.mp member
  exact entry.toJson_distinct

end AbiItem

theorem DeploymentRecord.toJson_plain (r : DeploymentRecord) : r.toJson.Plain :=
  ⟨trivial, trivial, trivial, trivial, trivial, AbiItem.listToJson_plain r.abi, trivial⟩

theorem DeploymentRecord.toJson_distinct (r : DeploymentRecord) : r.toJson.Distinct := by
  have keys : ["contract", "address", "network", "timestamp", "deployer", "abi"].Nodup := by decide
  exact ⟨keys, trivial, trivial, trivial, trivial, trivial, AbiItem.listToJson_distinct r.abi, trivial⟩

theorem ReportEntry.toJson_plain (e : ReportEntry) : e.toJson.Plain :=
  ⟨trivial, trivial, trivial, trivial, trivial, ⟨trivial, trivial, trivial, trivial⟩,
    ⟨trivial, trivial, trivial, trivial⟩, trivial, trivial, trivial⟩

theorem ReportEntry.depth_toJson (e : ReportEntry) : e.toJson.depth = 2 := rfl

end TokenDesk
