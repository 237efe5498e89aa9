import ClientGen.Proofs.Inside
import ClientGen.Proofs.Result
import ClientGen.Schema.Mapping

/-!
# Schemas that are mapped

The mapping visits the parts of a schema that its shape asks for, and the parts of those. It gives a
node exactly if no visited schema has a property whose name is no text, and none is a part of
itself.
-/

namespace ClientGen.Schema

/-! ## Parts -/

/-- The values of a sequence. -/
def listed : Value → List Value
  | .list items | .recurring (.list items) => items
  | _ => []

/-- The entries of a mapping. -/
def declared : Value → List (Value × Value)
  | .map entries | .recurring (.map entries) => entries
  | _ => []

/-- The properties that a schema declares. -/
def properties (entries : List (Value × Value)) : List (Value × Value) :=
  ((Value.fieldOf "properties" entries).map declared).getD []

/-- The schemas that a schema consists of, as far as its shape asks for them. -/
def parts : Value → List Value
  | .recurring content => [content]
  | .map entries =>
      match shape (.map entries) with
      | .allOf => ((Value.fieldOf "allOf" entries).map listed).getD []
      | .array => (Value.fieldOf "items" entries).toList
      | .object => (properties entries).map Prod.snd
      | _ => []
  | _ => []

/-- What a place holds that a schema comes to again and again. -/
def endlessMark : Value := .recurring (.map [])

/-- What a place holds that a list of schemas comes to again and again. -/
def endlessList : Value := .recurring (.list [])

/-- A schema that comes to an end by itself, with properties that all have names. -/
def Plain (schema : Value) : Prop :=
  schema ≠ endlessMark ∧ ∀ entries, schema = .map entries →
    (shape schema = .allOf → Value.fieldOf "allOf" entries ≠ some endlessList) ∧
    (shape schema = .object → Value.fieldOf "properties" entries ≠ some endlessMark ∧
      ∀ entry ∈ properties entries, (propertyName? entry.1).isSome = true)

/-- A schema that has a type node. -/
def Mappable (schema : Value) : Prop := Throughout parts Plain schema

theorem mappable_iff {schema : Value} :
    Mappable schema ↔ Plain schema ∧ ∀ part ∈ parts schema, Mappable part := throughout_iff

/-! ## Sizes -/

theorem sizeOf_lt_of_fieldOf {name : String} {entries : List (Value × Value)} {value : Value}
    (found : Value.fieldOf name entries = some value) : sizeOf value < sizeOf entries := by
  induction entries with
  | nil => cases found
  | cons entry rest ih =>
      obtain ⟨key, first⟩ := entry
      have later : Value.fieldOf name rest = some value →
          sizeOf value < sizeOf ((key, first) :: rest) := by
        intro found
        have := ih found
        simp only [List.cons.sizeOf_spec]
        omega
      cases key with
      | text key =>
          rw [Value.fieldOf_cons_text] at found
          split at found
          · cases found
            simp only [List.cons.sizeOf_spec, Prod.mk.sizeOf_spec]
            omega
          · exact later found
      | _ => exact later found

theorem sizeOf_lt_of_mem_listed {value item : Value} (member : item ∈ listed value) :
    sizeOf item < sizeOf value := by
  rw [listed.eq_def] at member
  split at member
  · have := List.sizeOf_lt_of_mem member
    simp only [Value.list.sizeOf_spec]
    omega
  · have := List.sizeOf_lt_of_mem member
    simp only [Value.recurring.sizeOf_spec, Value.list.sizeOf_spec]
    omega
  · cases member

theorem sizeOf_lt_of_mem_declared {value : Value} {entry : Value × Value}
    (member : entry ∈ declared value) : sizeOf entry.2 < sizeOf value := by
  have snd : sizeOf entry.2 < sizeOf entry := by
    obtain ⟨key, held⟩ := entry
    simp only [Prod.mk.sizeOf_spec]
    omega
  rw [declared.eq_def] at member
  split at member
  · have := List.sizeOf_lt_of_mem member
    simp only [Value.map.sizeOf_spec]
    omega
  · have := List.sizeOf_lt_of_mem member
    simp only [Value.recurring.sizeOf_spec, Value.map.sizeOf_spec]
    omega
  · cases member

/-- The parts of a schema are smaller. -/
theorem sizeOf_lt_of_mem_parts {schema part : Value} (member : part ∈ parts schema) :
    sizeOf part < sizeOf schema := by
  rw [parts.eq_def] at member
  split at member
  · rw [List.mem_singleton.mp member]
    simp only [Value.recurring.sizeOf_spec]
    omega
  · next entries =>
      rw [Value.map.sizeOf_spec]
      split at member
      · cases found : Value.fieldOf "allOf" entries with
        | none =>
            rw [found] at member
            cases member
        | some value =>
            rw [found] at member
            have := sizeOf_lt_of_mem_listed member
            have := sizeOf_lt_of_fieldOf found
            omega
      · have := sizeOf_lt_of_fieldOf (Option.mem_toList.mp member)
        omega
      · obtain ⟨entry, inside, rfl⟩ := List.mem_map.mp member
        rw [properties] at inside
        cases found : Value.fieldOf "properties" entries with
        | none =>
            rw [found] at inside
            cases inside
        | some value =>
            rw [found] at inside
            have := sizeOf_lt_of_mem_declared inside
            have := sizeOf_lt_of_fieldOf found
            omega
      · cases member
  · cases member

/-- What holds of a schema that has it of its parts holds of all schemas. -/
theorem forall_of_parts {holds : Value → Prop}
    (step : ∀ schema, (∀ part ∈ parts schema, holds part) → holds schema)
    (schema : Value) : holds schema :=
  step schema fun part _ => forall_of_parts step part
termination_by sizeOf schema
decreasing_by exact sizeOf_lt_of_mem_parts ‹_›

theorem map_recurring {content : Value} (ends : content ≠ .map []) (required : Bool) :
    map required (.recurring content) = map required content := by
  rw [map]
  exact ends

/-! ## Looking up parts -/

/-- The items are at their key. -/
theorem mapItems_eq (entries : List (Value × Value)) :
    mapItems entries =
      ((Value.fieldOf "items" entries).map (map false)).getD (.ok (.empty false)) := by
  induction entries with
  | nil => rfl
  | cons entry rest ih =>
      obtain ⟨key, value⟩ := entry
      cases key with
      | text name =>
          rw [mapItems, Value.fieldOf_cons_text]
          split
          · rfl
          · exact ih
      | _ => exact ih

/-- The members are at their key. -/
theorem mapMembers_eq (entries : List (Value × Value)) :
    mapMembers entries = ((Value.fieldOf "allOf" entries).map mapList).getD (.ok []) := by
  induction entries with
  | nil => rfl
  | cons entry rest ih =>
      obtain ⟨key, value⟩ := entry
      cases key with
      | text name =>
          rw [mapMembers, Value.fieldOf_cons_text]
          split
          · rfl
          · exact ih
      | _ => exact ih

/-- The properties are at their key. -/
theorem mapProperties_eq (required : List Value) (entries : List (Value × Value)) :
    mapProperties required entries =
      ((Value.fieldOf "properties" entries).map (mapMapping required)).getD (.ok []) := by
  induction entries with
  | nil => rfl
  | cons entry rest ih =>
      obtain ⟨key, value⟩ := entry
      cases key with
      | text name =>
          rw [mapProperties, Value.fieldOf_cons_text]
          split
          · rfl
          · exact ih
      | _ => exact ih

theorem mapAll_eq (schemas : List Value) : mapAll schemas = schemas.mapM (map false) := by
  induction schemas with
  | nil => rfl
  | cons schema rest ih =>
      rw [mapAll, List.mapM_cons, ih]
      rfl

theorem mapList_eq {value : Value} (ends : value ≠ endlessList) :
    mapList value = (listed value).mapM (map false) := by
  rw [← mapAll_eq]
  cases value with
  | recurring content =>
      cases content with
      | list schemas =>
          cases schemas with
          | nil => exact absurd rfl ends
          | cons first rest => rfl
      | _ => rfl
  | _ => rfl

/-! ## Success -/

theorem succeeds_mapList {value : Value} :
    Succeeds (mapList value) ↔
      value ≠ endlessList ∧ ∀ member ∈ listed value, Succeeds (map false member) := by
  by_cases endless : value = endlessList
  · subst endless
    exact iff_of_false (not_succeeds_error _) fun holds => holds.1 rfl
  · rw [mapList_eq endless, succeeds_mapM, and_iff_right endless]

theorem succeeds_mapMembers {entries : List (Value × Value)} :
    Succeeds (mapMembers entries) ↔
      Value.fieldOf "allOf" entries ≠ some endlessList ∧
        ∀ member ∈ ((Value.fieldOf "allOf" entries).map listed).getD [],
          Succeeds (map false member) := by
  rw [mapMembers_eq]
  cases Value.fieldOf "allOf" entries with
  | none => exact iff_of_true (succeeds_ok _) ⟨nofun, nofun⟩
  | some value =>
      simp only [Option.map_some, Option.getD_some, succeeds_mapList, ne_eq, Option.some.injEq]

theorem succeeds_mapItems {entries : List (Value × Value)} :
    Succeeds (mapItems entries) ↔
      ∀ items ∈ (Value.fieldOf "items" entries).toList, Succeeds (map false items) := by
  rw [mapItems_eq]
  cases Value.fieldOf "items" entries with
  | none => exact iff_of_true (succeeds_ok _) nofun
  | some value =>
      simp only [Option.map_some, Option.getD_some, Option.toList_some, List.mem_singleton,
        forall_eq]

theorem succeeds_mapEntries {required : List Value} {entries : List (Value × Value)} :
    Succeeds (mapEntries required entries) ↔ ∀ entry ∈ entries,
      (propertyName? entry.1).isSome = true ∧
        Succeeds (map (decide (entry.1 ∈ required)) entry.2) := by
  induction entries with
  | nil => exact iff_of_true (succeeds_ok _) nofun
  | cons entry rest ih =>
      obtain ⟨key, schema⟩ := entry
      rw [mapEntries, List.forall_mem_cons, ← ih]
      cases named : propertyName? key with
      | none =>
          refine iff_of_false ?_ (fun holds => nomatch holds.1.1)
          rintro ⟨result, done⟩
          obtain ⟨_, _, done⟩ := bind_eq_ok.mp done
          obtain ⟨_, _, done⟩ := bind_eq_ok.mp done
          cases done
      | some name =>
          refine (succeeds_bind_iff fun node _ => succeeds_bind_ok).trans ?_
          exact and_congr_left fun _ => (and_iff_right rfl).symm

theorem succeeds_mapMapping {required : List Value} {value : Value} :
    Succeeds (mapMapping required value) ↔
      value ≠ endlessMark ∧ Succeeds (mapEntries required (declared value)) := by
  cases value with
  | map entries => exact (and_iff_right nofun).symm
  | recurring content =>
      cases content with
      | map entries =>
          cases entries with
          | nil => exact iff_of_false (not_succeeds_error _) (fun holds => holds.1 rfl)
          | cons entry rest => exact (and_iff_right nofun).symm
      | _ => exact iff_of_true (succeeds_ok _) ⟨nofun, succeeds_ok _⟩
  | _ => exact iff_of_true (succeeds_ok _) ⟨nofun, succeeds_ok _⟩

theorem succeeds_mapProperties {required : List Value} {entries : List (Value × Value)} :
    Succeeds (mapProperties required entries) ↔
      Value.fieldOf "properties" entries ≠ some endlessMark ∧ ∀ entry ∈ properties entries,
        (propertyName? entry.1).isSome = true ∧
          Succeeds (map (decide (entry.1 ∈ required)) entry.2) := by
  rw [mapProperties_eq, properties]
  cases Value.fieldOf "properties" entries with
  | none => exact iff_of_true (succeeds_ok _) ⟨nofun, nofun⟩
  | some value =>
      simp only [Option.map_some, Option.getD_some, succeeds_mapMapping, succeeds_mapEntries,
        ne_eq, Option.some.injEq]

theorem plain_map_iff {entries : List (Value × Value)} :
    Plain (.map entries) ↔
      (shape (.map entries) = .allOf → Value.fieldOf "allOf" entries ≠ some endlessList) ∧
      (shape (.map entries) = .object → Value.fieldOf "properties" entries ≠ some endlessMark ∧
        ∀ entry ∈ properties entries, (propertyName? entry.1).isSome = true) := by
  constructor
  · intro plain
    exact plain.2 entries rfl
  · intro named
    refine ⟨nofun, ?_⟩
    rintro _ ⟨⟩
    exact named

/-- A mapping is mapped if it is plain and its parts are mapped. -/
theorem succeeds_map_entries {entries : List (Value × Value)}
    (inside : ∀ part ∈ parts (.map entries), ∀ required,
      Succeeds (map required part) ↔ Mappable part) (required : Bool) :
    Succeeds (map required (.map entries)) ↔
      Plain (.map entries) ∧ ∀ part ∈ parts (.map entries), Mappable part := by
  rw [plain_map_iff, map]
  cases shaped : shape (.map entries) with
  | allOf =>
      simp only [parts, shaped] at inside ⊢
      simp only [reduceCtorEq, true_imp_iff, false_imp_iff, and_true]
      rw [succeeds_bind_ok, succeeds_mapMembers]
      exact and_congr_right fun _ => forall₂_congr fun member listed => inside member listed false
  | array =>
      simp only [parts, shaped] at inside ⊢
      rw [succeeds_bind_ok, succeeds_mapItems, and_iff_right ⟨nofun, nofun⟩]
      exact forall₂_congr fun items found => inside items found false
  | object =>
      simp only [parts, shaped, List.forall_mem_map] at inside ⊢
      simp only [reduceCtorEq, true_imp_iff, false_imp_iff, true_and]
      rw [succeeds_bind_ok, succeeds_mapProperties, and_assoc, ← forall₂_and]
      refine and_congr_right fun _ => forall₂_congr fun entry member => ?_
      exact and_congr_right fun _ => inside entry member _
  | _ =>
      simp only [parts, shaped]
      exact iff_of_true (succeeds_ok _) ⟨⟨nofun, nofun⟩, nofun⟩

/-- A schema is mapped if it is plain and its parts are mapped. -/
theorem succeeds_map_of_parts {schema : Value}
    (inside : ∀ part ∈ parts schema, ∀ required, Succeeds (map required part) ↔ Mappable part)
    (required : Bool) : Succeeds (map required schema) ↔ Mappable schema := by
  rw [mappable_iff]
  cases schema with
  | map entries => exact succeeds_map_entries inside required
  | recurring content =>
      have single : (∀ part ∈ parts (.recurring content), Mappable part) ↔
          Succeeds (map required content) := by
        rw [inside content List.mem_cons_self required]
        exact ⟨fun all => all content List.mem_cons_self, fun one part member =>
          List.mem_singleton.mp member ▸ one⟩
      rw [single]
      by_cases endless : content = .map []
      · subst endless
        exact iff_of_false (not_succeeds_error _) fun holds => holds.1.1 rfl
      · have plain : Plain (.recurring content) :=
          ⟨fun same => endless (Value.recurring.inj same), nofun⟩
        rw [and_iff_right plain, map_recurring endless]
  | _ => exact iff_of_true (succeeds_ok _) ⟨⟨nofun, nofun⟩, nofun⟩

/-- A schema has a type node exactly if it is mappable, whether it is required or not. -/
theorem succeeds_map_iff (required : Bool) (schema : Value) :
    Succeeds (map required schema) ↔ Mappable schema := by
  induction schema using forall_of_parts generalizing required with
  | step schema inner =>
      exact succeeds_map_of_parts (fun part member required => inner part member required) required

end ClientGen.Schema
