import ClientGen.Proofs.Schema.Mappable

/-!
# Keywords

The mapping reads seven keys of a schema. All others, at whatever depth, might as well not be there:
descriptions, formats, bounds and extensions have no part in the node. Names of properties are no
keys of a schema, even where they are spelled like one.
-/

namespace ClientGen.Schema

/-! ## Schemas without other keys -/

/-- The keys of a schema that are read. -/
def keywords : List String :=
  ["$ref", "allOf", "enum", "type", "items", "properties", "required"]

mutual

/-- A schema of which only the keywords are left, and so are those in the places of schemas inside
of it. A place inside of itself is written out, but for the one that it comes to again. -/
def pruned : Value → Value
  | .map entries => .map (prunedEntries entries)
  | .recurring (.map []) => endlessMark
  | .recurring content => pruned content
  | schema => schema

/-- The entries at keywords, with their values pruned. -/
def prunedEntries : List (Value × Value) → List (Value × Value)
  | [] => []
  | (.text key, value) :: rest =>
      if key ∈ keywords then
        (.text key,
          if key = "items" then pruned value
          else if key = "allOf" then prunedMembers value
          else if key = "properties" then prunedProperties value
          else value) :: prunedEntries rest
      else prunedEntries rest
  | _ :: rest => prunedEntries rest

/-- The members of a composition, pruned. -/
def prunedMembers : Value → Value
  | .list members => .list (prunedAll members)
  | .recurring (.list members) => .recurring (.list (prunedAll members))
  | value => value

/-- Several schemas, pruned. -/
def prunedAll : List Value → List Value
  | [] => []
  | schema :: rest => pruned schema :: prunedAll rest

/-- The properties of an object schema, pruned; their names stay. -/
def prunedProperties : Value → Value
  | .map entries => .map (prunedNamed entries)
  | .recurring (.map entries) => .recurring (.map (prunedNamed entries))
  | value => value

/-- Named schemas, pruned. -/
def prunedNamed : List (Value × Value) → List (Value × Value)
  | [] => []
  | (name, schema) :: rest => (name, pruned schema) :: prunedNamed rest

end

/-! ## Fields -/

variable {name : String} {entries : List (Value × Value)}

/-- The value at a keyword, with the schemas in it pruned. -/
def prunedField (key : String) (value : Value) : Value :=
  if key = "items" then pruned value
  else if key = "allOf" then prunedMembers value
  else if key = "properties" then prunedProperties value
  else value

theorem prunedEntries_cons_text (key : String) (value : Value) (rest : List (Value × Value)) :
    prunedEntries ((.text key, value) :: rest) =
      if key ∈ keywords then (.text key, prunedField key value) :: prunedEntries rest
      else prunedEntries rest := rfl

/-- What a keyword leads to is still there, with the schemas in it pruned. -/
theorem fieldOf_prunedEntries (known : name ∈ keywords) (entries : List (Value × Value)) :
    Value.fieldOf name (prunedEntries entries) =
      (Value.fieldOf name entries).map (prunedField name) := by
  induction entries with
  | nil => rfl
  | cons entry rest ih =>
      obtain ⟨key, value⟩ := entry
      cases key with
      | text key =>
          rw [prunedEntries_cons_text, Value.fieldOf_cons_text]
          by_cases same : key = name
          · subst same
            rw [if_pos known, Value.fieldOf_cons_text, if_pos rfl, if_pos rfl]
            rfl
          · rw [if_neg same]
            split
            · rw [Value.fieldOf_cons_text, if_neg same, ih]
            · exact ih
      | _ => exact ih

/-- The keywords that lead to no schemas. -/
def plainKeywords : List String := ["$ref", "enum", "type", "required"]

theorem prunedField_plain (plain : name ∈ plainKeywords) (value : Value) :
    prunedField name value = value := by
  have others : ∀ name ∈ plainKeywords, name ≠ "items" ∧ name ≠ "allOf" ∧ name ≠ "properties" := by
    decide
  obtain ⟨items, allOf, properties⟩ := others name plain
  rw [prunedField, if_neg items, if_neg allOf, if_neg properties]

theorem field?_pruned_plain (plain : name ∈ plainKeywords) :
    (Value.map (prunedEntries entries)).field? name = (Value.map entries).field? name := by
  have known : ∀ name ∈ plainKeywords, name ∈ keywords := by decide
  have unchanged : prunedField name = id := funext (prunedField_plain plain)
  rw [Value.field?, Value.field?, fieldOf_prunedEntries (known name plain), unchanged, Option.map_id]
  rfl

theorem isSome_field?_pruned (known : name ∈ keywords) :
    ((Value.map (prunedEntries entries)).field? name).isSome =
      ((Value.map entries).field? name).isSome := by
  rw [Value.field?, Value.field?, fieldOf_prunedEntries known]
  simp only [Option.isSome_map]

theorem isSome_items?_prunedMembers (value : Value) :
    (prunedMembers value).opened.items?.isSome = value.opened.items?.isSome := by
  cases value with
  | recurring content => cases content <;> rfl
  | _ => rfl

theorem isSome_members?_pruned :
    (members? (.map (prunedEntries entries))).isSome = (members? (.map entries)).isSome := by
  have known : "allOf" ∈ keywords := by decide
  rw [members?, members?, Value.field?, Value.field?, fieldOf_prunedEntries known]
  cases Value.fieldOf "allOf" entries with
  | none => rfl
  | some value => exact isSome_items?_prunedMembers value

theorem pointer?_pruned : pointer? (.map (prunedEntries entries)) = pointer? (.map entries) := by
  rw [pointer?, field?_pruned_plain (by decide), pointer?]

theorem literals?_pruned : literals? (.map (prunedEntries entries)) = literals? (.map entries) := by
  rw [literals?, field?_pruned_plain (by decide), literals?]

theorem typeName?_pruned : typeName? (.map (prunedEntries entries)) = typeName? (.map entries) := by
  rw [typeName?, field?_pruned_plain (by decide), typeName?]

theorem requiredNames_pruned :
    requiredNames (.map (prunedEntries entries)) = requiredNames (.map entries) := by
  rw [requiredNames, field?_pruned_plain (by decide), requiredNames]

/-- The shape of a schema is a matter of its keywords. -/
theorem shape_pruned : shape (.map (prunedEntries entries)) = shape (.map entries) := by
  rw [shape, shape, pointer?_pruned, isSome_members?_pruned, literals?_pruned, typeName?_pruned,
    isSome_field?_pruned (by decide), isSome_field?_pruned (by decide)]

/-! ## Nodes -/

/-- A schema for which other keys than the keywords do not count. -/
def Unmoved (schema : Value) : Prop :=
  ∀ required, map required (pruned schema) = map required schema

theorem mapAll_pruned {schemas : List Value} (inner : ∀ schema ∈ schemas, Unmoved schema) :
    mapAll (prunedAll schemas) = mapAll schemas := by
  induction schemas with
  | nil => rfl
  | cons schema rest ih =>
      obtain ⟨first, others⟩ := List.forall_mem_cons.mp inner
      rw [prunedAll, mapAll, mapAll, first, ih others]

theorem mapList_pruned {value : Value} (inner : ∀ schema ∈ listed value, Unmoved schema) :
    mapList (prunedMembers value) = mapList value := by
  cases value with
  | list schemas => exact mapAll_pruned inner
  | recurring content =>
      cases content with
      | list schemas =>
          cases schemas with
          | nil => rfl
          | cons first rest => exact mapAll_pruned inner
      | _ => rfl
  | _ => rfl

theorem mapEntries_pruned {required : List Value} {entries : List (Value × Value)}
    (inner : ∀ entry ∈ entries, Unmoved entry.2) :
    mapEntries required (prunedNamed entries) = mapEntries required entries := by
  induction entries with
  | nil => rfl
  | cons entry rest ih =>
      obtain ⟨first, others⟩ := List.forall_mem_cons.mp inner
      rw [prunedNamed, mapEntries, mapEntries, first, ih others]

theorem mapMapping_pruned {required : List Value} {value : Value}
    (inner : ∀ entry ∈ declared value, Unmoved entry.2) :
    mapMapping required (prunedProperties value) = mapMapping required value := by
  cases value with
  | map entries => exact mapEntries_pruned inner
  | recurring content =>
      cases content with
      | map entries =>
          cases entries with
          | nil => rfl
          | cons first rest => exact mapEntries_pruned inner
      | _ => rfl
  | _ => rfl

theorem mapItems_pruned
    (inner : ∀ items ∈ (Value.fieldOf "items" entries).toList, Unmoved items) :
    mapItems (prunedEntries entries) = mapItems entries := by
  rw [mapItems_eq, mapItems_eq, fieldOf_prunedEntries (by decide)]
  cases found : Value.fieldOf "items" entries with
  | none => rfl
  | some items =>
      rw [found] at inner
      exact inner items (List.mem_singleton_self items) false

theorem mapMembers_pruned
    (inner : ∀ member ∈ ((Value.fieldOf "allOf" entries).map listed).getD [], Unmoved member) :
    mapMembers (prunedEntries entries) = mapMembers entries := by
  rw [mapMembers_eq, mapMembers_eq, fieldOf_prunedEntries (by decide)]
  cases found : Value.fieldOf "allOf" entries with
  | none => rfl
  | some value =>
      rw [found] at inner
      exact mapList_pruned inner

theorem mapProperties_pruned {required : List Value}
    (inner : ∀ entry ∈ properties entries, Unmoved entry.2) :
    mapProperties required (prunedEntries entries) = mapProperties required entries := by
  rw [mapProperties_eq, mapProperties_eq, fieldOf_prunedEntries (by decide)]
  rw [properties] at inner
  cases found : Value.fieldOf "properties" entries with
  | none => rfl
  | some value =>
      rw [found] at inner
      exact mapMapping_pruned inner

/-- A schema of which no part is moved by other keys is not moved by those that it has itself. -/
theorem unmoved_map (inner : ∀ part ∈ parts (.map entries), Unmoved part) :
    Unmoved (.map entries) := by
  intro required
  rw [pruned, map, map, shape_pruned]
  cases shaped : shape (.map entries) with
  | ref => rw [pointer?_pruned]
  | choice => simp only [literals?_pruned, choiceKind, typeName?_pruned]
  | scalar => rw [typeName?_pruned]
  | empty => rfl
  | array =>
      simp only [parts, shaped] at inner
      rw [mapItems_pruned inner]
  | allOf =>
      simp only [parts, shaped] at inner
      rw [mapMembers_pruned inner]
  | object =>
      simp only [parts, shaped, List.forall_mem_map] at inner
      rw [requiredNames_pruned, mapProperties_pruned inner]

theorem unmoved (schema : Value) : Unmoved schema := by
  induction schema using forall_of_parts with
  | step schema inner =>
      cases schema with
      | map entries => exact unmoved_map inner
      | recurring content =>
          intro required
          by_cases endless : content = .map []
          · subst endless
            rfl
          · have outside : pruned (.recurring content) = pruned content := by
              rw [pruned]
              exact endless
            rw [outside, map_recurring endless]
            exact inner content (List.mem_singleton_self content) required
      | _ => exact fun _ => rfl

/-- Only the keywords of a schema matter, and only those of the schemas inside of it: it has the node,
or the fault, that it has without all other keys, and so has every schema that differs from it by
other keys only. -/
theorem map_keywords (required : Bool) (schema : Value) :
    map required (pruned schema) = map required schema ∧
      ∀ other, pruned other = pruned schema → map required other = map required schema := by
  refine ⟨unmoved schema required, fun other same => ?_⟩
  calc
    map required other = map required (pruned other) := (unmoved other required).symm
    _ = map required (pruned schema) := by rw [same]
    _ = map required schema := unmoved schema required

/-- A property that is called like an annotation stays, while the annotations go. -/
example :
    pruned (.map [(.text "properties", .map [(.text "title", .map
        [(.text "title", .text "Name"), (.text "type", .text "string")])]),
      (.text "title", .text "Pet")]) =
      .map [(.text "properties", .map [(.text "title", .map [(.text "type", .text "string")])])] :=
  rfl

end ClientGen.Schema
