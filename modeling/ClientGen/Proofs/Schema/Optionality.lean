import ClientGen.Proofs.Schema.Composition

/-!
# Optionality

Whether a node is required is said where the node stands: of a whole schema by the one who asks for
it, of a property by the object schema that it comes from, and of the items of an array by nobody.
Of the members of a composition, the last one that declares a property gives it.
-/

namespace ClientGen.Schema

open TypeNode

/-! ## The node on its own -/

/-- Whether a node is required changes nothing else of it. -/
theorem map_withRequired (required other : Bool) :
    (schema : Value) → map required schema = (map other schema).map (withRequired required)
  | .map entries => by
      rw [map, map]
      cases shape (.map entries) with
      | allOf => cases mapMembers entries <;> rfl
      | array => cases mapItems entries <;> rfl
      | object => cases mapProperties (requiredNames (.map entries)) entries <;> rfl
      | _ => rfl
  | .recurring content => by
      by_cases endless : content = .map []
      · subst endless
        rfl
      · rw [map_recurring endless, map_recurring endless]
        exact map_withRequired required other content
  | .null | .bool _ | .int _ | .float _ | .text _ | .bytes _ | .day _ | .moment _ | .list _
  | .pair .. | .set _ => rfl

theorem required_of_map {required : Bool} {schema : Value} {node : TypeNode}
    (mapped : map required schema = .ok node) : node.required = required := by
  rw [map_withRequired required required] at mapped
  obtain ⟨found, _, rfl⟩ := map_eq_ok.mp mapped
  exact required_withRequired required found

/-! ## What schemas declare -/

/-- A schema without the marks of places inside of themselves. -/
def bare : Value → Value
  | .recurring content => bare content
  | schema => schema

/-- The members of a composition, none for other schemas. -/
def memberSchemas (schema : Value) : List Value :=
  if shape (bare schema) = .allOf then parts (bare schema) else []

/-- The properties that an object schema declares, none for other schemas. -/
def ownProperties (schema : Value) : List (Value × Value) :=
  if shape (bare schema) = .object then properties (declared (bare schema)) else []

/-- A schema that declares a property, as an object or by a member of a composition. -/
inductive Declares (name : String) : Value → Prop
  | own {schema part : Value} (listed : (.text name, part) ∈ ownProperties schema) :
      Declares name schema
  | member {schema member : Value} (listed : member ∈ memberSchemas schema)
      (declares : Declares name member) : Declares name schema

/-- The object schema that gives a property to a schema, and the part of it that the property
stands for: of several members that declare the property, the last one gives it. -/
inductive Gives (name : String) (origin part : Value) : Value → Prop
  | own {schema : Value} (itself : bare schema = origin)
      (listed : (.text name, part) ∈ ownProperties schema) : Gives name origin part schema
  | member {schema member : Value} {before after : List Value}
      (members : memberSchemas schema = before ++ member :: after)
      (gives : Gives name origin part member)
      (last : ∀ other ∈ after, ¬ Declares name other) : Gives name origin part schema

/-- A schema in which the names of properties are text. -/
def Worded (schema : Value) : Prop :=
  Throughout parts (fun part => (ownProperties part).all (fun entry => isText entry.1) = true) schema

mutual

/-- A node inside of which the items of arrays are not required, and properties are exactly where
the object schema that gives them requires their names. -/
def Flagged (schema : Value) : TypeNode → Prop
  | .array _ items => items.required = false ∧ ∀ part ∈ parts (bare schema), Flagged part items
  | .object _ properties _ => FlaggedProperties schema properties
  | .scalar .. | .reference .. | .empty _ => True

/-- Properties that are required exactly where the object schema that gives them requires their
names, and so are those inside of them. -/
def FlaggedProperties (schema : Value) : List (String × TypeNode) → Prop
  | [] => True
  | (name, node) :: rest =>
      (∃ origin part, Gives name origin part schema ∧
        (node.required = true ↔ .text name ∈ requiredNames origin) ∧ Flagged part node) ∧
      FlaggedProperties schema rest

end

/-! ## Parts of bare schemas -/

theorem sizeOf_bare_le : (schema : Value) → sizeOf (bare schema) ≤ sizeOf schema
  | .recurring content => by
      have inner := sizeOf_bare_le content
      rw [bare, Value.recurring.sizeOf_spec]
      omega
  | .map _ | .null | .bool _ | .int _ | .float _ | .text _ | .bytes _ | .day _ | .moment _
  | .list _ | .pair .. | .set _ => Nat.le_refl _

/-- What holds of a schema that has it of its parts holds of all schemas. -/
theorem forall_of_parts_bare {holds : Value → Prop}
    (step : ∀ schema, (∀ part ∈ parts (bare schema), holds part) → holds schema)
    (schema : Value) : holds schema :=
  step schema fun part _ => forall_of_parts_bare step part
termination_by sizeOf schema
decreasing_by
  exact Nat.lt_of_lt_of_le (sizeOf_lt_of_mem_parts ‹_›) (sizeOf_bare_le schema)

theorem map_bare {required : Bool} {node : TypeNode} :
    (schema : Value) → map required schema = .ok node → map required (bare schema) = .ok node
  | .recurring content, mapped => map_bare content (map_of_recurring mapped)
  | .map _, mapped | .null, mapped | .bool _, mapped | .int _, mapped | .float _, mapped
  | .text _, mapped | .bytes _, mapped | .day _, mapped | .moment _, mapped | .list _, mapped
  | .pair .., mapped | .set _, mapped => mapped

theorem worded_bare : (schema : Value) → Worded schema → Worded (bare schema)
  | .recurring content, worded =>
      worded_bare content ((throughout_iff.mp worded).2 content (List.mem_singleton_self content))
  | .map _, worded | .null, worded | .bool _, worded | .int _, worded | .float _, worded
  | .text _, worded | .bytes _, worded | .day _, worded | .moment _, worded | .list _, worded
  | .pair .., worded | .set _, worded => worded

theorem exists_of_isText {value : Value} (text : isText value = true) :
    ∃ name, value = .text name := by
  cases value with
  | text name => exact ⟨name, rfl⟩
  | _ => cases text

theorem Worded.own {schema : Value} (worded : Worded schema) :
    ∀ entry ∈ ownProperties schema, ∃ name, entry.1 = .text name := by
  intro entry listed
  exact exists_of_isText (List.all_eq_true.mp (worded schema .self) entry listed)

theorem Worded.part {schema part : Value} (worded : Worded schema)
    (member : part ∈ parts (bare schema)) : Worded part :=
  (throughout_iff.mp (worded_bare schema worded)).2 part member

section

variable {schema : Value} {name : String}

theorem ownProperties_eq (object : shape (bare schema) = .object) :
    ownProperties schema = properties (declared (bare schema)) := if_pos object

theorem memberSchemas_eq (composed : shape (bare schema) = .allOf) :
    memberSchemas schema = parts (bare schema) := if_pos composed

theorem not_declares (object : shape (bare schema) ≠ .object) (composed : shape (bare schema) ≠ .allOf) :
    ¬ Declares name schema := by
  rintro (listed | ⟨listed, _⟩)
  · rw [ownProperties, if_neg object] at listed
    cases listed
  · rw [memberSchemas, if_neg composed] at listed
    cases listed

theorem declares_iff_own (object : shape (bare schema) = .object) :
    Declares name schema ↔ ∃ part, (.text name, part) ∈ ownProperties schema := by
  constructor
  · rintro (listed | ⟨listed, _⟩)
    · exact ⟨_, listed⟩
    · rw [memberSchemas, object, if_neg nofun] at listed
      cases listed
  · rintro ⟨part, listed⟩
    exact .own listed

theorem declares_iff_member (composed : shape (bare schema) = .allOf) :
    Declares name schema ↔ ∃ member ∈ memberSchemas schema, Declares name member := by
  constructor
  · rintro (listed | ⟨listed, declares⟩)
    · rw [ownProperties, composed, if_neg nofun] at listed
      cases listed
    · exact ⟨_, listed, declares⟩
  · rintro ⟨member, listed, declares⟩
    exact .member listed declares

end

/-! ## What a shape makes of parts -/

/-- The property that an entry of a mapping declares. -/
def EntryOf (required : List Value) (entry : Value × Value) (property : String × TypeNode) : Prop :=
  propertyName? entry.1 = some property.1 ∧
    map (decide (entry.1 ∈ required)) entry.2 = .ok property.2

theorem entries_of_mapEntries {required : List Value} {entries : List (Value × Value)}
    {found : List (String × TypeNode)} (mapped : mapEntries required entries = .ok found) :
    List.Forall₂ (EntryOf required) entries found := by
  induction entries generalizing found with
  | nil =>
      rw [← Except.ok.inj mapped]
      exact .nil
  | cons entry rest ih =>
      obtain ⟨key, schema⟩ := entry
      rw [mapEntries] at mapped
      obtain ⟨node, first, mapped⟩ := bind_eq_ok.mp mapped
      obtain ⟨others, later, made⟩ := bind_eq_ok.mp mapped
      split at made
      · next name named =>
          rw [← Except.ok.inj made]
          exact .cons ⟨named, first⟩ (ih later)
      · cases made

theorem entries_of_mapProperties {required : List Value} {entries : List (Value × Value)}
    {found : List (String × TypeNode)} (mapped : mapProperties required entries = .ok found) :
    List.Forall₂ (EntryOf required) (properties entries) found := by
  rw [mapProperties_eq] at mapped
  rw [properties]
  cases field : Value.fieldOf "properties" entries with
  | none =>
      rw [field] at mapped
      rw [← Except.ok.inj mapped]
      exact .nil
  | some value =>
      rw [field] at mapped
      refine entries_of_mapEntries ?_
      cases value with
      | recurring content =>
          cases content with
          | map inner =>
              cases inner with
              | nil => cases mapped
              | cons first rest => exact mapped
          | _ => exact mapped
      | _ => exact mapped

theorem nodes_of_mapMembers {entries : List (Value × Value)} {nodes : List TypeNode}
    (mapped : mapMembers entries = .ok nodes) :
    List.Forall₂ (fun member node => map false member = .ok node)
      (((Value.fieldOf "allOf" entries).map listed).getD []) nodes := by
  have ends := (succeeds_mapMembers.mp ⟨nodes, mapped⟩).1
  rw [mapMembers_eq] at mapped
  cases field : Value.fieldOf "allOf" entries with
  | none =>
      rw [field] at mapped
      rw [← Except.ok.inj mapped]
      exact .nil
  | some value =>
      rw [field] at mapped ends
      have listed := mapList_eq fun same => ends (congrArg some same)
      exact mapM_eq_ok.mp (listed.symm.trans mapped)

/-- What the shape of a schema makes of its parts. -/
inductive Mapped (required : Bool) (schema : Value) : TypeNode → Prop
  | scalar (kind : ScalarKind) (literals : Option (List Value))
      (object : shape schema ≠ .object) (composed : shape schema ≠ .allOf) :
      Mapped required schema (.scalar required kind literals)
  | reference (name : String)
      (object : shape schema ≠ .object) (composed : shape schema ≠ .allOf) :
      Mapped required schema (.reference required name)
  | empty (object : shape schema ≠ .object) (composed : shape schema ≠ .allOf) :
      Mapped required schema (.empty required)
  | array {items : TypeNode}
      (object : shape schema ≠ .object) (composed : shape schema ≠ .allOf)
      (flag : items.required = false) (inner : ∀ part ∈ parts schema, map false part = .ok items) :
      Mapped required schema (.array required items)
  | object {found : List (String × TypeNode)} (object : shape schema = .object)
      (entries : List.Forall₂ (EntryOf (requiredNames schema)) (properties (declared schema)) found) :
      Mapped required schema (.object required (putProperties [] found) [])
  | composed {nodes : List TypeNode} (composed : shape schema = .allOf)
      (members : List.Forall₂ (fun member node => map false member = .ok node)
        (parts schema) nodes) :
      Mapped required schema (mergedObject required nodes)

theorem items_of_mapItems {entries : List (Value × Value)} {items : TypeNode}
    (mapped : mapItems entries = .ok items) :
    items.required = false ∧
      ∀ part ∈ (Value.fieldOf "items" entries).toList, map false part = .ok items := by
  rw [mapItems_eq] at mapped
  cases field : Value.fieldOf "items" entries with
  | none =>
      rw [field] at mapped
      rw [← Except.ok.inj mapped]
      exact ⟨rfl, nofun⟩
  | some value =>
      rw [field] at mapped
      refine ⟨required_of_map mapped, fun part member => ?_⟩
      rw [List.mem_singleton.mp member]
      exact mapped

theorem mapped_of_map_entries {required : Bool} {entries : List (Value × Value)} {node : TypeNode}
    (mapped : map required (.map entries) = .ok node) : Mapped required (.map entries) node := by
  rw [map] at mapped
  cases shaped : shape (.map entries) with
  | allOf =>
      rw [shaped] at mapped
      obtain ⟨nodes, found, made⟩ := bind_eq_ok.mp mapped
      rw [← Except.ok.inj made]
      refine .composed shaped ?_
      rw [parts, shaped]
      exact nodes_of_mapMembers found
  | array =>
      rw [shaped] at mapped
      obtain ⟨items, found, made⟩ := bind_eq_ok.mp mapped
      obtain ⟨flag, inner⟩ := items_of_mapItems found
      rw [← Except.ok.inj made]
      refine .array (by rw [shaped]; decide) (by rw [shaped]; decide) flag ?_
      rw [parts, shaped]
      exact inner
  | object =>
      rw [shaped] at mapped
      obtain ⟨found, declares, made⟩ := bind_eq_ok.mp mapped
      rw [← Except.ok.inj made]
      exact .object shaped (entries_of_mapProperties declares)
  | ref =>
      rw [shaped] at mapped
      rw [← Except.ok.inj mapped]
      exact .reference _ (by rw [shaped]; decide) (by rw [shaped]; decide)
  | choice | scalar =>
      rw [shaped] at mapped
      rw [← Except.ok.inj mapped]
      exact .scalar _ _ (by rw [shaped]; decide) (by rw [shaped]; decide)
  | empty =>
      rw [shaped] at mapped
      rw [← Except.ok.inj mapped]
      exact .empty (by rw [shaped]; decide) (by rw [shaped]; decide)

theorem mapped_of_map {required : Bool} {node : TypeNode} :
    (schema : Value) → map required schema = .ok node → Mapped required (bare schema) node
  | .map _, mapped => mapped_of_map_entries mapped
  | .recurring content, mapped => mapped_of_map content (map_of_recurring mapped)
  | .null, mapped | .bool _, mapped | .int _, mapped | .float _, mapped | .text _, mapped
  | .bytes _, mapped | .day _, mapped | .moment _, mapped | .list _, mapped | .pair .., mapped
  | .set _, mapped => by
      have made : .ok (TypeNode.empty required) = (.ok node : Except Fault TypeNode) := mapped
      rw [← Except.ok.inj made]
      exact .empty nofun nofun

/-! ## Names -/

variable {name : String}

theorem mem_names_of_entries {required : List Value} {entries : List (Value × Value)}
    {found : List (String × TypeNode)} (mapped : List.Forall₂ (EntryOf required) entries found)
    (worded : ∀ entry ∈ entries, ∃ name, entry.1 = .text name) :
    name ∈ found.map Prod.fst ↔ ∃ part, (.text name, part) ∈ entries := by
  constructor
  · intro member
    obtain ⟨property, listed, rfl⟩ := List.mem_map.mp member
    obtain ⟨⟨key, part⟩, declared, named, _⟩ := exists_of_forall₂ mapped.flip listed
    obtain ⟨text, rfl⟩ := worded _ declared
    cases named
    exact ⟨part, declared⟩
  · rintro ⟨part, declared⟩
    obtain ⟨property, listed, named, _⟩ := exists_of_forall₂ mapped declared
    cases named
    exact List.mem_map_of_mem listed

theorem nodup_of_members {members : List Value} {nodes : List TypeNode}
    (mapped : List.Forall₂ (fun member node => map false member = .ok node) members nodes) :
    ∀ node ∈ nodes, node.propertyNames.Nodup := by
  intro node listed
  obtain ⟨member, _, made⟩ := exists_of_forall₂ mapped.flip listed
  exact nodup_propertyNames_of_map member made

/-- The properties of a node are those that its schema declares. -/
theorem mem_propertyNames_iff (schema : Value) : ∀ {required : Bool} {node : TypeNode},
    Worded schema → map required schema = .ok node →
      (name ∈ node.propertyNames ↔ Declares name schema) := by
  induction schema using forall_of_parts_bare with
  | step schema inner =>
      intro required node worded mapped
      cases mapped_of_map schema mapped with
      | scalar _ _ object composed => exact iff_of_false nofun (not_declares object composed)
      | reference _ object composed => exact iff_of_false nofun (not_declares object composed)
      | empty object composed => exact iff_of_false nofun (not_declares object composed)
      | array object composed => exact iff_of_false nofun (not_declares object composed)
      | object object entries =>
          have texts := worded.own
          rw [ownProperties_eq object] at texts
          rw [declares_iff_own object, ownProperties_eq object, ← mem_names_of_entries entries texts]
          exact mem_map_fst_putProperties.trans (or_iff_right nofun)
      | composed composed members =>
          rw [declares_iff_member composed, memberSchemas_eq composed]
          refine ((mergedFrom_merge (nodup_of_members members)).has name).trans ?_
          constructor
          · rintro ⟨node, listed, named⟩
            obtain ⟨member, given, made⟩ := exists_of_forall₂ members.flip listed
            exact ⟨member, given, (inner member given (worded.part given) made).mp named⟩
          · rintro ⟨member, given, declares⟩
            obtain ⟨node, listed, made⟩ := exists_of_forall₂ members given
            exact ⟨node, listed, (inner member given (worded.part given) made).mpr declares⟩

/-! ## Flags -/

/-- A property that is required exactly where the object schema that gives it requires its name, and
so are those inside of it. -/
def FlaggedProperty (schema : Value) (property : String × TypeNode) : Prop :=
  ∃ origin part, Gives property.1 origin part schema ∧
    (property.2.required = true ↔ .text property.1 ∈ requiredNames origin) ∧
    Flagged part property.2

theorem flaggedProperties_iff {schema : Value} {properties : List (String × TypeNode)} :
    FlaggedProperties schema properties ↔ ∀ property ∈ properties, FlaggedProperty schema property := by
  induction properties with
  | nil => exact iff_of_true trivial nofun
  | cons property rest ih => rw [FlaggedProperties, List.forall_mem_cons, ih]; rfl

theorem flaggedProperty_of_mem {schema : Value} {node : TypeNode} {property : String × TypeNode}
    (flagged : Flagged schema node) (held : property ∈ node.properties) :
    FlaggedProperty schema property := by
  cases node with
  | object => exact flaggedProperties_iff.mp flagged property held
  | _ => cases held

/-- The partner of the last result of a kind is followed only by partners of other results. -/
theorem last_of_forall₂ {α β : Type} {relation : α → β → Prop} {holds : β → Bool}
    {items : List α} {results : List β} (related : List.Forall₂ relation items results) {last : β}
    (found : (results.filter holds).getLast? = some last) :
    ∃ before item after, items = before ++ item :: after ∧ relation item last ∧
      ∀ other ∈ after, ∃ result, relation other result ∧ holds result = false := by
  induction related with
  | nil => cases found
  | @cons item result items results first others ih =>
      cases later : (results.filter holds).getLast? with
      | some known =>
          have same : known = last := by
            rw [List.filter_cons] at found
            split at found
            · rw [List.getLast?_cons, later] at found
              exact Option.some.inj found
            · exact Option.some.inj (later.symm.trans found)
          obtain ⟨before, partner, after, rfl, partners, behind⟩ := ih (same ▸ later)
          exact ⟨item :: before, partner, after, rfl, partners, behind⟩
      | none =>
          have without := List.filter_eq_nil_iff.mp (List.getLast?_eq_none_iff.mp later)
          have same : result = last := by
            rw [List.filter_cons, List.getLast?_eq_none_iff.mp later] at found
            split at found
            · exact Option.some.inj found
            · cases found
          refine ⟨[], item, items, rfl, same ▸ first, fun other member => ?_⟩
          obtain ⟨partner, listed, partners⟩ := exists_of_forall₂ others member
          exact ⟨partner, partners, Bool.eq_false_iff.mpr (without partner listed)⟩

theorem parts_of_object {schema : Value} (object : shape schema = .object) :
    parts schema = (properties (declared schema)).map Prod.snd := by
  cases schema with
  | map entries =>
      rw [parts, object]
      rfl
  | _ => cases object

/-- The flags inside of a node are those of its schema. -/
theorem flagged_of_map (schema : Value) : ∀ {required : Bool} {node : TypeNode},
    Worded schema → map required schema = .ok node → Flagged schema node := by
  induction schema using forall_of_parts_bare with
  | step schema inner =>
      intro required node worded mapped
      cases mapped_of_map schema mapped with
      | scalar | reference | empty => trivial
      | array _ _ flag items =>
          exact ⟨flag, fun part member => inner part member (worded.part member) (items part member)⟩
      | object object entries =>
          refine flaggedProperties_iff.mpr fun (name, node) listed => ?_
          have found := List.mem_of_getLast? (mem_putProperties_nil.mp listed)
          obtain ⟨⟨key, part⟩, given, named, made⟩ :=
            exists_of_forall₂ entries.flip (List.mem_filter.mp found).1
          have declared := ownProperties_eq object ▸ given
          obtain ⟨text, rfl⟩ := worded.own _ declared
          cases named
          have member : part ∈ parts (bare schema) := by
            rw [parts_of_object object]
            exact List.mem_map_of_mem given
          refine ⟨bare schema, part, .own rfl declared, ?_,
            inner part member (worded.part member) made⟩
          rw [required_of_map made, decide_eq_true_iff]
      | composed composed members =>
          refine flaggedProperties_iff.mpr fun (name, node) listed => ?_
          obtain ⟨provider, last, held⟩ := (mem_merge (nodup_of_members members)).mp listed
          obtain ⟨before, member, after, split, made, behind⟩ := last_of_forall₂ members last
          have given : member ∈ parts (bare schema) := by simp [split]
          have flagged := inner member given (worded.part given) made
          obtain ⟨origin, part, gives, flag, below⟩ := flaggedProperty_of_mem flagged held
          have inOrder := (memberSchemas_eq composed).trans split
          refine ⟨origin, part, .member inOrder gives fun other later declares => ?_, flag, below⟩
          obtain ⟨result, mapped, without⟩ := behind other later
          have inside : other ∈ parts (bare schema) := by simp [split, later]
          have named := (mem_propertyNames_iff other (worded.part inside) mapped).mpr declares
          exact absurd named (of_decide_eq_false without)

/-- A schema has the same node whether it is required or not, but for that flag itself, and there is
one exactly if the schema is mappable. Inside of the node, no items of arrays are required, and a
property is required exactly if the object schema that gives it requires its name. -/
theorem map_optionality {schema : Value} (worded : Worded schema) :
    map true schema = (map false schema).map (withRequired true) ∧
      (Succeeds (map false schema) ↔ Mappable schema) ∧
      ∀ required node, map required schema = .ok node →
        node.required = required ∧ Flagged schema node :=
  ⟨map_withRequired true false schema, succeeds_map_iff false schema, fun _ _ mapped =>
    ⟨required_of_map mapped, flagged_of_map schema worded mapped⟩⟩

/-- Three members declare the name: the first requires it, the last has no list of names. The tags are
required inside of a composition of their own, and have items with a required property. -/
def catMembers : List Value :=
  [.map [(.text "required", .list [.text "name", .text "tags"]),
      (.text "properties", .map [(.text "name", .map [(.text "type", .text "string")])])],
    composed [.map [(.text "$ref", .text "#/definitions/Pet")],
      .map [(.text "required", .list [.text "tags"]),
        (.text "properties", .map [(.text "tags", .map [(.text "items", .map
          [(.text "required", .list [.text "id"]),
            (.text "properties", .map [(.text "id", .map [(.text "type", .text "integer")])])])])])]],
    .map [(.text "required", .text "name"),
      (.text "properties", .map [(.text "name", .map [(.text "type", .text "string")])])]]

theorem catMembers_optionality :
    map true (composed catMembers) = .ok (.object true
      [("name", .scalar false .string none),
        ("tags", .array true (.object false [("id", .scalar true .number none)] []))] ["Pet"]) ∧
    Worded (composed catMembers) ∧
    map true (composed catMembers) = (map false (composed catMembers)).map (withRequired true) ∧
    (Succeeds (map false (composed catMembers)) ↔ Mappable (composed catMembers)) ∧
    ∀ required node, map required (composed catMembers) = .ok node →
      node.required = required ∧ Flagged (composed catMembers) node := by
  have worded : Worded (composed catMembers) :=
    throughout_of_allWithin (by decide : allWithin parts _ 6 (composed catMembers) = true)
  exact ⟨rfl, worded, map_optionality worded⟩

end ClientGen.Schema
