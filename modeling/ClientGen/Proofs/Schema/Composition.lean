import ClientGen.Proofs.Schema.Mappable
import ClientGen.Proofs.Schema.Properties

/-!
# Compositions

The members of a composition are merged in order. Of several nodes for one name the last is taken,
and its place is that of the first; a base is named once, where it is named first. A member that is
a composition itself can be replaced by its own members.
-/

namespace ClientGen

namespace TypeNode

/-- The bases that a member of a composition gives to it. -/
def baseNames : TypeNode → List String
  | .object _ _ bases => bases
  | .reference _ name => [name]
  | .scalar .. | .array .. | .empty _ => []

/-- Whether a member gives anything to a composition: objects and references do. -/
def isComposable : TypeNode → Bool
  | .object .. | .reference .. => true
  | .scalar .. | .array .. | .empty _ => false

/-- The names of an object's properties, none for other nodes. -/
def propertyNames (node : TypeNode) : List String := node.properties.map Prod.fst

end TypeNode

namespace Schema

open TypeNode

/-! ## Merging -/

theorem Merged.add_eq (merged : Merged) (node : TypeNode) :
    merged.add node =
      ⟨putProperties merged.properties node.properties, addNames merged.bases node.baseNames⟩ := by
  cases node <;> rfl

theorem foldl_add_eq (nodes : List TypeNode) (merged : Merged) :
    nodes.foldl Merged.add merged =
      ⟨putProperties merged.properties (nodes.flatMap TypeNode.properties),
        addNames merged.bases (nodes.flatMap baseNames)⟩ := by
  induction nodes generalizing merged with
  | nil => rfl
  | cons node rest ih =>
      rw [List.foldl_cons, ih, Merged.add_eq, List.flatMap_cons, List.flatMap_cons,
        putProperties_append, addNames_append]

/-- Members are merged by setting their properties and collecting their bases one after the
other. -/
theorem merge_eq (nodes : List TypeNode) :
    merge nodes =
      ⟨putProperties [] (nodes.flatMap TypeNode.properties),
        addNames [] (nodes.flatMap baseNames)⟩ :=
  foldl_add_eq nodes ⟨[], []⟩

/-- The object that members are merged to. -/
def mergedObject (required : Bool) (nodes : List TypeNode) : TypeNode :=
  .object required (merge nodes).properties (merge nodes).bases

/-- Members that were merged before can be merged as they came. -/
theorem merge_flatten (required : Bool) (before nested after : List TypeNode) :
    merge (before ++ mergedObject required nested :: after) =
      merge (before ++ nested ++ after) := by
  have once : (merge before).add (mergedObject required nested) =
      nested.foldl Merged.add (merge before) := by
    rw [foldl_add_eq, mergedObject, Merged.add, merge_eq nested, putProperties_putProperties_nil,
      addNames_addNames_nil]
  calc
    merge (before ++ mergedObject required nested :: after) =
        after.foldl Merged.add ((merge before).add (mergedObject required nested)) := by
      simp [merge]
    _ = after.foldl Merged.add (nested.foldl Merged.add (merge before)) := by rw [once]
    _ = merge (before ++ nested ++ after) := by simp [merge]

theorem mergedObject_flatten (required inner : Bool) (before nested after : List TypeNode) :
    mergedObject required (before ++ mergedObject inner nested :: after) =
      mergedObject required (before ++ nested ++ after) := by
  rw [mergedObject, merge_flatten]
  rfl

/-- Only objects and references count. -/
theorem merge_filter (nodes : List TypeNode) :
    merge (nodes.filter isComposable) = merge nodes := by
  have skipped : ∀ merged node, isComposable node = false → Merged.add merged node = merged := by
    intro merged node other
    cases node with
    | object | reference => cases other
    | scalar | array | empty => rfl
  rw [merge, merge]
  generalize (⟨[], []⟩ : Merged) = merged
  induction nodes generalizing merged with
  | nil => rfl
  | cons node rest ih =>
      cases composable : isComposable node with
      | true => simp [composable, ih]
      | false => simp [composable, ih, skipped]

/-- A merged property has the node of the last member that has a property of its name. -/
theorem mem_merge {nodes : List TypeNode} (distinct : ∀ node ∈ nodes, node.propertyNames.Nodup)
    {name : String} {held : TypeNode} :
    (name, held) ∈ (merge nodes).properties ↔
      ∃ member, (nodes.filter fun node => name ∈ node.propertyNames).getLast? = some member ∧
        (name, held) ∈ member.properties := by
  rw [merge_eq]
  dsimp only
  rw [mem_putProperties_nil]
  -- From the end: the last member decides if it has the name, and is out of it otherwise.
  induction nodes using List.reverseRecOn with
  | nil => simp
  | append_singleton nodes last ih =>
      have earlier := ih fun node member => distinct node (List.mem_append_left _ member)
      have own : (last.properties.filter fun property => property.1 = name).getLast? =
          some (name, held) ↔ (name, held) ∈ last.properties := by
        rw [← mem_putProperties_nil, putProperties_nil (distinct last (by simp))]
      rw [List.flatMap_append, List.flatMap_singleton, List.filter_append, List.getLast?_append,
        List.filter_append, List.getLast?_append]
      by_cases named : name ∈ last.propertyNames
      · have kept : [last].filter (fun node => name ∈ node.propertyNames) = [last] := by
          simp [named]
        obtain ⟨property, listed, same⟩ := List.mem_map.mp named
        have nonempty : last.properties.filter (fun property => property.1 = name) ≠ [] :=
          List.ne_nil_of_mem (List.mem_filter.mpr ⟨listed, decide_eq_true same⟩)
        rw [List.getLast?_eq_some_getLast nonempty] at own ⊢
        rw [kept, Option.some_or, own]
        simp
      · have dropped : [last].filter (fun node => name ∈ node.propertyNames) = [] := by
          simp [named]
        have none : last.properties.filter (fun property => property.1 = name) = [] := by
          simp only [List.filter_eq_nil_iff, decide_eq_true_eq]
          rintro property listed rfl
          exact named (List.mem_map_of_mem listed)
        rw [dropped, none, List.getLast?_nil, List.getLast?_nil, Option.none_or, Option.none_or]
        exact earlier

/-! ## Composed schemas -/

/-- A schema that is composed of members. -/
def composed (members : List Value) : Value := .map [(.text "allOf", .list members)]

/-- A composition gives the object that its members are merged to. -/
theorem map_composed (required : Bool) (members : List Value) :
    map required (composed members) =
      members.mapM (map false) >>= fun nodes => .ok (mergedObject required nodes) := by
  have listed : mapMembers [(.text "allOf", .list members)] = members.mapM (map false) := by
    rw [mapMembers_eq]
    exact mapList_eq nofun
  rw [← listed]
  rfl

theorem map_composed_of_forall₂ {members : List Value} {nodes : List TypeNode}
    (mapped : List.Forall₂ (fun member node => map false member = .ok node) members nodes)
    (required : Bool) : map required (composed members) = .ok (mergedObject required nodes) := by
  rw [map_composed, mapM_eq_ok.mpr mapped]
  rfl

/-- A composition inside of a composition can be replaced by its members. Either way there is a node
exactly if all members are mappable. -/
theorem map_flattened (required : Bool) (before nested after : List Value) :
    map required (composed (before ++ [composed nested] ++ after)) =
        map required (composed (before ++ nested ++ after)) ∧
      (Succeeds (map required (composed (before ++ nested ++ after))) ↔
        ∀ member ∈ before ++ nested ++ after, Mappable member) := by
  constructor
  · -- Members are mapped in the same order on both sides, so that the first one to fail is the same.
    simp only [map_composed, List.mapM_append, List.mapM_cons, bind_assoc, pure_bind, ok_bind,
      List.append_assoc, List.singleton_append]
    simp only [← List.append_assoc, mergedObject_flatten]
  · rw [map_composed, succeeds_bind_ok, succeeds_mapM]
    exact forall₂_congr fun member _ => succeeds_map_iff false member

/-- The properties of a node have different names. -/
theorem nodup_propertyNames_of_map {required : Bool} :
    (schema : Value) → {node : TypeNode} → map required schema = .ok node →
      node.propertyNames.Nodup
  | .map entries, node, mapped => by
      rw [map] at mapped
      split at mapped
      · rw [← Except.ok.inj mapped]
        exact List.nodup_nil
      · obtain ⟨members, _, made⟩ := bind_eq_ok.mp mapped
        rw [← Except.ok.inj made, merge_eq]
        exact nodup_putProperties_nil _
      · rw [← Except.ok.inj mapped]
        exact List.nodup_nil
      · obtain ⟨items, _, made⟩ := bind_eq_ok.mp mapped
        rw [← Except.ok.inj made]
        exact List.nodup_nil
      · obtain ⟨properties, _, made⟩ := bind_eq_ok.mp mapped
        rw [← Except.ok.inj made]
        exact nodup_putProperties_nil _
      · rw [← Except.ok.inj mapped]
        exact List.nodup_nil
      · rw [← Except.ok.inj mapped]
        exact List.nodup_nil
  | .recurring content, _, mapped => nodup_propertyNames_of_map content (map_of_recurring mapped)
  | .null, node, mapped | .bool _, node, mapped | .int _, node, mapped | .float _, node, mapped
  | .text _, node, mapped | .bytes _, node, mapped | .day _, node, mapped
  | .moment _, node, mapped | .list _, node, mapped | .pair _ _, node, mapped
  | .set _, node, mapped => by
      have made : .ok (TypeNode.empty required) = (.ok node : Except Fault TypeNode) := mapped
      rw [← Except.ok.inj made]
      exact List.nodup_nil

/-- Whether a member gives anything to a composition. -/
def contributes (member : Value) : Bool :=
  match map false member with
  | .ok node => node.isComposable
  | .error _ => false

/-- The properties and bases of the object that some members make. The names stand where a member
has them first, each with the node of the last member that has the name; the bases are those of
the members, references among them, each where it comes up first. -/
structure MergedFrom (nodes : List TypeNode) (properties : List (String × TypeNode))
    (bases : List String) : Prop where
  has : ∀ name, name ∈ properties.map Prod.fst ↔ ∃ node ∈ nodes, name ∈ node.propertyNames
  order : properties.map Prod.fst = (nodes.flatMap propertyNames).eraseDups
  last : ∀ name held, (name, held) ∈ properties ↔
    ∃ member, (nodes.filter fun node => name ∈ node.propertyNames).getLast? = some member ∧
      (name, held) ∈ member.properties
  bases : bases = (nodes.flatMap baseNames).eraseDups

theorem mergedFrom_merge {nodes : List TypeNode}
    (distinct : ∀ node ∈ nodes, node.propertyNames.Nodup) :
    MergedFrom nodes (merge nodes).properties (merge nodes).bases := by
  have order : (merge nodes).properties.map Prod.fst =
      (nodes.flatMap propertyNames).eraseDups := by
    rw [merge_eq, map_fst_putProperties, List.map_nil, addNames_nil, List.map_flatMap]
    rfl
  refine { has := fun name => ?_, order, last := fun _ _ => mem_merge distinct, bases := ?_ }
  · rw [order, List.mem_eraseDups, List.mem_flatMap]
  · rw [merge_eq, addNames_nil]

/-- What a composition gives is what its members make, and the members that are neither objects nor
references might as well not be there. -/
theorem mergedFrom_composed {members : List Value}
    (mappable : ∀ member ∈ members, Mappable member) (required : Bool) :
    ∃ nodes properties bases,
      List.Forall₂ (fun member node => map false member = .ok node) members nodes ∧
        map required (composed members) = .ok (.object required properties bases) ∧
        MergedFrom nodes properties bases ∧
        map required (composed (members.filter contributes)) =
          map required (composed members) := by
  obtain ⟨nodes, mapped⟩ := exists_forall₂_iff.mpr fun member listed =>
    (succeeds_map_iff false member).mpr (mappable member listed)
  have distinct : ∀ node ∈ nodes, node.propertyNames.Nodup := by
    intro node listed
    obtain ⟨member, _, made⟩ := exists_of_forall₂ mapped.flip listed
    exact nodup_propertyNames_of_map member made
  have whole := map_composed_of_forall₂ mapped required
  refine ⟨nodes, _, _, mapped, whole, mergedFrom_merge distinct, ?_⟩
  have agree : ∀ member node, map false member = .ok node →
      (contributes member = true ↔ node.isComposable = true) := by
    intro member node made
    rw [contributes, made]
  have fewer := List.rel_filter agree mapped
  rw [whole, map_composed_of_forall₂ fewer required, mergedObject, merge_filter]
  rfl

/-- Members of all kinds: references, one of them twice, objects that share a name, a composition
with a base of its own, and a text that gives nothing. -/
def dogMembers : List Value :=
  [.map [(.text "$ref", .text "#/definitions/Pet")],
    .map [(.text "required", .list [.text "age"]),
      (.text "properties", .map [(.text "age", .map [(.text "type", .text "number")]),
        (.text "name", .map [(.text "type", .text "string")])])],
    .map [(.text "type", .text "string")],
    composed [.map [(.text "$ref", .text "#/definitions/Tagged")],
      .map [(.text "$ref", .text "#/definitions/Pet")],
      .map [(.text "properties", .map [(.text "tag", .map []),
        (.text "age", .map [(.text "type", .text "boolean")])])]],
    .map [(.text "$ref", .text "#/definitions/Tagged")]]

theorem dogMembers_merged :
    map true (composed dogMembers) = .ok (.object true
      [("age", .scalar false .boolean none), ("name", .scalar false .string none),
        ("tag", .empty false)] ["Pet", "Tagged"]) ∧
    (∀ member ∈ dogMembers, Mappable member) ∧
    ∃ nodes properties bases,
      List.Forall₂ (fun member node => map false member = .ok node) dogMembers nodes ∧
        map true (composed dogMembers) = .ok (.object true properties bases) ∧
        MergedFrom nodes properties bases ∧
        map true (composed (dogMembers.filter contributes)) = map true (composed dogMembers) := by
  have done : Succeeds (dogMembers.mapM (map false)) := ⟨_, rfl⟩
  have mappable : ∀ member ∈ dogMembers, Mappable member := fun member listed =>
    (succeeds_map_iff false member).mp (succeeds_mapM.mp done member listed)
  exact ⟨rfl, mappable, mergedFrom_composed mappable true⟩

end Schema

end ClientGen
