import ClientGen.Proofs.Name.Spelling
import ClientGen.Proofs.Schema.Properties
import ClientGen.Proofs.TypeScript.Expressible
import ClientGen.Proofs.TypeScript.PathParts

/-!
# Type expressions and path literals with other names

What a naming convention does to a type expression and to a path literal is to spell names: the
property names of the node, and the names between the braces of the path. Both come out the same if
the names are spelled beforehand and then kept.
-/

/-!
## Nodes with other property names

A naming convention can be applied to the names of all properties of a node at once. Where no two
names of one object come out the same, the node keeps its shape and the definitions that it refers
to.
-/

namespace ClientGen

namespace TypeNode

/-! ## Other names -/

mutual

/-- The node with every property name, at every depth, spelled by a convention. A property whose
name comes out like that of an earlier one takes its place. -/
def respelled (convention : Name.Convention) : TypeNode → TypeNode
  | .array required items => .array required (respelled convention items)
  | .object required properties bases =>
      .object required (putProperties [] (respelledProperties convention properties)) bases
  | .scalar required kind literals => .scalar required kind literals
  | .reference required name => .reference required name
  | .empty required => .empty required

/-- Properties with every name spelled by a convention. -/
def respelledProperties (convention : Name.Convention) :
    List (String × TypeNode) → List (String × TypeNode)
  | [] => []
  | (name, node) :: rest =>
      (convention.apply name, respelled convention node) :: respelledProperties convention rest

end

/-- A node in which no two properties of one object, at any depth, have names that a convention
spells alike. -/
def KeysApart (convention : Name.Convention) (node : TypeNode) : Prop :=
  Throughout children
    (fun part => (part.properties.map fun property => convention.apply property.1).Nodup) node

variable {convention : Name.Convention}

theorem keysApart_array_iff {required : Bool} {items : TypeNode} :
    KeysApart convention (.array required items) ↔ KeysApart convention items := by
  rw [KeysApart, throughout_iff]
  refine Iff.trans (and_iff_right List.nodup_nil) ?_
  exact List.forall_mem_singleton

theorem keysApart_object_iff {required : Bool} {properties : List (String × TypeNode)}
    {bases : List String} :
    KeysApart convention (.object required properties bases) ↔
      (properties.map fun property => convention.apply property.1).Nodup ∧
        ∀ property ∈ properties, KeysApart convention property.2 := by
  rw [KeysApart, throughout_iff]
  exact and_congr_right fun _ => List.forall_mem_map

@[simp]
theorem keysApart_scalar (required : Bool) (kind : ScalarKind) (literals : Option (List Value)) :
    KeysApart convention (.scalar required kind literals) :=
  throughout_iff.mpr ⟨List.nodup_nil, List.forall_mem_nil _⟩

@[simp]
theorem keysApart_reference (required : Bool) (name : String) :
    KeysApart convention (.reference required name) :=
  throughout_iff.mpr ⟨List.nodup_nil, List.forall_mem_nil _⟩

theorem required_respelled (node : TypeNode) :
    (node.respelled convention).required = node.required := by
  cases node <;> rfl

theorem map_fst_respelledProperties (properties : List (String × TypeNode)) :
    (respelledProperties convention properties).map Prod.fst =
      properties.map fun property => convention.apply property.1 := by
  induction properties with
  | nil => rfl
  | cons property rest ih => rw [respelledProperties, List.map_cons, List.map_cons, ih]

theorem isEmpty_respelledProperties (properties : List (String × TypeNode)) :
    (respelledProperties convention properties).isEmpty = properties.isEmpty := by
  cases properties <;> rfl

/-- Where names stay apart no property takes the place of another one. -/
theorem respelled_object {required : Bool} {properties : List (String × TypeNode)}
    {bases : List String} (apart : KeysApart convention (.object required properties bases)) :
    (TypeNode.object required properties bases).respelled convention =
      .object required (respelledProperties convention properties) bases := by
  rw [respelled, putProperties_nil]
  rw [map_fst_respelledProperties]
  exact (keysApart_object_iff.mp apart).1

/-! ## References -/

mutual

/-- Other property names leave the definitions that a node mentions. -/
theorem mentions_respelled : (node : TypeNode) → KeysApart convention node →
    (node.respelled convention).mentions = node.mentions
  | .array _ items, apart => by
      rw [respelled, mentions, mentions, mentions_respelled items (keysApart_array_iff.mp apart)]
  | .object _ properties _, apart => by
      have inner := mentionsOfProperties_respelled properties (keysApart_object_iff.mp apart).2
      rw [respelled_object apart, mentions, mentions, inner]
  | .scalar .., _ => rfl
  | .reference .., _ => rfl
  | .empty _, _ => rfl

theorem mentionsOfProperties_respelled : (properties : List (String × TypeNode)) →
    (∀ property ∈ properties, KeysApart convention property.2) →
    mentionsOfProperties (respelledProperties convention properties) =
      mentionsOfProperties properties
  | [], _ => rfl
  | (_, node) :: rest, apart => by
      obtain ⟨first, others⟩ := List.forall_mem_cons.mp apart
      rw [respelledProperties, mentionsOfProperties, mentionsOfProperties,
        mentions_respelled node first, mentionsOfProperties_respelled rest others]

end

theorem references_respelled {node : TypeNode} (apart : KeysApart convention node) :
    (node.respelled convention).references = node.references := by
  rw [references, references, mentions_respelled node apart]

/-- Other property names leave the references of several nodes. -/
theorem flatMap_references_respelled {nodes : List TypeNode}
    (apart : ∀ node ∈ nodes, KeysApart convention node) :
    (nodes.map (respelled convention)).flatMap references = nodes.flatMap references := by
  induction nodes with
  | nil => rfl
  | cons node rest ih =>
      obtain ⟨first, others⟩ := List.forall_mem_cons.mp apart
      rw [List.map_cons, List.flatMap_cons, List.flatMap_cons, references_respelled first,
        ih others]

end TypeNode

end ClientGen

namespace ClientGen.TypeScript

open TypeNode

/-! ## Type expressions -/

variable {convention : Name.Convention}

theorem propertyKey_apply (name : String) :
    propertyKey (convention.apply name) .preserve = propertyKey name convention := by
  rw [propertyKey, propertyKey, Name.Convention.apply_preserve]

mutual

/-- A convention spells the property names in a type expression and does nothing else to it. -/
theorem fragments_respelled (empty : String) (level : Int) : (node : TypeNode) →
    KeysApart convention node →
    fragments .preserve empty level (node.respelled convention) =
      fragments convention empty level node
  | .array _ items, apart => by
      rw [respelled, fragments, fragments,
        fragments_respelled "any" level items (keysApart_array_iff.mp apart)]
  | .object _ properties _, apart => by
      have inner := propertyParts_respelled level properties (keysApart_object_iff.mp apart).2
      rw [respelled_object apart, fragments, fragments, isEmpty_respelledProperties, inner]
  | .scalar .., _ => by rw [respelled, fragments, fragments]
  | .reference .., _ => by rw [respelled, fragments, fragments]
  | .empty _, _ => by rw [respelled, fragments, fragments]

theorem propertyParts_respelled (level : Int) : (properties : List (String × TypeNode)) →
    (∀ property ∈ properties, KeysApart convention property.2) →
    propertyParts .preserve level (respelledProperties convention properties) =
      propertyParts convention level properties
  | [], _ => rfl
  | (name, node) :: rest, apart => by
      obtain ⟨first, others⟩ := List.forall_mem_cons.mp apart
      rw [respelledProperties, propertyParts, propertyParts, propertyKey_apply,
        required_respelled, fragments_respelled "any" (level + 1) node first,
        propertyParts_respelled level rest others]

end

/-! ## Path literals -/

/-- The part with its name spelled by a convention. -/
def PathPart.respelled (convention : Name.Convention) : PathPart → PathPart
  | .static text => .static text
  | .placeholder name => .placeholder (convention.applyChars name)

/-- A path with every name in braces spelled by a convention. -/
def respelledPath (convention : Name.Convention) (path : String) : String :=
  String.ofList ((pathParts path.toList).flatMap fun part => (part.respelled convention).source)

/-- A path with other names is divided at the same places. -/
theorem divided_respelled {parts : List PathPart} (divided : Divided parts) :
    Divided (parts.map (PathPart.respelled convention)) := by
  induction divided with
  | nil => exact .nil
  | last present unpaired => exact .last present unpaired
  | next opens closes _ ih =>
      exact .next opens (Name.brace_notMem_applyChars convention closes) ih

theorem pathParts_respelledPath (path : String) :
    pathParts (respelledPath convention path).toList =
      (pathParts path.toList).map (PathPart.respelled convention) := by
  rw [respelledPath, String.toList_ofList, ← List.flatMap_map]
  exact pathParts_source (divided_respelled (divided_pathParts path.toList))

theorem renderPart_respelled (target : String) (part : PathPart) :
    renderPart target .preserve (part.respelled convention) =
      renderPart target convention part := by
  cases part with
  | static text => rfl
  | placeholder name =>
      rw [PathPart.respelled, renderPart, renderPart, propertyAccess, propertyAccess,
        Name.Convention.apply_preserve, Name.Convention.apply, String.toList_ofList]

/-- A convention spells the names in a path literal and does nothing else to it. -/
theorem pathLiteral_respelledPath (convention : Name.Convention) (path target : String) :
    pathLiteral (respelledPath convention path) target .preserve =
      pathLiteral path target convention := by
  rw [pathLiteral, pathLiteral, pathParts_respelledPath, List.flatMap_map]
  simp only [renderPart_respelled]

example : respelledPath .snake "/pets/\x7bpetId\x7d" = "/pets/\x7bpet_id\x7d" := rfl

end ClientGen.TypeScript
