import ClientGen.Proofs.Result
import ClientGen.Proofs.Schema.Properties
import ClientGen.Proofs.Value.Pointers
import ClientGen.Schema.Mapping

/-!
# Names in mapped schemas

A type node mentions a definition only where its schema points to one. Compositions and repeated
properties drop some mentions and add none.
-/

namespace ClientGen.Schema

/-! ## Compositions -/

/-- The names that merged members mention. -/
def Merged.mentions (merged : Merged) : List String :=
  merged.bases ++ TypeNode.mentionsOfProperties merged.properties

theorem mentions_add (merged : Merged) (node : TypeNode) :
    (merged.add node).mentions ⊆ merged.mentions ++ node.mentions := by
  intro name member
  cases node with
  | object required properties bases =>
      rw [Merged.add, Merged.mentions, List.mem_append, TypeNode.mem_addNames] at member
      rw [Merged.mentions, TypeNode.mentions]
      simp only [List.mem_append]
      rcases member with (old | new) | inside
      · exact Or.inl (Or.inl old)
      · exact Or.inr (Or.inl new)
      · rcases List.mem_append.mp (TypeNode.mentionsOfProperties_putProperties _ _ inside)
          with old | new
        · exact Or.inl (Or.inr old)
        · exact Or.inr (Or.inr new)
  | reference required base =>
      rw [Merged.add, Merged.mentions, List.mem_append, TypeNode.mem_addName] at member
      rw [Merged.mentions, TypeNode.mentions]
      simp only [List.mem_append, List.mem_singleton]
      rcases member with (old | new) | inside
      · exact Or.inl (Or.inl old)
      · exact Or.inr new
      · exact Or.inl (Or.inr inside)
  | _ => exact List.mem_append_left _ member

theorem mentions_foldl_add (members : List TypeNode) :
    ∀ merged : Merged, (members.foldl Merged.add merged).mentions ⊆
      merged.mentions ++ members.flatMap TypeNode.mentions := by
  induction members with
  | nil =>
      intro merged
      exact List.subset_append_left _ _
  | cons node rest ih =>
      intro merged
      refine List.Subset.trans (ih (merged.add node)) ?_
      rw [List.flatMap_cons, ← List.append_assoc]
      refine List.append_subset.mpr ⟨?_, List.subset_append_right _ _⟩
      exact List.subset_append_of_subset_left _ (mentions_add merged node)

/-- Merged members mention what the members mention. -/
theorem mentions_merge (members : List TypeNode) :
    (merge members).mentions ⊆ members.flatMap TypeNode.mentions :=
  mentions_foldl_add members ⟨[], []⟩

/-! ## Mapping -/

/-- Names to which pointers lead. -/
def Pointed (pointers names : List String) : Prop := names ⊆ pointers.map Pointer.name

theorem Pointed.nil (pointers : List String) : Pointed pointers [] := List.nil_subset _

theorem Pointed.mono {pointers more names : List String} (pointed : Pointed pointers names)
    (subset : pointers ⊆ more) : Pointed more names :=
  List.Subset.trans pointed (List.map_subset _ subset)

theorem Pointed.append {pointers names others : List String} (pointed : Pointed pointers names)
    (rest : Pointed pointers others) : Pointed pointers (names ++ others) :=
  List.append_subset.mpr ⟨pointed, rest⟩

theorem pointed_putProperties {pointers : List String} {properties : List (String × TypeNode)}
    (pointed : Pointed pointers (TypeNode.mentionsOfProperties properties)) :
    Pointed pointers
      (TypeNode.mentionsOfProperties (TypeNode.putProperties [] properties)) :=
  List.Subset.trans (TypeNode.mentionsOfProperties_putProperties properties []) pointed

/-- The pointers of the first entry are those at its key and in its value. -/
theorem Pointed.value {pointers names : List String} {key value : Value}
    (pointed : Pointed value.pointers names) :
    Pointed (Value.pointerAt key value ++ (value.pointers ++ pointers)) names :=
  pointed.mono (List.subset_append_of_subset_right _ (List.subset_append_left _ _))

theorem Pointed.rest {first second pointers names : List String} (pointed : Pointed pointers names) :
    Pointed (first ++ (second ++ pointers)) names :=
  pointed.mono (List.subset_append_of_subset_right _ (List.subset_append_right _ _))

/-- A reference is the name to which the pointer of its schema leads. -/
theorem pointed_reference {required : Bool} {schema : Value} (shaped : shape schema = .ref) :
    Pointed schema.pointers
      (TypeNode.reference required (Pointer.name ((pointer? schema).getD ""))).mentions := by
  have given : (pointer? schema).isSome = true := by
    by_contra none
    rw [shape, if_neg none] at shaped
    repeat' split at shaped
    all_goals cases shaped
  obtain ⟨pointer, found⟩ := Option.isSome_iff_exists.mp given
  have member := Value.mem_pointers_of_field? found
  rw [found, TypeNode.mentions]
  intro name single
  rw [List.mem_singleton.mp single]
  exact List.mem_map_of_mem member

open Value

mutual

/-- The names that a mapped schema mentions are those to which its pointers lead. -/
theorem pointed_map (required : Bool) :
    (schema : Value) → {node : TypeNode} → map required schema = .ok node →
      Pointed schema.pointers node.mentions
  | .map entries, node, mapped => by
      rw [map] at mapped
      split at mapped
      · next shaped =>
          rw [← Except.ok.inj mapped]
          exact pointed_reference shaped
      · obtain ⟨members, found, made⟩ := bind_eq_ok.mp mapped
        rw [← Except.ok.inj made]
        exact List.Subset.trans (mentions_merge members) (pointed_mapMembers entries found)
      · rw [← Except.ok.inj mapped]
        exact Pointed.nil _
      · obtain ⟨items, found, made⟩ := bind_eq_ok.mp mapped
        have inner := pointed_mapItems entries found
        rw [← Except.ok.inj made, TypeNode.mentions]
        exact inner
      · obtain ⟨properties, found, made⟩ := bind_eq_ok.mp mapped
        rw [← Except.ok.inj made]
        exact pointed_putProperties (pointed_mapProperties _ entries found)
      · rw [← Except.ok.inj mapped]
        exact Pointed.nil _
      · rw [← Except.ok.inj mapped]
        exact Pointed.nil _
  | .recurring content, node, mapped => by
      rw [pointers]
      exact pointed_map required content (map_of_recurring mapped)
  | .null, node, mapped | .bool _, node, mapped | .int _, node, mapped | .float _, node, mapped
  | .text _, node, mapped | .bytes _, node, mapped | .day _, node, mapped
  | .moment _, node, mapped | .list _, node, mapped | .pair _ _, node, mapped
  | .set _, node, mapped => by
      have made : .ok (TypeNode.empty required) = (.ok node : Except Fault TypeNode) := mapped
      rw [← Except.ok.inj made]
      exact Pointed.nil _

theorem pointed_mapItems :
    (entries : List (Value × Value)) → {node : TypeNode} → mapItems entries = .ok node →
      Pointed (pointersOfEntries entries) node.mentions
  | [], node, mapped => by
      rw [← Except.ok.inj mapped]
      exact Pointed.nil _
  | (key, value) :: rest, node, mapped => by
      have part : map false value = .ok node ∨ mapItems rest = .ok node := by
        cases key with
        | text name =>
            rw [mapItems] at mapped
            split at mapped
            · exact Or.inl mapped
            · exact Or.inr mapped
        | _ => exact Or.inr mapped
      rw [pointersOfEntries]
      rcases part with found | later
      · exact (pointed_map false value found).value
      · exact (pointed_mapItems rest later).rest

theorem pointed_mapMembers :
    (entries : List (Value × Value)) → {nodes : List TypeNode} → mapMembers entries = .ok nodes →
      Pointed (pointersOfEntries entries) (nodes.flatMap TypeNode.mentions)
  | [], nodes, mapped => by
      rw [← Except.ok.inj mapped]
      exact Pointed.nil _
  | (key, value) :: rest, nodes, mapped => by
      have part : mapList value = .ok nodes ∨ mapMembers rest = .ok nodes := by
        cases key with
        | text name =>
            rw [mapMembers] at mapped
            split at mapped
            · exact Or.inl mapped
            · exact Or.inr mapped
        | _ => exact Or.inr mapped
      rw [pointersOfEntries]
      rcases part with found | later
      · exact (pointed_mapList value found).value
      · exact (pointed_mapMembers rest later).rest

theorem pointed_mapList :
    (schemas : Value) → {nodes : List TypeNode} → mapList schemas = .ok nodes →
      Pointed schemas.pointers (nodes.flatMap TypeNode.mentions)
  | schemas, nodes, mapped => by
      cases schemas with
      | list schemas =>
          rw [pointers]
          exact pointed_mapAll schemas mapped
      | recurring content =>
          cases content with
          | list schemas =>
              cases schemas with
              | nil => cases mapped
              | cons first rest =>
                  rw [pointers, pointers]
                  exact pointed_mapAll (first :: rest) mapped
          | _ =>
              cases mapped
              exact Pointed.nil _
      | _ =>
          cases mapped
          exact Pointed.nil _

theorem pointed_mapAll :
    (schemas : List Value) → {nodes : List TypeNode} → mapAll schemas = .ok nodes →
      Pointed (pointersOfItems schemas) (nodes.flatMap TypeNode.mentions)
  | [], nodes, mapped => by
      rw [← Except.ok.inj mapped]
      exact Pointed.nil _
  | schema :: rest, nodes, mapped => by
      rw [mapAll] at mapped
      obtain ⟨node, found, remaining⟩ := bind_eq_ok.mp mapped
      obtain ⟨others, later, made⟩ := bind_eq_ok.mp remaining
      rw [← Except.ok.inj made, pointersOfItems, List.flatMap_cons]
      exact ((pointed_map false schema found).mono (List.subset_append_left _ _)).append
        ((pointed_mapAll rest later).mono (List.subset_append_right _ _))

theorem pointed_mapProperties (required : List Value) :
    (entries : List (Value × Value)) → {properties : List (String × TypeNode)} →
      mapProperties required entries = .ok properties →
      Pointed (pointersOfEntries entries) (TypeNode.mentionsOfProperties properties)
  | [], properties, mapped => by
      rw [← Except.ok.inj mapped]
      exact Pointed.nil _
  | (key, value) :: rest, properties, mapped => by
      have part : mapMapping required value = .ok properties ∨
          mapProperties required rest = .ok properties := by
        cases key with
        | text name =>
            rw [mapProperties] at mapped
            split at mapped
            · exact Or.inl mapped
            · exact Or.inr mapped
        | _ => exact Or.inr mapped
      rw [pointersOfEntries]
      rcases part with found | later
      · exact (pointed_mapMapping required value found).value
      · exact (pointed_mapProperties required rest later).rest

theorem pointed_mapMapping (required : List Value) :
    (value : Value) → {properties : List (String × TypeNode)} →
      mapMapping required value = .ok properties →
      Pointed value.pointers (TypeNode.mentionsOfProperties properties)
  | value, properties, mapped => by
      cases value with
      | map entries =>
          rw [pointers]
          exact pointed_mapEntries required entries mapped
      | recurring content =>
          cases content with
          | map entries =>
              cases entries with
              | nil => cases mapped
              | cons first rest =>
                  rw [pointers, pointers]
                  exact pointed_mapEntries required (first :: rest) mapped
          | _ =>
              cases mapped
              exact Pointed.nil _
      | _ =>
          cases mapped
          exact Pointed.nil _

theorem pointed_mapEntries (required : List Value) :
    (entries : List (Value × Value)) → {properties : List (String × TypeNode)} →
      mapEntries required entries = .ok properties →
      Pointed (pointersOfEntries entries) (TypeNode.mentionsOfProperties properties)
  | [], properties, mapped => by
      rw [← Except.ok.inj mapped]
      exact Pointed.nil _
  | (key, schema) :: rest, properties, mapped => by
      rw [mapEntries] at mapped
      obtain ⟨node, found, remaining⟩ := bind_eq_ok.mp mapped
      obtain ⟨others, later, made⟩ := bind_eq_ok.mp remaining
      rw [pointersOfEntries]
      split at made
      · rw [← Except.ok.inj made]
        exact (pointed_map _ schema found).value.append (pointed_mapEntries required rest later).rest
      · cases made

end

end ClientGen.Schema
