import ClientGen.Schema.TypeNode
import Mathlib.Data.List.Induction
import Mathlib.Data.List.Nodup

/-!
# Properties and references

Properties are set and names are collected one after the other, in the order in which they come up
first.
-/

/-!
## Names that nodes refer to

Collecting names in order of first mention keeps each of them once and loses none. The mentions of
properties come from their nodes.
-/

namespace ClientGen.TypeNode

theorem mem_addName {names : List String} {name other : String} :
    other ∈ addName names name ↔ other ∈ names ∨ other = name := by
  rw [addName]
  split
  · next known =>
      constructor
      · exact Or.inl
      · rintro (found | rfl)
        · exact found
        · exact known
  · rw [List.mem_append, List.mem_singleton]

theorem nodup_addName {names : List String} (distinct : names.Nodup) (name : String) :
    (addName names name).Nodup := by
  rw [addName]
  split
  · exact distinct
  · next unknown =>
      refine List.nodup_append.mpr ⟨distinct, by simp, ?_⟩
      rintro found member other equal rfl
      exact unknown (List.mem_singleton.mp equal ▸ member)

/-- The names that were there and the new ones, and no others. -/
theorem mem_addNames {names new : List String} {name : String} :
    name ∈ addNames names new ↔ name ∈ names ∨ name ∈ new := by
  induction new generalizing names with
  | nil => simp [addNames]
  | cons first rest ih =>
      have step : addNames names (first :: rest) = addNames (addName names first) rest := rfl
      rw [step, ih, mem_addName, List.mem_cons, or_assoc]

theorem nodup_addNames {names : List String} (distinct : names.Nodup) (new : List String) :
    (addNames names new).Nodup := by
  induction new generalizing names with
  | nil => exact distinct
  | cons first rest ih => exact ih (nodup_addName distinct first)

theorem addNames_append (names first second : List String) :
    addNames names (first ++ second) = addNames (addNames names first) second :=
  List.foldl_append

theorem addNames_concat (names new : List String) (last : String) :
    addNames names (new ++ [last]) = addName (addNames names new) last :=
  addNames_append names new [last]

/-- Names that are collected from nothing are those that were given, each at its first place. -/
theorem addNames_nil (names : List String) : addNames [] names = names.eraseDups := by
  induction names using List.reverseRecOn with
  | nil => rfl
  | append_singleton names last ih =>
      rw [addNames_concat, ih, addName, List.eraseDups_append]
      by_cases known : last ∈ names <;> simp [List.removeAll, List.eraseDups_cons, known]

/-- Names that were collected before can be added as they were given. -/
theorem addNames_addNames_nil (names new : List String) :
    addNames names (addNames [] new) = addNames names new := by
  induction new using List.reverseRecOn with
  | nil => rfl
  | append_singleton new last ih =>
      rw [addNames_concat, addNames_concat, ← ih, addName]
      split
      · next known =>
          have held : last ∈ addNames names (addNames [] new) := mem_addNames.mpr (Or.inr known)
          rw [addName, if_pos held]
      · exact addNames_concat names _ last

/-- A node refers to the names that it mentions. -/
theorem mem_references {node : TypeNode} {name : String} :
    name ∈ node.references ↔ name ∈ node.mentions := by
  rw [references, mem_addNames]
  simp

/-- The names that several nodes refer to, each of them once. -/
def referencesOfAll (nodes : List TypeNode) : List String :=
  addNames [] (nodes.flatMap references)

theorem mem_referencesOfAll {nodes : List TypeNode} {name : String} :
    name ∈ referencesOfAll nodes ↔ ∃ node ∈ nodes, name ∈ node.mentions := by
  rw [referencesOfAll, mem_addNames, List.mem_flatMap]
  simp only [List.not_mem_nil, false_or, mem_references]

theorem nodup_referencesOfAll (nodes : List TypeNode) : (referencesOfAll nodes).Nodup :=
  nodup_addNames List.nodup_nil _

/-! ## Properties -/

theorem mentionsOfProperties_putProperty (name : String) (node : TypeNode)
    (properties : List (String × TypeNode)) :
    mentionsOfProperties (putProperty name node properties) ⊆
      mentionsOfProperties properties ++ node.mentions := by
  induction properties with
  | nil => simp [putProperty, mentionsOfProperties]
  | cons property rest ih =>
      obtain ⟨other, old⟩ := property
      intro found member
      rw [putProperty] at member
      rw [mentionsOfProperties, List.mem_append, List.mem_append]
      split at member
      · rcases List.mem_append.mp member with new | later
        · exact Or.inr new
        · exact Or.inl (Or.inr later)
      · rcases List.mem_append.mp member with known | later
        · exact Or.inl (Or.inl known)
        · rcases List.mem_append.mp (ih later) with kept | new
          · exact Or.inl (Or.inr kept)
          · exact Or.inr new

/-- Setting properties adds no mentions but those of the new nodes. -/
theorem mentionsOfProperties_putProperties (new : List (String × TypeNode)) :
    ∀ properties : List (String × TypeNode),
      mentionsOfProperties (putProperties properties new) ⊆
        mentionsOfProperties properties ++ mentionsOfProperties new := by
  induction new with
  | nil =>
      intro properties
      exact List.subset_append_left _ _
  | cons property rest ih =>
      intro properties
      obtain ⟨name, node⟩ := property
      refine List.Subset.trans (ih (putProperty name node properties)) ?_
      rw [mentionsOfProperties, ← List.append_assoc]
      refine List.append_subset.mpr ⟨?_, List.subset_append_right _ _⟩
      exact List.subset_append_of_subset_left _ (mentionsOfProperties_putProperty name node properties)

end ClientGen.TypeNode

/-!
## Properties in order

Setting properties one after the other gives one property for each name, in the order in which the
names come up first.
-/

namespace ClientGen.TypeNode

variable {name other : String} {node : TypeNode} {properties new : List (String × TypeNode)}

/-! ## One property -/

theorem mem_map_fst_putProperty :
    other ∈ (putProperty name node properties).map Prod.fst ↔
      other ∈ properties.map Prod.fst ∨ other = name := by
  induction properties with
  | nil => simp [putProperty]
  | cons property rest ih =>
      rw [putProperty]
      split
      · next same => simp only [List.map_cons, List.mem_cons, ← same]; tauto
      · rw [List.map_cons, List.map_cons, List.mem_cons, List.mem_cons, ih, or_assoc]

theorem nodup_putProperty (distinct : (properties.map Prod.fst).Nodup) :
    ((putProperty name node properties).map Prod.fst).Nodup := by
  induction properties with
  | nil => exact List.nodup_singleton name
  | cons property rest ih =>
      obtain ⟨first, others⟩ := List.nodup_cons.mp distinct
      rw [putProperty]
      split
      · exact distinct
      · next different =>
          refine List.nodup_cons.mpr ⟨fun member => ?_, ih others⟩
          rcases mem_map_fst_putProperty.mp member with known | same
          · exact first known
          · exact different same

/-- A new name goes to the end. -/
theorem putProperty_eq_append (absent : name ∉ properties.map Prod.fst) :
    putProperty name node properties = properties ++ [(name, node)] := by
  induction properties with
  | nil => rfl
  | cons property rest ih =>
      rw [List.map_cons, List.mem_cons, not_or] at absent
      rw [putProperty, if_neg (Ne.symm absent.1), ih absent.2, List.cons_append]

/-! ## Several properties -/

theorem putProperties_cons (property : String × TypeNode) (properties : List (String × TypeNode)) :
    putProperties properties (property :: new) =
      putProperties (putProperty property.1 property.2 properties) new := rfl

/-- The names that were there and the new ones, and no others. -/
theorem mem_map_fst_putProperties :
    name ∈ (putProperties properties new).map Prod.fst ↔
      name ∈ properties.map Prod.fst ∨ name ∈ new.map Prod.fst := by
  induction new generalizing properties with
  | nil => simp [putProperties]
  | cons property rest ih =>
      rw [putProperties_cons, ih, mem_map_fst_putProperty, List.map_cons, List.mem_cons, or_assoc]

theorem nodup_putProperties (distinct : (properties.map Prod.fst).Nodup) :
    ((putProperties properties new).map Prod.fst).Nodup := by
  induction new generalizing properties with
  | nil => exact distinct
  | cons property rest ih => exact ih (nodup_putProperty distinct)

theorem nodup_putProperties_nil (new : List (String × TypeNode)) :
    ((putProperties [] new).map Prod.fst).Nodup :=
  nodup_putProperties List.nodup_nil

/-- Names that are new and differ from each other go to the end one after the other. -/
theorem putProperties_eq_append (distinct : ((properties ++ new).map Prod.fst).Nodup) :
    putProperties properties new = properties ++ new := by
  induction new generalizing properties with
  | nil => exact (List.append_nil _).symm
  | cons property rest ih =>
      have absent : property.1 ∉ properties.map Prod.fst := by
        rw [List.map_append, List.nodup_append] at distinct
        exact fun member => distinct.2.2 _ member _ List.mem_cons_self rfl
      rw [List.append_cons] at distinct ⊢
      rw [putProperties_cons, putProperty_eq_append absent, ih distinct]

theorem putProperties_nil (distinct : (new.map Prod.fst).Nodup) : putProperties [] new = new :=
  putProperties_eq_append distinct

/-! ## Order -/

/-- The names keep their order, and a new one goes to the end. -/
theorem map_fst_putProperty :
    (putProperty name node properties).map Prod.fst = addName (properties.map Prod.fst) name := by
  induction properties with
  | nil => simp [putProperty, addName]
  | cons property rest ih =>
      rw [putProperty]
      split
      · next same => simp [addName, same]
      · next different =>
          rw [List.map_cons, ih, addName, addName]
          by_cases known : name ∈ rest.map Prod.fst <;> simp [known, Ne.symm different]

theorem map_fst_putProperties :
    (putProperties properties new).map Prod.fst =
      addNames (properties.map Prod.fst) (new.map Prod.fst) := by
  induction new generalizing properties with
  | nil => rfl
  | cons property rest ih =>
      rw [putProperties_cons, ih, map_fst_putProperty]
      rfl

/-! ## The last node of a name -/

theorem mem_putProperty {property : String × TypeNode}
    (distinct : (properties.map Prod.fst).Nodup) :
    property ∈ putProperty name node properties ↔
      property = (name, node) ∨ property.1 ≠ name ∧ property ∈ properties := by
  induction properties with
  | nil => simp [putProperty]
  | cons first rest ih =>
      obtain ⟨first_new, others⟩ := List.nodup_cons.mp distinct
      have later : property ∈ rest → property.1 ≠ first.1 := by
        rintro member same
        exact first_new (same ▸ List.mem_map_of_mem member)
      rw [putProperty]
      split
      · next same =>
          subst same
          simp only [List.mem_cons]
          constructor
          · rintro (rfl | member)
            · exact Or.inl rfl
            · exact Or.inr ⟨later member, Or.inr member⟩
          · rintro (rfl | ⟨different, rfl | member⟩)
            · exact Or.inl rfl
            · exact absurd rfl different
            · exact Or.inr member
      · next different =>
          rw [List.mem_cons, ih others, List.mem_cons]
          constructor
          · rintro (rfl | rfl | kept)
            · exact Or.inr ⟨different, Or.inl rfl⟩
            · exact Or.inl rfl
            · exact Or.inr ⟨kept.1, Or.inr kept.2⟩
          · rintro (rfl | ⟨apart, rfl | member⟩)
            · exact Or.inr (Or.inl rfl)
            · exact Or.inl rfl
            · exact Or.inr (Or.inr ⟨apart, member⟩)

theorem putProperties_append (properties first second : List (String × TypeNode)) :
    putProperties properties (first ++ second) =
      putProperties (putProperties properties first) second :=
  List.foldl_append

theorem putProperties_concat (properties new : List (String × TypeNode))
    (last : String × TypeNode) :
    putProperties properties (new ++ [last]) =
      putProperty last.1 last.2 (putProperties properties new) :=
  putProperties_append properties new [last]

/-- A property has the node that was given to its name last. -/
theorem mem_putProperties_nil :
    (name, node) ∈ putProperties [] new ↔
      (new.filter fun property => property.1 = name).getLast? = some (name, node) := by
  induction new using List.reverseRecOn with
  | nil => simp [putProperties]
  | append_singleton new last ih =>
      rw [putProperties_concat, mem_putProperty (nodup_putProperties_nil new), ih,
        List.filter_append, List.getLast?_append]
      obtain ⟨other, held⟩ := last
      by_cases same : other = name
      · subst same
        simp [eq_comm]
      · simp [same, Ne.symm same]

/-- Nothing but what was given is set. -/
theorem mem_of_mem_putProperties_nil {property : String × TypeNode}
    (member : property ∈ putProperties [] new) : property ∈ new :=
  List.mem_of_mem_filter (List.mem_of_getLast? (mem_putProperties_nil.mp member))

/-! ## Properties set twice -/

theorem putProperty_putProperty_self (name : String) (first second : TypeNode)
    (properties : List (String × TypeNode)) :
    putProperty name second (putProperty name first properties) =
      putProperty name second properties := by
  induction properties with
  | nil => simp [putProperty]
  | cons property rest ih =>
      by_cases same : property.1 = name <;> simp [putProperty, same, ih]

/-- Properties of two names can be set in any order once one of the names has its place. -/
theorem putProperty_comm (different : name ≠ other) (known : name ∈ properties.map Prod.fst)
    (first second : TypeNode) :
    putProperty name first (putProperty other second properties) =
      putProperty other second (putProperty name first properties) := by
  induction properties with
  | nil => cases known
  | cons property rest ih =>
      rw [List.map_cons, List.mem_cons] at known
      by_cases here : property.1 = name
      · simp [putProperty, here, different]
      · have later := known.resolve_left (Ne.symm here)
        by_cases there : property.1 = other
        · simp [putProperty, there, Ne.symm different]
        · simp [putProperty, here, there, ih later]

theorem putProperty_putProperties (known : name ∈ properties.map Prod.fst)
    (unset : name ∉ new.map Prod.fst) :
    putProperty name node (putProperties properties new) =
      putProperties (putProperty name node properties) new := by
  induction new generalizing properties with
  | nil => rfl
  | cons property rest ih =>
      rw [List.map_cons, List.mem_cons, not_or] at unset
      have held : name ∈ (putProperty property.1 property.2 properties).map Prod.fst :=
        mem_map_fst_putProperty.mpr (Or.inl known)
      rw [putProperties_cons, putProperties_cons, ih held unset.2,
        putProperty_comm unset.1 known]

/-- A property that is set in what is put on top is set on top. -/
theorem putProperties_putProperty (distinct : (new.map Prod.fst).Nodup) :
    putProperties properties (putProperty name node new) =
      putProperty name node (putProperties properties new) := by
  -- Were the name in `new` twice, the later node would win on the left only.
  induction new generalizing properties with
  | nil => rfl
  | cons property rest ih =>
      obtain ⟨first_new, others⟩ := List.nodup_cons.mp distinct
      rw [putProperty]
      split
      · next same =>
          subst same
          have held : property.1 ∈ (putProperty property.1 property.2 properties).map Prod.fst :=
            mem_map_fst_putProperty.mpr (Or.inr rfl)
          rw [putProperties_cons, putProperties_cons, putProperty_putProperties held first_new,
            putProperty_putProperty_self]
      · rw [putProperties_cons, putProperties_cons, ih others]

/-- Properties that were put together before can be put on top as they came. -/
theorem putProperties_putProperties_nil (properties new : List (String × TypeNode)) :
    putProperties properties (putProperties [] new) = putProperties properties new := by
  induction new using List.reverseRecOn with
  | nil => rfl
  | append_singleton new last ih =>
      rw [putProperties_concat, putProperties_concat,
        putProperties_putProperty (nodup_putProperties_nil new), ih]

end ClientGen.TypeNode
