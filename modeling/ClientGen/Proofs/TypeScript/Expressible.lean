import ClientGen.Proofs.Inside
import ClientGen.Proofs.TypeScript.Fragment

/-!
# Literals that are written

A value has a JSON text exactly if JSON has a form for each of its parts, whatever the style. A type
node has a type expression exactly if all literals in it have a JSON text.
-/

namespace ClientGen

/-! ## Values -/

namespace Json

/-- The values that a value consists of. -/
def parts : Value → List Value
  | .list items => items
  | .pair key value => [key, value]
  | .map entries => entries.map Prod.snd
  | _ => []

/-- A key that can be the name of a member. -/
def IsName : Value → Prop
  | .text _ | .null | .bool _ | .float _ => True
  | .int n => Numeral.isWritable n = true
  | _ => False

/-- A value that has a form in JSON, if its parts have one. -/
def HasForm : Value → Prop
  | .null | .bool _ | .float _ | .text _ | .list _ | .pair _ _ => True
  | .int n => Numeral.isWritable n = true
  | .map entries => ∀ entry ∈ entries, IsName entry.1
  | _ => False

/-- A value that JSON can express. -/
def Expressible (value : Value) : Prop := Throughout parts HasForm value

theorem succeeds_intText {n : Int} : Succeeds (intText n) ↔ Numeral.isWritable n = true := by
  rw [intText, Numeral.text?]
  split
  · next found =>
      split at found
      · next writable => exact iff_of_true (succeeds_ok _) writable
      · cases found
  · next missing =>
      split at missing
      · cases missing
      · next unwritable => exact iff_of_false (not_succeeds_error _) unwritable

theorem succeeds_keyText {key : Value} : Succeeds (keyText key) ↔ IsName key := by
  cases key with
  | int n => exact succeeds_intText
  | null => exact iff_of_true (succeeds_ok _) trivial
  | bool b => exact iff_of_true (succeeds_ok _) trivial
  | float x => exact iff_of_true (succeeds_ok _) trivial
  | text s => exact iff_of_true (succeeds_ok _) trivial
  | _ => exact iff_of_false (not_succeeds_error _) id

variable {style : Style}

theorem succeeds_writeItems {level : Nat} {items : List Value} :
    Succeeds (writeItems style level items) ↔
      ∀ item ∈ items, Succeeds (write style level item) := by
  induction items with
  | nil => exact iff_of_true (succeeds_ok _) nofun
  | cons item rest ih =>
      rw [writeItems, List.forall_mem_cons, ← ih]
      exact succeeds_bind_iff fun _ _ => succeeds_bind_ok

theorem succeeds_writeEntries {level : Nat} {entries : List (Value × Value)} :
    Succeeds (writeEntries style level entries) ↔
      ∀ entry ∈ entries, IsName entry.1 ∧ Succeeds (write style level entry.2) := by
  induction entries with
  | nil => exact iff_of_true (succeeds_ok _) nofun
  | cons entry rest ih =>
      obtain ⟨key, value⟩ := entry
      rw [writeEntries, List.forall_mem_cons, ← ih, and_assoc, ← succeeds_keyText]
      exact succeeds_bind_iff fun _ _ => succeeds_bind_iff fun _ _ => succeeds_bind_ok

theorem sizeOf_lt_of_mem_parts {value member : Value} (inside : member ∈ parts value) :
    sizeOf member < sizeOf value := by
  cases value with
  | list items =>
      have : sizeOf member < sizeOf items := List.sizeOf_lt_of_mem inside
      simp only [Value.list.sizeOf_spec]
      omega
  | pair key held =>
      simp only [Value.pair.sizeOf_spec]
      rcases List.mem_pair.mp inside with rfl | rfl <;> omega
  | map entries =>
      obtain ⟨entry, listed, rfl⟩ := List.mem_map.mp inside
      have := List.sizeOf_lt_of_mem listed
      obtain ⟨key, held⟩ := entry
      simp only [Value.map.sizeOf_spec, Prod.mk.sizeOf_spec] at *
      omega
  | _ => cases inside

/-- A value is written if it has a form and its parts are written. -/
theorem succeeds_write_of_parts {value : Value}
    (inside : ∀ member ∈ parts value, ∀ level,
      Succeeds (write style level member) ↔ Expressible member) (level : Nat) :
    Succeeds (write style level value) ↔ Expressible value := by
  rw [Expressible, throughout_iff]
  cases value with
  | null => exact iff_of_true (succeeds_ok _) ⟨trivial, nofun⟩
  | bool b => exact iff_of_true (succeeds_ok _) ⟨trivial, nofun⟩
  | float x => exact iff_of_true (succeeds_ok _) ⟨trivial, nofun⟩
  | text s => exact iff_of_true (succeeds_ok _) ⟨trivial, nofun⟩
  | int n => exact succeeds_intText.trans (and_iff_left nofun).symm
  | list items =>
      rw [write, succeeds_bind_ok, succeeds_writeItems]
      refine Iff.trans ?_ (and_iff_right trivial).symm
      exact forall₂_congr fun item member => inside item member (level + 1)
  | pair key held =>
      rw [write]
      refine (succeeds_bind_iff fun _ _ => succeeds_bind_ok).trans ?_
      rw [inside key List.mem_cons_self, inside held (List.mem_cons_of_mem _ List.mem_cons_self)]
      refine Iff.trans ?_ (and_iff_right trivial).symm
      simp only [parts, List.forall_mem_cons, List.not_mem_nil, false_imp_iff, forall_const,
        and_true]
      rfl
  | map entries =>
      rw [write, succeeds_bind_ok, succeeds_writeEntries, forall₂_and]
      refine and_congr_right fun _ => ?_
      simp only [parts, List.forall_mem_map] at inside ⊢
      exact forall₂_congr fun entry member => inside entry member (level + 1)
  | _ => exact iff_of_false (not_succeeds_error _) fun holds => holds.1

/-- A value has a JSON text exactly if JSON can express it. -/
theorem succeeds_write_iff (style : Style) (level : Nat) (value : Value) :
    Succeeds (write style level value) ↔ Expressible value :=
  succeeds_write_of_parts (fun member _ level => succeeds_write_iff style level member) level
termination_by sizeOf value
decreasing_by exact sizeOf_lt_of_mem_parts ‹_›

end Json

/-! ## Type nodes -/

namespace TypeNode

/-- The nodes that a node consists of. -/
def children : TypeNode → List TypeNode
  | .array _ items => [items]
  | .object _ properties _ => properties.map Prod.snd
  | _ => []

/-- The literals that a node is restricted to. -/
def literals : TypeNode → List Value
  | .scalar _ _ literals => literals.getD []
  | _ => []

/-- A node with literals that JSON can express, at all depths. -/
def Expressible (node : TypeNode) : Prop :=
  Throughout children (fun part => ∀ literal ∈ part.literals, Json.Expressible literal) node

theorem sizeOf_lt_of_mem_children {node child : TypeNode} (inside : child ∈ node.children) :
    sizeOf child < sizeOf node := by
  cases node with
  | array required items =>
      rw [List.mem_singleton.mp inside]
      simp only [TypeNode.array.sizeOf_spec]
      omega
  | object required properties bases =>
      obtain ⟨property, listed, rfl⟩ := List.mem_map.mp inside
      have := List.sizeOf_lt_of_mem listed
      obtain ⟨name, held⟩ := property
      simp only [TypeNode.object.sizeOf_spec, Prod.mk.sizeOf_spec] at *
      omega
  | _ => cases inside

end TypeNode

namespace TypeScript

variable {convention : Name.Convention}

theorem succeeds_scalar {kind : ScalarKind} {literals : Option (List Value)} :
    Succeeds (scalar kind literals) ↔
      ∀ literal ∈ literals.getD [], Json.Expressible literal := by
  have union_iff : ∀ list : List Value, Succeeds (union list) ↔
      ∀ literal ∈ list, Json.Expressible literal := by
    intro list
    rw [union, succeeds_bind_ok, succeeds_mapM]
    exact forall₂_congr fun literal _ => Json.succeeds_write_iff _ _ literal
  cases literals with
  | none => exact iff_of_true (succeeds_ok _) nofun
  | some list =>
      cases list with
      | nil => exact iff_of_true (succeeds_ok _) nofun
      | cons first rest => exact union_iff (first :: rest)

theorem succeeds_propertyParts {level : Int} {properties : List (String × TypeNode)} :
    Succeeds (propertyParts convention level properties) ↔ ∀ property ∈ properties,
      Succeeds (fragments convention "any" (level + 1) property.2) := by
  induction properties with
  | nil => exact iff_of_true (succeeds_ok _) nofun
  | cons property rest ih =>
      obtain ⟨name, node⟩ := property
      rw [propertyParts, List.forall_mem_cons, ← ih]
      exact succeeds_bind_iff fun _ _ => succeeds_bind_ok

/-- A node has fragments if its own literals are expressible and its children have fragments. -/
theorem succeeds_fragments_of_children {node : TypeNode}
    (inside : ∀ child ∈ node.children, ∀ empty level,
      Succeeds (fragments convention empty level child) ↔ child.Expressible)
    (empty : String) (level : Int) :
    Succeeds (fragments convention empty level node) ↔ node.Expressible := by
  rw [TypeNode.Expressible, throughout_iff]
  cases node with
  | scalar required kind literals =>
      rw [fragments, succeeds_bind_ok, succeeds_scalar]
      exact (and_iff_left nofun).symm
  | array required items =>
      rw [fragments, succeeds_bind_ok, inside items List.mem_cons_self]
      simp only [TypeNode.literals, TypeNode.children, List.not_mem_nil, false_imp_iff,
        forall_const, true_and, List.mem_singleton, forall_eq]
      rfl
  | object required properties bases =>
      have children : (∀ child ∈ (TypeNode.object required properties bases).children,
          child.Expressible) ↔ Succeeds (propertyParts convention level properties) := by
        rw [succeeds_propertyParts]
        simp only [TypeNode.children, List.forall_mem_map] at inside ⊢
        exact forall₂_congr fun property member => (inside property member "any" (level + 1)).symm
      refine Iff.trans ?_ (children.symm.trans (and_iff_right nofun).symm)
      rw [fragments]
      split
      · next bare =>
          -- The properties of an object that is only its bases are not written: there are none.
          have none : properties = [] := by
            simpa using (Bool.and_eq_true_iff.mp bare).1
          rw [none]
          exact iff_of_true (succeeds_ok _) (succeeds_ok _)
      · refine (succeeds_bind_iff fun lines _ => ?_).trans (and_iff_left trivial)
        exact iff_true_intro (succeeds_ok _)
  | reference required name => exact iff_of_true (succeeds_ok _) ⟨nofun, nofun⟩
  | empty required => exact iff_of_true (succeeds_ok _) ⟨nofun, nofun⟩

/-- A node has fragments exactly if all literals in it are expressible. -/
theorem succeeds_fragments_iff (convention : Name.Convention) (empty : String) (level : Int)
    (node : TypeNode) : Succeeds (fragments convention empty level node) ↔ node.Expressible :=
  succeeds_fragments_of_children
    (fun child _ empty level => succeeds_fragments_iff convention empty level child) empty level
termination_by sizeOf node
decreasing_by exact TypeNode.sizeOf_lt_of_mem_children ‹_›

end TypeScript

end ClientGen
