import ClientGen.Proofs.Json.Values

/-!
# Type nodes read back from JSON

The JSON form of a node says what the node is. Its members are looked up by their names at places
that the kind of the node decides, so that properties may have any names and literals any shape.
-/

namespace ClientGen

/-- The scalar kind with a name. -/
def ScalarKind.ofName? (name : String) : Option ScalarKind :=
  [ScalarKind.string, .number, .boolean, .any].find? fun kind => kind.name = name

theorem ScalarKind.ofName?_name (kind : ScalarKind) : ofName? kind.name = some kind := by
  cases kind <;> rfl

namespace TypeNode

/-! ## Members -/

/-- A truth value. -/
def truth? : Value → Option Bool
  | .bool b => some b
  | _ => none

/-- Optional literals: nothing for null. -/
def literalsOfJson? : Value → Option (Option (List Value))
  | .null => some none
  | .list items => some (some items)
  | _ => none

/-- The names in a list. -/
def namesOfJson? : Value → Option (List String)
  | .list items => items.mapM Value.text?
  | _ => none

/-- A scalar from the members of its JSON form. -/
def scalarOfJson? (required : Bool) (entries : List (Value × Value)) : Option TypeNode := do
  let name ← (Value.fieldOf "name" entries).bind Value.text?
  let kind ← ScalarKind.ofName? name
  let literals ← (Value.fieldOf "literals" entries).bind literalsOfJson?
  some (.scalar required kind literals)

/-! ## Nodes -/

mutual

/-- The node of a JSON form. -/
def ofJson? : Value → Option TypeNode
  | .map entries => do
      let required ← (Value.fieldOf "required" entries).bind truth?
      let kind ← (Value.fieldOf "kind" entries).bind Value.text?
      match kind with
      | "primitive" => scalarOfJson? required entries
      | "array" => do some (.array required (← itemsOfJson? entries))
      | "object" => do
          let properties ← propertiesOfJson? entries
          let bases ← (Value.fieldOf "bases" entries).bind namesOfJson?
          some (.object required properties bases)
      | "reference" => do
          let name ← (Value.fieldOf "name" entries).bind Value.text?
          some (.reference required name)
      | "empty" => some (.empty required)
      | _ => none
  | _ => none

/-- The node of the member for items. -/
def itemsOfJson? : List (Value × Value) → Option TypeNode
  | [] => none
  | (.text name, value) :: rest => if name = "items" then ofJson? value else itemsOfJson? rest
  | _ :: rest => itemsOfJson? rest

/-- The properties of the member for properties. -/
def propertiesOfJson? : List (Value × Value) → Option (List (String × TypeNode))
  | [] => none
  | (.text name, value) :: rest =>
      if name = "properties" then namedOfJson? value else propertiesOfJson? rest
  | _ :: rest => propertiesOfJson? rest

/-- The nodes of a mapping with their names. -/
def namedOfJson? : Value → Option (List (String × TypeNode))
  | .map entries => eachOfJson? entries
  | _ => none

/-- The nodes of entries with their names. -/
def eachOfJson? : List (Value × Value) → Option (List (String × TypeNode))
  | [] => some []
  | (.text name, value) :: rest => do
      let node ← ofJson? value
      let others ← eachOfJson? rest
      some ((name, node) :: others)
  | _ :: _ => none

end

/-! ## Reading back -/

/-- A node whose literals are their own JSON forms, at all depths. -/
def HasJsonLiterals (node : TypeNode) : Prop :=
  Throughout children (fun part => ∀ literal ∈ part.literals, literal.toJson = .ok literal) node

/-- A JSON form of a node from which it is read back. -/
def IsDump (node : TypeNode) (dump : Value) : Prop :=
  node.toJson = .ok dump ∧ ofJson? dump = some node

theorem literalsToJson_eq {literals : Option (List Value)}
    (json : ∀ literal ∈ literals.getD [], literal.toJson = .ok literal) :
    ∃ form, literalsToJson literals = .ok form ∧ literalsOfJson? form = some literals := by
  cases literals with
  | none => exact ⟨.null, rfl, rfl⟩
  | some list =>
      refine ⟨.list list, ?_, rfl⟩
      have written : Value.toJsonItems list = .ok list := Json.toJsonItems_eq_self json
      rw [literalsToJson, written]
      rfl

theorem namesOfJson?_map_text (names : List String) :
    namesOfJson? (.list (names.map .text)) = some names := by
  rw [namesOfJson?]
  induction names with
  | nil => rfl
  | cons name rest ih =>
      rw [List.map_cons, List.mapM_cons, ih]
      rfl

mutual

/-- A node is read back from its JSON form. -/
theorem exists_isDump : (node : TypeNode) → node.HasJsonLiterals → ∃ dump, IsDump node dump
  | .scalar required kind literals, json => by
      obtain ⟨form, written, decoded⟩ := literalsToJson_eq (throughout_iff.mp json).1
      refine ⟨_, by rw [toJson, written]; rfl, ?_⟩
      have named : scalarOfJson? required [(.text "required", .bool required),
          (.text "kind", .text "primitive"), (.text "name", .text kind.name),
          (.text "literals", form)] = some (.scalar required kind literals) := by
        simp [scalarOfJson?, Value.fieldOf, Value.text?, ScalarKind.ofName?_name, decoded]
      exact named
  | .array required items, json => by
      obtain ⟨dump, written, decoded⟩ :=
        exists_isDump items ((throughout_iff.mp json).2 items List.mem_cons_self)
      refine ⟨_, by rw [toJson, written]; rfl, ?_⟩
      show (ofJson? dump).bind (fun node => some (array required node)) = _
      rw [decoded]
      rfl
  | .object required properties bases, json => by
      obtain ⟨members, written, decoded⟩ := exists_isDump_properties properties
        fun property member => (throughout_iff.mp json).2 _ (List.mem_map_of_mem member)
      refine ⟨_, by rw [toJson, written]; rfl, ?_⟩
      show (namedOfJson? (Value.ofMembersNamed members)).bind (fun properties =>
        (namesOfJson? (.list (bases.map .text))).bind fun bases =>
          some (object required properties bases)) = _
      rw [decoded, namesOfJson?_map_text]
      rfl
  | .reference required name, _ => by
      refine ⟨_, by rw [toJson], ?_⟩
      rfl
  | .empty required, _ => ⟨_, by rw [toJson], rfl⟩

/-- Properties are read back from their JSON forms, in the same order and whatever their names. -/
theorem exists_isDump_properties : (properties : List (String × TypeNode)) →
    (∀ property ∈ properties, property.2.HasJsonLiterals) →
    ∃ members, propertiesToJson properties = .ok members ∧
      namedOfJson? (Value.ofMembersNamed members) = some properties
  | [], _ => ⟨[], rfl, rfl⟩
  | (name, node) :: rest, json => by
      obtain ⟨here, there⟩ := List.forall_mem_cons.mp json
      obtain ⟨dump, written, decoded⟩ := exists_isDump node here
      obtain ⟨members, others, later⟩ := exists_isDump_properties rest there
      refine ⟨(name, dump) :: members, ?_, ?_⟩
      · rw [propertiesToJson, written, others]
        rfl
      · show (ofJson? dump).bind (fun node => (namedOfJson? (Value.ofMembersNamed members)).bind
          fun others => some ((name, node) :: others)) = _
        rw [decoded, later]
        rfl

end

end TypeNode

end ClientGen
