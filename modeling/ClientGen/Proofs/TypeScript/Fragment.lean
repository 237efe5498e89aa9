import ClientGen.Proofs.Result
import ClientGen.TypeScript.Expression

/-!
# Type names in type expressions

A type expression divided into fragments: plain text, and the names of types that the node refers
to. The fragments make up the expression, and the names among them are those that the node
mentions, in the same order.
-/

namespace ClientGen.TypeScript

/-- A part of a type expression. -/
inductive Fragment where
  /-- Text that names no definition. -/
  | plain (text : String)
  /-- The name of the type of a definition. -/
  | typeName (name : String)
  deriving DecidableEq, Repr

namespace Fragment

/-- What a fragment looks like. -/
def text : Fragment → String
  | .plain text => text
  | .typeName name => name

/-- The type name that a fragment is. -/
def typeName? : Fragment → Option String
  | .plain _ => none
  | .typeName name => some name

/-- The text that fragments make up. -/
def joined (parts : List Fragment) : String := String.join (parts.map text)

/-- The type names among fragments, in order. -/
def typeNames (parts : List Fragment) : List String := parts.filterMap typeName?

@[simp]
theorem joined_nil : joined [] = "" := rfl

@[simp]
theorem joined_cons (part : Fragment) (rest : List Fragment) :
    joined (part :: rest) = part.text ++ joined rest := by
  rw [joined, List.map_cons, String.join_cons, joined]

@[simp]
theorem joined_append (left right : List Fragment) :
    joined (left ++ right) = joined left ++ joined right := by
  rw [joined, List.map_append, String.join_append, joined, joined]

@[simp]
theorem typeNames_append (left right : List Fragment) :
    typeNames (left ++ right) = typeNames left ++ typeNames right := List.filterMap_append

theorem joined_intercalate (separator : String) (pieces : List (List Fragment)) :
    joined (List.intercalate [plain separator] pieces) =
      Text.joinStrings separator (pieces.map joined) := by
  induction pieces with
  | nil => simp [Text.joinStrings]
  | cons piece rest ih =>
      cases rest with
      | nil => simp [Text.joinStrings]
      | cons next others =>
          rw [List.intercalate_cons_cons, joined_append, joined_append, ih]
          simp only [Text.joinStrings, List.map_cons, String.intercalate_cons_cons, joined_cons,
            joined_nil, text, String.append_empty, String.append_assoc]

theorem typeNames_intercalate (separator : String) (pieces : List (List Fragment)) :
    typeNames (List.intercalate [plain separator] pieces) = pieces.flatMap typeNames := by
  induction pieces with
  | nil => rfl
  | cons piece rest ih =>
      cases rest with
      | nil => simp
      | cons next others =>
          have unnamed : typeNames [plain separator] = [] := rfl
          rw [List.intercalate_cons_cons, typeNames_append, typeNames_append, ih, unnamed,
            List.append_nil]
          rfl

end Fragment

open Fragment

/-- The fragments of an object literal from those of its lines. -/
def bracedParts (level : Int) (lines : List (List Fragment)) : List Fragment :=
  if lines.isEmpty then [.plain "\x7b\x7d"]
  else .plain "\x7b\n" :: lines.flatMap (· ++ [.plain "\n"]) ++ [.plain (indent level ++ "\x7d")]

mutual

/-- The fragments of the type expression of a node. -/
def fragments (convention : Name.Convention) (empty : String) (level : Int) :
    TypeNode → Except Fault (List Fragment)
  | .scalar _ kind literals => do .ok [.plain (← scalar kind literals)]
  | .array _ items => do
      .ok (.plain "Array<" :: (← fragments convention "any" level items) ++ [.plain ">"])
  | .reference _ name => .ok [.typeName (identifier name)]
  | .object _ properties bases => do
      let own ←
        if properties.isEmpty && !bases.isEmpty then .ok []
        else do .ok [bracedParts level (← propertyParts convention level properties)]
      .ok (List.intercalate [.plain " & "]
        (bases.map (fun base => [.typeName (identifier base)]) ++ own))
  | .empty _ => .ok [.plain empty]

/-- The fragments of the line of each property. -/
def propertyParts (convention : Name.Convention) (level : Int) :
    List (String × TypeNode) → Except Fault (List (List Fragment))
  | [] => .ok []
  | (name, node) :: rest => do
      let type ← fragments convention "any" (level + 1) node
      let lines ← propertyParts convention level rest
      .ok ((.plain (indent level ++ indent 1 ++ propertyKey name convention ++
        optionalMark node.required ++ ": ") :: type ++ [.plain ";"]) :: lines)

end

theorem joined_bracedParts (level : Int) (lines : List (List Fragment)) :
    joined (bracedParts level lines) = braced level (lines.map joined) := by
  cases lines with
  | nil => rfl
  | cons line rest =>
      have flat : ∀ others : List (List Fragment),
          joined (others.flatMap (· ++ [.plain "\n"])) =
            String.join ((others.map joined).map (· ++ "\n")) := by
        intro others
        induction others with
        | nil => rfl
        | cons first later ih =>
            rw [List.flatMap_cons, joined_append, ih, List.map_cons, List.map_cons,
              String.join_cons, joined_append]
            rfl
      have closing : joined [.plain (indent level ++ "\x7d")] = indent level ++ "\x7d" := by
        simp [Fragment.text]
      rw [bracedParts, braced]
      simp only [List.isEmpty_cons, List.map_cons, Bool.false_eq_true, if_false]
      rw [joined_append, joined_cons, flat, closing, List.map_cons, Fragment.text,
        ← List.map_cons]
      simp only [String.append_assoc, List.map_cons]

mutual

/-- The fragments of a type expression make up the expression. -/
theorem joined_fragments (convention : Name.Convention) (empty : String) (level : Int) :
    (node : TypeNode) →
      (fragments convention empty level node).map joined = expression convention empty level node
  | .scalar _ kind literals => by
      rw [fragments, expression]
      cases scalar kind literals with
      | error problem => rfl
      | ok text => simp [bind, Except.bind, Except.map, Fragment.text]
  | .array _ items => by
      have inner := joined_fragments convention "any" level items
      rw [fragments, expression, ← inner]
      cases fragments convention "any" level items with
      | error problem => rfl
      | ok parts =>
          simp [bind, Except.bind, Except.map, Fragment.text, String.append_assoc]
  | .reference _ name => by
      simp [fragments, expression, Except.map, Fragment.text]
  | .object _ properties bases => by
      have inner := joined_propertyParts convention level properties
      have names : (bases.map fun base => [Fragment.typeName (identifier base)]).map joined =
          bases.map identifier := by
        simp [Function.comp_def, Fragment.text]
      rw [fragments, expression, ← inner]
      split
      · simp only [bind, Except.bind, Except.map, joined_intercalate, List.map_append, names,
          List.map_nil]
      · cases propertyParts convention level properties with
        | error problem => rfl
        | ok lines =>
            simp only [bind, Except.bind, Except.map, joined_intercalate, List.map_append, names,
              List.map_cons, List.map_nil, joined_bracedParts]
  | .empty _ => by
      simp [fragments, expression, Except.map, Fragment.text]

/-- The fragments of the lines of properties make up the lines. -/
theorem joined_propertyParts (convention : Name.Convention) (level : Int) :
    (properties : List (String × TypeNode)) →
      (propertyParts convention level properties).map (List.map joined) =
        propertyLines convention level properties
  | [] => rfl
  | (name, node) :: rest => by
      have type := joined_fragments convention "any" (level + 1) node
      have lines := joined_propertyParts convention level rest
      rw [propertyParts, propertyLines, ← type, ← lines]
      cases fragments convention "any" (level + 1) node with
      | error problem => rfl
      | ok parts =>
          cases propertyParts convention level rest with
          | error problem => rfl
          | ok others =>
              simp [bind, Except.bind, Except.map, Fragment.text, String.append_assoc]

end

/-! ## Names -/

theorem typeNames_bracedParts (level : Int) (lines : List (List Fragment)) :
    typeNames (bracedParts level lines) = lines.flatMap typeNames := by
  have flat : ∀ others : List (List Fragment),
      typeNames (others.flatMap (· ++ [.plain "\n"])) = others.flatMap typeNames := by
    intro others
    induction others with
    | nil => rfl
    | cons first rest ih =>
        have unnamed : typeNames [.plain "\n"] = [] := rfl
        rw [List.flatMap_cons, List.flatMap_cons, typeNames_append, typeNames_append, ih, unnamed,
          List.append_nil]
  cases lines with
  | nil => rfl
  | cons line rest =>
      have opening : ∀ parts, typeNames (.plain "\x7b\n" :: parts) = typeNames parts := fun _ => rfl
      have closing : typeNames [.plain (indent level ++ "\x7d")] = [] := rfl
      rw [bracedParts]
      simp only [List.isEmpty_cons, Bool.false_eq_true, if_false]
      rw [typeNames_append, opening, flat, closing, List.append_nil]

mutual

/-- The type names in the fragments of a node are those of the names that the node mentions. -/
theorem typeNames_fragments (convention : Name.Convention) (empty : String) (level : Int) :
    (node : TypeNode) → {parts : List Fragment} →
      fragments convention empty level node = .ok parts →
      typeNames parts = node.mentions.map identifier
  | .scalar _ kind literals, parts, written => by
      rw [fragments] at written
      obtain ⟨text, _, made⟩ := bind_eq_ok.mp written
      cases made
      rfl
  | .array _ items, parts, written => by
      rw [fragments] at written
      obtain ⟨inner, found, made⟩ := bind_eq_ok.mp written
      cases made
      have names := typeNames_fragments convention "any" level items found
      have opening : ∀ more, typeNames (.plain "Array<" :: more) = typeNames more := fun _ => rfl
      have closing : typeNames [.plain ">"] = [] := rfl
      rw [typeNames_append, opening, names, closing, List.append_nil, TypeNode.mentions]
  | .reference _ name, parts, written => by
      rw [fragments] at written
      cases written
      rfl
  | .object _ properties bases, parts, written => by
      have names : ∀ others : List String,
          (others.map fun base => [Fragment.typeName (identifier base)]).flatMap typeNames =
            others.map identifier := by
        intro others
        induction others with
        | nil => rfl
        | cons first rest ih =>
            rw [List.map_cons, List.flatMap_cons, ih]
            rfl
      rw [fragments] at written
      split at written
      · next bare =>
          cases written
          have none : properties = [] := by
            simpa using (Bool.and_eq_true_iff.mp bare).1
          rw [typeNames_intercalate, List.flatMap_append, names, TypeNode.mentions,
            List.map_append, none]
          rfl
      · obtain ⟨lines, inner, made⟩ := bind_eq_ok.mp written
        cases made
        have own := typeNames_propertyParts convention level properties inner
        rw [typeNames_intercalate, List.flatMap_append, names, TypeNode.mentions,
          List.map_append, List.flatMap_cons, List.flatMap_nil, List.append_nil,
          typeNames_bracedParts, own]
  | .empty _, parts, written => by
      rw [fragments] at written
      cases written
      rfl

/-- The type names in the fragments of properties are those of the names that they mention. -/
theorem typeNames_propertyParts (convention : Name.Convention) (level : Int) :
    (properties : List (String × TypeNode)) → {lines : List (List Fragment)} →
      propertyParts convention level properties = .ok lines →
      lines.flatMap typeNames = (TypeNode.mentionsOfProperties properties).map identifier
  | [], lines, written => by
      rw [propertyParts] at written
      cases written
      rfl
  | (name, node) :: rest, lines, written => by
      rw [propertyParts] at written
      obtain ⟨type, found, remaining⟩ := bind_eq_ok.mp written
      obtain ⟨others, later, made⟩ := bind_eq_ok.mp remaining
      cases made
      have names := typeNames_fragments convention "any" (level + 1) node found
      have more := typeNames_propertyParts convention level rest later
      have opening : ∀ text parts, typeNames (.plain text :: parts) = typeNames parts :=
        fun _ _ => rfl
      have closing : typeNames [.plain ";"] = [] := rfl
      rw [List.flatMap_cons, typeNames_append, opening, closing, List.append_nil, names, more,
        TypeNode.mentionsOfProperties, List.map_append]

end

end ClientGen.TypeScript
