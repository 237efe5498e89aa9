import ClientGen.Proofs.Name.Spelling
import ClientGen.Proofs.Text
import ClientGen.Proofs.TypeScript.Enclosed
import ClientGen.Proofs.TypeScript.Expressible

/-!
# Depth of type expressions

At a greater depth a type expression is the same but for its layout: the spaces of the additional
levels stand behind each line feed, and nothing else changes. The line feeds of an expression are
those of its layout, because identifiers, keys and literals stand on one line, unless the name of a
property has a line feed.
-/

namespace ClientGen.TypeScript

/-! ## Shifted texts -/

/-- A text with the spaces of some levels behind each line feed. -/
def shifted (depth : Nat) (text : String) : String :=
  String.ofList (Text.replaceChar '\n' ('\n' :: List.replicate (2 * depth) ' ') text.toList)

variable {depth : Nat}

theorem shifted_append (first second : String) :
    shifted depth (first ++ second) = shifted depth first ++ shifted depth second := by
  rw [shifted, String.toList_append, Text.replaceChar_append, String.ofList_append]
  rfl

/-- A text on one line stays as it is. -/
theorem shifted_of_notMem {text : String} (lineless : '\n' ∉ text.toList) :
    shifted depth text = text := by
  rw [shifted, Text.replaceChar_of_notMem lineless, String.ofList_toList]

/-- The spaces of some levels follow a line feed. -/
theorem shifted_lineFeed : shifted depth "\n" = "\n" ++ indent depth := by
  have levels : (2 * (depth : Int)).toNat = 2 * depth := by omega
  apply String.toList_injective
  simp [indent, levels, shifted, Text.replaceChar]

theorem shifted_joinStrings {separator : String} (lineless : '\n' ∉ separator.toList)
    (pieces : List String) :
    shifted depth (Text.joinStrings separator pieces) =
      Text.joinStrings separator (pieces.map (shifted depth)) := by
  simp only [Text.joinStrings]
  induction pieces with
  | nil => rfl
  | cons piece rest ih =>
      cases rest with
      | nil => rw [String.intercalate_singleton, List.map_singleton, String.intercalate_singleton]
      | cons next others =>
          rw [String.intercalate_cons_cons, shifted_append, shifted_append, ih,
            shifted_of_notMem lineless]
          exact String.intercalate_cons_cons.symm

/-! ## Texts on one line -/

/-- What does not end a line is no line feed. -/
theorem notMem_of_isLineBreak {text : List Char}
    (inLine : ∀ c ∈ text, isLineBreak c = false) : '\n' ∉ text :=
  fun member => absurd (inLine _ member) (by decide)

theorem lineFeed_notMem_identifier (name : String) : '\n' ∉ (identifier name).toList := by
  rw [toList_identifier]
  exact notMem_of_isLineBreak fun c member =>
    isLineBreak_of_isIdentifierChar (isIdentifierChar_of_mem_identifierChars member)

/-- A quoted text stands on one line, whatever the text. -/
theorem lineFeed_notMem_quote (text : String) : '\n' ∉ (Json.quote text).toList := by
  have body := StringBody.flatMap stringBody_asciiChar text.toList
  rw [Json.quote, String.toList_ofList]
  refine notMem_of_isLineBreak (List.forall_mem_cons.mpr ⟨by decide, ?_⟩)
  exact List.forall_mem_append.mpr
    ⟨fun _ => body.isLineBreak_of_mem, List.forall_mem_singleton.mpr (by decide)⟩

theorem composable_lineless : Json.Composable ('\n' ∉ ·) where
  bare all := notMem_of_isLineBreak fun c member => isLineBreak_of_isBareChar (all c member)
  quoted := lineFeed_notMem_quote
  square inside := by simp [inside]
  brace inside := by simp [inside]
  append before after := by simp [before, after]

/-- A key stands on one line if the name does. -/
theorem lineFeed_notMem_propertyKey {name : String} (convention : Name.Convention)
    (lineless : '\n' ∉ name.toList) : '\n' ∉ (propertyKey name convention).toList := by
  rw [propertyKey, declaredKey]
  split
  · rw [Name.Convention.apply, String.toList_ofList]
    exact Name.lineFeed_notMem_applyChars convention lineless
  · exact lineFeed_notMem_quote _

/-! ## Type expressions -/

theorem indent_add {level : Int} (nonneg : 0 ≤ level) :
    indent (level + depth) = indent depth ++ indent level := by
  have levels : (2 * (level + depth)).toNat = (2 * (depth : Int)).toNat + (2 * level).toNat := by
    omega
  rw [indent, levels, List.replicate_add, String.ofList_append]
  rfl

/-- The line of a property, as it stands at a greater depth. -/
def deeperLine (depth : Nat) (line : String) : String := indent depth ++ shifted depth line

/-- Spaces in front of each line, rather than behind the line feed in front of it. -/
theorem indent_append_join (depth : Nat) (lines : List String) :
    indent depth ++ String.join ((lines.map (· ++ "\n")).map (shifted depth)) =
      String.join ((lines.map (deeperLine depth)).map (· ++ "\n")) ++ indent depth := by
  induction lines with
  | nil => simp
  | cons line rest ih =>
      simp only [List.map_cons, String.join_cons, deeperLine, shifted_append, shifted_lineFeed,
        String.append_assoc] at ih ⊢
      rw [ih]

theorem shifted_join (pieces : List String) :
    shifted depth (String.join pieces) = String.join (pieces.map (shifted depth)) := by
  induction pieces with
  | nil => rfl
  | cons piece rest ih => rw [String.join_cons, shifted_append, ih, List.map_cons, String.join_cons]

theorem lineFeed_notMem_indent (level : Int) : '\n' ∉ (indent level).toList := by
  rw [indent, String.toList_ofList]
  exact fun member => absurd (List.eq_of_mem_replicate member) (by decide)

theorem braced_add {level : Int} (nonneg : 0 ≤ level) (lines : List String) :
    braced (level + depth) (lines.map (deeperLine depth)) = shifted depth (braced level lines) := by
  rw [braced, braced, List.isEmpty_map]
  split
  · exact (shifted_of_notMem (by decide)).symm
  · have opening : shifted depth "\x7b\n" = "\x7b\n" ++ indent depth := by
      have pieces : "\x7b\n" = "\x7b" ++ "\n" := rfl
      rw [pieces, shifted_append, shifted_of_notMem (by decide), shifted_lineFeed,
        String.append_assoc]
    have last : shifted depth "\x7d" = "\x7d" := shifted_of_notMem (by decide)
    rw [shifted_append, shifted_append, shifted_append, opening, last, shifted_join,
      shifted_of_notMem (lineFeed_notMem_indent level), indent_add nonneg]
    have together := congrArg (fun text => "\x7b\n" ++ text ++ indent level ++ "\x7d")
      (indent_append_join depth lines)
    simpa only [String.append_assoc] using together.symm

/-- A node in which no property has a line feed in its name, at any depth. -/
def HasLinelessNames (node : TypeNode) : Prop :=
  Throughout TypeNode.children
    (fun part => ∀ property ∈ part.properties, '\n' ∉ property.1.toList) node

theorem HasLinelessNames.of_mem {node child : TypeNode} (named : HasLinelessNames node)
    (member : child ∈ node.children) : HasLinelessNames child :=
  (throughout_iff.mp named).2 child member

theorem HasLinelessNames.of_property {required : Bool} {properties : List (String × TypeNode)}
    {bases : List String} (named : HasLinelessNames (.object required properties bases)) :
    ∀ property ∈ properties, '\n' ∉ property.1.toList ∧ HasLinelessNames property.2 :=
  fun property member => ⟨(throughout_iff.mp named).1 property member,
    named.of_mem (List.mem_map_of_mem member)⟩

theorem lineFeed_notMem_any : '\n' ∉ "any".toList := by decide

theorem deeperLine_property {level : Int} (nonneg : 0 ≤ level) {name : String}
    (convention : Name.Convention) (lineless : '\n' ∉ name.toList) (required : Bool)
    (type : String) :
    deeperLine depth (indent level ++ indent 1 ++ propertyKey name convention ++
        optionalMark required ++ ": " ++ type ++ ";") =
      indent (level + depth) ++ indent 1 ++ propertyKey name convention ++
        optionalMark required ++ ": " ++ shifted depth type ++ ";" := by
  have mark : '\n' ∉ (optionalMark required).toList := by cases required <;> decide
  have colon : shifted depth ": " = ": " := shifted_of_notMem (by decide)
  have semicolon : shifted depth ";" = ";" := shifted_of_notMem (by decide)
  simp only [deeperLine, shifted_append, shifted_of_notMem (lineFeed_notMem_indent _),
    shifted_of_notMem (lineFeed_notMem_propertyKey convention lineless), shifted_of_notMem mark,
    colon, semicolon, indent_add nonneg, String.append_assoc]

mutual

/-- The expression of a node at a greater depth is the same with spaces behind each line feed. -/
theorem expression_add (depth : Nat) (convention : Name.Convention) {empty : String}
    (lineless : '\n' ∉ empty.toList) {level : Int} (nonneg : 0 ≤ level) :
    (node : TypeNode) → HasLinelessNames node →
    expression convention empty (level + depth) node =
      (expression convention empty level node).map (shifted depth)
  | .scalar _ kind literals, _ => by
      rw [expression, expression]
      cases written : scalar kind literals with
      | error fault => rfl
      | ok text =>
          have inLine : '\n' ∉ text.toList :=
            holds_scalar composable_lineless (by decide) written
          rw [Except.map, shifted_of_notMem inLine]
  | .array _ items, named => by
      have inner := expression_add depth convention lineFeed_notMem_any nonneg items
        (named.of_mem List.mem_cons_self)
      have opening : shifted depth "Array<" = "Array<" := shifted_of_notMem (by decide)
      have last : shifted depth ">" = ">" := shifted_of_notMem (by decide)
      rw [expression, expression, inner]
      cases expression convention "any" level items with
      | error fault => rfl
      | ok text =>
          refine congrArg Except.ok ?_
          rw [shifted_append, shifted_append, opening, last]
  | .reference _ name, _ => by
      rw [expression, expression, Except.map, shifted_of_notMem (lineFeed_notMem_identifier name)]
  | .object _ properties bases, named => by
      have names : (bases.map identifier).map (shifted depth) = bases.map identifier := by
        rw [List.map_map]
        exact List.map_congr_left fun base _ => shifted_of_notMem (lineFeed_notMem_identifier base)
      have intersected : ∀ own : List String,
          shifted depth (Text.joinStrings " & " (bases.map identifier ++ own)) =
            Text.joinStrings " & " (bases.map identifier ++ own.map (shifted depth)) := by
        intro own
        rw [shifted_joinStrings (by decide), List.map_append, names]
      rw [expression, expression]
      split
      · exact congrArg Except.ok (intersected []).symm
      · rw [propertyLines_add depth convention nonneg properties named.of_property]
        cases propertyLines convention level properties with
        | error fault => rfl
        | ok lines =>
            refine congrArg Except.ok ?_
            rw [intersected, List.map_singleton, ← braced_add nonneg]
  | .empty _, _ => by
      rw [expression, expression, Except.map, shifted_of_notMem lineless]

/-- The lines of properties at a greater depth stand behind more spaces. -/
theorem propertyLines_add (depth : Nat) (convention : Name.Convention) {level : Int}
    (nonneg : 0 ≤ level) :
    (properties : List (String × TypeNode)) →
    (∀ property ∈ properties, '\n' ∉ property.1.toList ∧ HasLinelessNames property.2) →
    propertyLines convention (level + depth) properties =
      (propertyLines convention level properties).map (List.map (deeperLine depth))
  | [], _ => rfl
  | (name, node) :: rest, named => by
      obtain ⟨⟨nameless, inside⟩, others⟩ := List.forall_mem_cons.mp named
      have deeper : level + depth + 1 = level + 1 + depth := by omega
      have type := expression_add depth convention lineFeed_notMem_any
        (show 0 ≤ level + 1 by omega) node inside
      have later := propertyLines_add depth convention nonneg rest others
      rw [propertyLines, propertyLines, deeper, type, later]
      cases expression convention "any" (level + 1) node with
      | error fault => rfl
      | ok text =>
          cases propertyLines convention level rest with
          | error fault => rfl
          | ok lines =>
              refine congrArg Except.ok ?_
              rw [List.map_cons, deeperLine_property nonneg convention nameless]

end

/-- The depth of an expression shifts its layout and changes nothing else: an expression at a depth
is the one at depth zero with the spaces of the depth behind each line feed. -/
theorem expression_eq_map_shifted (convention : Name.Convention) (depth : Nat) {node : TypeNode}
    (lineless : HasLinelessNames node) :
    expression convention "any" depth node =
      (expression convention "any" 0 node).map (shifted depth) := by
  have deeper := expression_add depth convention lineFeed_notMem_any (Int.le_refl 0) node lineless
  rwa [Int.zero_add] at deeper

/-- Objects in an array of an object, with a base and with a line feed in a literal. -/
def nestedNode : TypeNode :=
  .object true [("pet_owners", .array false
    (.object true [("first_name", .scalar true .string (some [.text "a\nb"]))] ["Person"]))] []

/-- The expression of `nestedNode` two levels deep. -/
def nestedText : String :=
  "\x7b\n      petOwners?: Array<Person & \x7b\n" ++
    "        firstName: \"a\\nb\";\n      \x7d>;\n    \x7d"

theorem nestedNode_shifted :
    HasLinelessNames nestedNode ∧ expression .camel "any" (2 : Nat) nestedNode = .ok nestedText ∧
      (expression .camel "any" 0 nestedNode).map (shifted 2) = .ok nestedText := by
  have lineless : HasLinelessNames nestedNode := by
    have all : allWithin TypeNode.children (fun part => decide (∀ property ∈ part.properties,
        '\n' ∉ property.1.toList)) 4 nestedNode = true := by decide +kernel
    exact fun part inside => of_decide_eq_true (throughout_of_allWithin all part inside)
  have written : expression .camel "any" (2 : Nat) nestedNode = .ok nestedText := by
    decide +kernel
  exact ⟨lineless, written, (expression_eq_map_shifted .camel 2 lineless).symm.trans written⟩

end ClientGen.TypeScript
