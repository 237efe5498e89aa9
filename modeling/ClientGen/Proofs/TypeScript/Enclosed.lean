import ClientGen.Proofs.Json.Pieces
import ClientGen.Proofs.TypeScript.Identifier
import ClientGen.TypeScript.Expression
import ClientGen.TypeScript.Identifier

/-!
# Enclosed texts

A text is enclosed if each string in it ends, each bracket is closed by its partner, and nothing
else in it opens a string, a template or a comment. Identifiers, quoted texts, numbers and the JSON
texts of values are enclosed, and so is every type expression, whatever names and literals it is
made of.
-/

namespace ClientGen.TypeScript

/-! ## Characters -/

/-- The characters that end a line. -/
def lineBreaks : List Char := ['\n', '\r', '\u2028', '\u2029']

/-- A character that ends a line. -/
def isLineBreak (c : Char) : Bool := lineBreaks.contains c

/-- The bracket that closes an opening one. -/
def closing? : Char → Option Char
  | '\x7b' => some '\x7d'
  | '<' => some '>'
  | '[' => some ']'
  | _ => none

theorem closing?_eq_some {opening closing : Char} (pair : closing? opening = some closing) :
    (opening = '\x7b' ∧ closing = '\x7d') ∨ (opening = '<' ∧ closing = '>') ∨
      (opening = '[' ∧ closing = ']') := by
  unfold closing? at pair
  split at pair
  · exact Or.inl ⟨rfl, (Option.some.inj pair).symm⟩
  · exact Or.inr (Or.inl ⟨rfl, (Option.some.inj pair).symm⟩)
  · exact Or.inr (Or.inr ⟨rfl, (Option.some.inj pair).symm⟩)
  · cases pair

/-- The characters that open or close something or that hide the meaning of the next one. -/
def marks : List Char :=
  ['"', '\'', graveAccent, '/', '\\', '\x7b', '\x7d', '<', '>', '[', ']']

/-- A character without a meaning of its own. -/
def isPlain (c : Char) : Bool := !marks.contains c

/-- A list that a class of characters does not meet. -/
theorem contains_eq_false_of_class {list : List Char} {p : Char → Bool}
    (apart : list.any p = false) {c : Char} (member : p c = true) : list.contains c = false := by
  rw [← Bool.not_eq_true, List.contains_iff_mem]
  intro listed
  rw [List.any_eq_true.mpr ⟨c, listed, member⟩] at apart
  cases apart

theorem ne_of_contains_eq_false {list : List Char} {c : Char} (absent : list.contains c = false) :
    ∀ d ∈ list, c ≠ d := by
  rintro d listed rfl
  rw [List.contains_iff_mem.mpr listed] at absent
  cases absent

/-- A class of characters without marks. -/
theorem isPlain_of_class {p : Char → Bool} (unmarked : marks.any p = false) {c : Char}
    (member : p c = true) : isPlain c = true := by
  rw [isPlain, contains_eq_false_of_class unmarked member]
  rfl

/-- A character without a meaning of its own is no mark. -/
theorem ne_of_isPlain {c : Char} (plain : isPlain c = true) : ∀ mark ∈ marks, c ≠ mark :=
  ne_of_contains_eq_false ((Bool.not_eq_true' _).mp plain)

theorem isPlain_of_mem_replicate {count : Nat} {c d : Char} (plain : isPlain d = true)
    (member : c ∈ List.replicate count d) : isPlain c = true := by
  rwa [List.eq_of_mem_replicate member]

theorem isPlain_of_isIdentifierChar {c : Char} (allowed : isIdentifierChar c = true) :
    isPlain c = true := isPlain_of_class (by decide) allowed

/-- A character of numbers and words has no meaning of its own. -/
theorem isPlain_of_isBareChar {c : Char} (bare : Json.isBareChar c = true) : isPlain c = true :=
  isPlain_of_class (by decide) bare

/-- A character of numbers and words does not end a line. -/
theorem isLineBreak_of_isBareChar {c : Char} (bare : Json.isBareChar c = true) :
    isLineBreak c = false := contains_eq_false_of_class (by decide) bare

/-! ## Strings -/

/-- What can stand between the quotation marks of a string. -/
inductive StringBody : List Char → Prop where
  /-- Nothing. -/
  | nil : StringBody []
  /-- A character that stands for itself. -/
  | char {c : Char} {rest : List Char} (unquoted : c ≠ '"') (unescaped : c ≠ '\\')
      (inLine : isLineBreak c = false) (more : StringBody rest) : StringBody (c :: rest)
  /-- A character behind a backslash. -/
  | escaped {c : Char} {rest : List Char} (inLine : isLineBreak c = false)
      (more : StringBody rest) : StringBody ('\\' :: c :: rest)

namespace StringBody

theorem append {first second : List Char} (before : StringBody first) (after : StringBody second) :
    StringBody (first ++ second) := by
  induction before with
  | nil => exact after
  | char unquoted unescaped inLine _ ih => exact .char unquoted unescaped inLine ih
  | escaped inLine _ ih => exact .escaped inLine ih

theorem flatMap {f : Char → List Char} (each : ∀ c, StringBody (f c)) (text : List Char) :
    StringBody (text.flatMap f) := by
  induction text with
  | nil => exact .nil
  | cons c rest ih => exact (each c).append ih

theorem of_forall_plain {text : List Char}
    (plain : ∀ c ∈ text, isPlain c = true ∧ isLineBreak c = false) : StringBody text := by
  induction text with
  | nil => exact .nil
  | cons c rest ih =>
      obtain ⟨⟨here, inLine⟩, there⟩ := List.forall_mem_cons.mp plain
      refine .char ?_ ?_ inLine (ih there)
      · rintro rfl
        exact absurd here (by decide)
      · rintro rfl
        exact absurd here (by decide)

/-- A text on one line without quotation marks that does not end in a backslash. -/
theorem of_quoteless : {text : List Char} →
    (text.all fun c => c != '"' && !isLineBreak c) = true → text.getLast? ≠ some '\\' →
    StringBody text
  | [], _, _ => .nil
  | [c], quoteless, last => by
      obtain ⟨unquoted, inLine⟩ : c ≠ '"' ∧ isLineBreak c = false := by simpa using quoteless
      refine .char unquoted ?_ inLine .nil
      rintro rfl
      exact last rfl
  | c :: d :: rest, quoteless, last => by
      rw [List.all_cons, Bool.and_eq_true] at quoteless
      obtain ⟨here, others⟩ := quoteless
      obtain ⟨unquoted, inLine⟩ : c ≠ '"' ∧ isLineBreak c = false := by simpa using here
      rw [List.getLast?_cons_cons] at last
      by_cases backslash : c = '\\'
      · subst backslash
        rw [List.all_cons, Bool.and_eq_true] at others
        obtain ⟨_, escapedInLine⟩ : d ≠ '"' ∧ isLineBreak d = false := by simpa using others.1
        refine .escaped escapedInLine (of_quoteless others.2 ?_)
        cases rest with
        | nil => nofun
        | cons e more => rwa [List.getLast?_cons_cons] at last
      · exact .char unquoted backslash inLine (of_quoteless others last)

/-- A string does not go over the end of its line. -/
theorem isLineBreak_of_mem {text : List Char} (body : StringBody text) {c : Char}
    (member : c ∈ text) : isLineBreak c = false := by
  induction body with
  | nil => cases member
  | char _ _ inLine _ ih =>
      rcases List.mem_cons.mp member with rfl | later
      · exact inLine
      · exact ih later
  | escaped inLine _ ih =>
      rcases List.mem_cons.mp member with rfl | behind
      · decide
      · rcases List.mem_cons.mp behind with rfl | later
        · exact inLine
        · exact ih later

end StringBody

/-! ## Enclosed texts -/

/-- A text in which strings end and brackets are closed. -/
inductive Enclosed : List Char → Prop where
  /-- Characters without a meaning of their own. -/
  | plain {text : List Char} (all : ∀ c ∈ text, isPlain c = true) : Enclosed text
  /-- A string. -/
  | quoted {body : List Char} (inside : StringBody body) : Enclosed ('"' :: (body ++ ['"']))
  /-- A text in brackets. -/
  | bracketed {opening closing : Char} {inner : List Char}
      (pair : closing? opening = some closing) (inside : Enclosed inner) :
      Enclosed (opening :: (inner ++ [closing]))
  /-- Two texts. -/
  | append {first second : List Char} (before : Enclosed first) (after : Enclosed second) :
      Enclosed (first ++ second)

namespace Enclosed

theorem nil : Enclosed [] := .plain (List.forall_mem_nil _)

/-- A text that is seen to have no marks. -/
theorem of_all {text : List Char} (all : text.all isPlain = true) : Enclosed text :=
  .plain (List.all_eq_true.mp all)

theorem cons {c : Char} {rest : List Char} (here : isPlain c = true) (there : Enclosed rest) :
    Enclosed (c :: rest) :=
  append (.plain (List.forall_mem_singleton.mpr here)) there

theorem text_append {first second : String} (before : Enclosed first.toList)
    (after : Enclosed second.toList) : Enclosed (first ++ second).toList := by
  rw [String.toList_append]
  exact append before after

/-- Two texts that are an opening bracket and its partner. -/
def Partners (opening closing : String) : Prop :=
  ∃ left right, closing? left = some right ∧ opening.toList = [left] ∧ closing.toList = [right]

theorem angles : Partners "<" ">" := ⟨'<', '>', rfl, rfl, rfl⟩

theorem braces : Partners "\x7b" "\x7d" := ⟨'\x7b', '\x7d', rfl, rfl, rfl⟩

theorem text_bracketed {opening closing inner : String} (partners : Partners opening closing)
    (inside : Enclosed inner.toList) : Enclosed (opening ++ inner ++ closing).toList := by
  obtain ⟨left, right, pair, first, last⟩ := partners
  rw [String.toList_append, String.toList_append, first, last]
  exact bracketed pair inside

theorem join {pieces : List String} (each : ∀ piece ∈ pieces, Enclosed piece.toList) :
    Enclosed (String.join pieces).toList := by
  rw [String.toList_join]
  induction pieces with
  | nil => exact nil
  | cons piece rest ih =>
      obtain ⟨here, there⟩ := List.forall_mem_cons.mp each
      exact append here (ih there)

end Enclosed

open Enclosed

/-! ## Names -/

/-- The characters of an identifier stand on one line. -/
theorem isLineBreak_of_isIdentifierChar {c : Char} (allowed : isIdentifierChar c = true) :
    isLineBreak c = false := contains_eq_false_of_class (by decide) allowed

theorem stringBody_identifier (name : String) : StringBody (identifier name).toList := by
  rw [toList_identifier]
  refine StringBody.of_forall_plain fun c member => ?_
  have allowed := isIdentifierChar_of_mem_identifierChars member
  exact ⟨isPlain_of_isIdentifierChar allowed, isLineBreak_of_isIdentifierChar allowed⟩

theorem enclosed_identifier (name : String) : Enclosed (identifier name).toList := by
  rw [toList_identifier]
  exact .plain fun c member =>
    isPlain_of_isIdentifierChar (isIdentifierChar_of_mem_identifierChars member)

/-- The text of an escape has no line breaks and no quotation mark. -/
theorem stringBody_unitEscape (code : Nat) : StringBody (Json.unitEscape code) := by
  refine .escaped (by decide) (StringBody.of_forall_plain fun c member => ?_)
  rcases List.mem_append.mp member with filling | shown
  · rw [List.eq_of_mem_replicate filling]
    decide
  · obtain ⟨digit, rfl⟩ := Json.exists_digitChar_of_mem_toDigits (by decide) shown
    have bare := Json.isBareChar_digitChar digit
    exact ⟨isPlain_of_isBareChar bare, isLineBreak_of_isBareChar bare⟩

/-- The letters of one-letter escapes. -/
def escapeLetters : List Char := ['"', '\\', 'n', 'r', 't', 'f', 'b']

theorem contains_of_escapeLetter? {c letter : Char} (found : Json.escapeLetter? c = some letter) :
    escapeLetters.contains letter = true := by
  rw [List.contains_iff_mem, escapeLetters]
  grind [Json.escapeLetter?]

/-- An ASCII character that is shown as it is. -/
def isShownAscii (c : Char) : Bool := 0x20 ≤ c.toNat && c.toNat < 0x7f

theorem stringBody_asciiChar (c : Char) : StringBody (Json.asciiChar c) := by
  rw [Json.asciiChar]
  cases found : Json.escapeLetter? c with
  | some letter =>
      have inLine : isLineBreak letter = false :=
        contains_eq_false_of_class (by decide) (contains_of_escapeLetter? found)
      exact .escaped inLine .nil
  | none =>
      dsimp only
      split
      · next shown =>
          have inLine : isLineBreak c = false :=
            contains_eq_false_of_class (show lineBreaks.any isShownAscii = false by decide) shown
          refine .char ?_ ?_ inLine .nil
          · rintro rfl
            cases found
          · rintro rfl
            cases found
      · generalize Json.units c = codes
        induction codes with
        | nil => exact .nil
        | cons code rest ih => exact (stringBody_unitEscape code).append ih

theorem enclosed_quote (text : String) : Enclosed (Json.quote text).toList := by
  rw [Json.quote, String.toList_ofList]
  exact .quoted (StringBody.flatMap stringBody_asciiChar text.toList)

theorem isPlain_of_mem_identifier {text : List Char} (whole : isIdentifier text = true) {c : Char}
    (member : c ∈ text) : isPlain c = true := by
  cases text with
  | nil => cases member
  | cons first rest =>
      rw [isIdentifier, Bool.and_eq_true, List.all_eq_true] at whole
      rcases List.mem_cons.mp member with rfl | later
      · exact isPlain_of_class (by decide) whole.1
      · exact isPlain_of_isIdentifierChar (whole.2 c later)

/-- A key without quotes has the characters of an identifier, and perhaps a line feed. -/
theorem isPlain_of_mem_bareKey {key : List Char} (bare : isBareKey key = true) {c : Char}
    (member : c ∈ key) : isPlain c = true := by
  rw [isBareKey, Bool.or_eq_true, Bool.and_eq_true, beq_iff_eq] at bare
  rcases bare with whole | ⟨lineFeed, front⟩
  · exact isPlain_of_mem_identifier whole member
  · obtain ⟨start, rfl⟩ := List.getLast?_eq_some_iff.mp lineFeed
    rw [List.dropLast_concat] at front
    rcases List.mem_append.mp member with inside | last
    · exact isPlain_of_mem_identifier front inside
    · rw [List.mem_singleton.mp last]
      decide

theorem enclosed_propertyKey (name : String) (convention : Name.Convention) :
    Enclosed (propertyKey name convention).toList := by
  rw [propertyKey, declaredKey]
  split
  · next bare => exact .plain fun c member => isPlain_of_mem_bareKey bare member
  · exact enclosed_quote _

/-! ## Values -/

theorem composable_enclosed : Json.Composable Enclosed where
  bare all := .plain fun c member => isPlain_of_isBareChar (all c member)
  quoted := enclosed_quote
  square inside := bracketed rfl inside
  brace inside := bracketed rfl inside
  append := append

/-! ## Type expressions -/

/-- What holds of the pieces of JSON texts holds of the type of a scalar. -/
theorem holds_scalar {holds : List Char → Prop} (composable : Json.Composable holds)
    (bar : holds " | ".toList) {kind : ScalarKind} {literals : Option (List Value)} {text : String}
    (written : scalar kind literals = .ok text) : holds text.toList := by
  have named : Json.Bare kind.name.toList := by cases kind <;> exact Json.bare_of_all (by decide)
  have united : ∀ list : List Value, union list = .ok text → holds text.toList := by
    intro list made
    obtain ⟨texts, each, made⟩ := bind_eq_ok.mp made
    cases made
    refine composable.joinStrings bar fun piece member => ?_
    have backward : List.Forall₂ (fun text value => literal value = .ok text) texts list :=
      List.Forall₂.flip (mapM_eq_ok.mp each)
    obtain ⟨value, _, found⟩ := exists_of_forall₂ backward member
    exact composable.of_write 0 value found
  cases literals with
  | none =>
      cases written
      exact composable.bare named
  | some list =>
      cases list with
      | nil =>
          cases written
          exact composable.bare named
      | cons first rest => exact united (first :: rest) written

theorem enclosed_indent (level : Int) : Enclosed (indent level).toList := by
  rw [indent, String.toList_ofList]
  exact .plain fun c => isPlain_of_mem_replicate (by decide)

theorem enclosed_braced {level : Int} {lines : List String}
    (each : ∀ line ∈ lines, Enclosed line.toList) : Enclosed (braced level lines).toList := by
  rw [braced]
  split
  · exact text_bracketed braces (show Enclosed "".toList from nil)
  · have body : Enclosed ("\n" ++ String.join (lines.map (· ++ "\n")) ++ indent level).toList := by
      refine text_append (text_append (.of_all (by decide)) (join ?_)) (enclosed_indent level)
      intro piece member
      obtain ⟨line, listed, rfl⟩ := List.mem_map.mp member
      exact text_append (each line listed) (.of_all (by decide))
    have whole := text_bracketed braces body
    simpa [String.append_assoc] using whole

mutual

/-- A type expression is enclosed, whatever names and literals the node has. -/
theorem enclosed_expression (convention : Name.Convention) {empty : String}
    (shapeless : Enclosed empty.toList) (level : Int) : (node : TypeNode) → {text : String} →
    expression convention empty level node = .ok text → Enclosed text.toList
  | .scalar _ kind literals, _, written => by
      rw [expression] at written
      exact holds_scalar composable_enclosed (.of_all (by decide)) written
  | .array _ items, _, written => by
      rw [expression] at written
      obtain ⟨inner, inside, made⟩ := bind_eq_ok.mp written
      cases made
      have items := enclosed_expression convention (.of_all (by decide)) level items inside
      have array : Enclosed "Array".toList := .of_all (by decide)
      have whole := text_append array (text_bracketed angles items)
      simpa [String.append_assoc] using whole
  | .reference _ name, _, written => by
      rw [expression] at written
      cases written
      exact enclosed_identifier name
  | .object _ properties bases, _, written => by
      have named : ∀ piece ∈ bases.map identifier, Enclosed piece.toList := by
        intro piece member
        obtain ⟨base, _, rfl⟩ := List.mem_map.mp member
        exact enclosed_identifier base
      have intersected : ∀ own : List String, (∀ piece ∈ own, Enclosed piece.toList) →
          Enclosed (Text.joinStrings " & " (bases.map identifier ++ own)).toList :=
        fun own each => composable_enclosed.joinStrings (.of_all (by decide))
          (List.forall_mem_append.mpr ⟨named, each⟩)
      rw [expression] at written
      split at written
      · cases written
        exact intersected [] (List.forall_mem_nil _)
      · obtain ⟨lines, found, made⟩ := bind_eq_ok.mp written
        cases made
        exact intersected _ (List.forall_mem_singleton.mpr
          (enclosed_braced (enclosed_propertyLines convention level properties found)))
  | .empty _, _, written => by
      rw [expression] at written
      cases written
      exact shapeless

/-- The line of each property is enclosed. -/
theorem enclosed_propertyLines (convention : Name.Convention) (level : Int) :
    (properties : List (String × TypeNode)) → {lines : List String} →
    propertyLines convention level properties = .ok lines →
    ∀ line ∈ lines, Enclosed line.toList
  | [], _, written => by
      rw [propertyLines] at written
      cases written
      exact List.forall_mem_nil _
  | (name, node) :: rest, _, written => by
      rw [propertyLines] at written
      obtain ⟨type, found, remaining⟩ := bind_eq_ok.mp written
      obtain ⟨others, later, made⟩ := bind_eq_ok.mp remaining
      cases made
      have type := enclosed_expression convention (.of_all (by decide)) (level + 1) node found
      have mark : Enclosed (optionalMark node.required).toList := by
        rw [optionalMark]
        split <;> exact .of_all (by decide)
      have key := text_append (text_append (enclosed_indent level) (enclosed_indent 1))
        (enclosed_propertyKey name convention)
      have colon : Enclosed ": ".toList := .of_all (by decide)
      have semicolon : Enclosed ";".toList := .of_all (by decide)
      have line := text_append (text_append (text_append (text_append key mark) colon) type)
        semicolon
      exact List.forall_mem_cons.mpr
        ⟨line, enclosed_propertyLines convention level rest later⟩

end

end ClientGen.TypeScript
