import ClientGen.Proofs.Result
import ClientGen.Proofs.TypeScript.PathParts
import ClientGen.TypeScript.Expression
import ClientGen.TypeScript.Identifier

/-!
# Identifiers and keys

Identifiers and keys of properties are made of names. An identifier can stand wherever one is asked
for, and a key is read in the form in which it is declared.
-/

/-!
## Characters of identifiers

Whatever name an identifier is made of, it is not empty, has only characters that can stand in an
identifier, starts with one that can stand there, and is no reserved word.
-/

namespace ClientGen.TypeScript

theorem isIdentifierChar_cleanChar (c : Char) : isIdentifierChar (cleanChar c) = true := by
  rw [cleanChar]
  split
  · assumption
  · decide

theorem isIdentifierChar_of_mem_cleaned {name : List Char} {c : Char} (member : c ∈ cleaned name) :
    isIdentifierChar c = true := by
  cases name with
  | nil =>
      rw [List.mem_singleton.mp member]
      decide
  | cons first rest =>
      obtain ⟨original, _, rfl⟩ := List.mem_map.mp member
      exact isIdentifierChar_cleanChar original

theorem cleaned_ne_nil (name : List Char) : cleaned name ≠ [] := by
  cases name <;> nofun

/-- A text of such characters needs no cleaning. -/
theorem cleaned_of_isIdentifierChar {name : List Char} (present : name ≠ [])
    (allowed : ∀ c ∈ name, isIdentifierChar c = true) : cleaned name = name := by
  have kept : name.map cleanChar = name.map id :=
    List.map_congr_left fun c member => if_pos (allowed c member)
  cases name with
  | nil => exact absurd rfl present
  | cons first rest => exact kept.trans (List.map_id _)

/-- An identifier has only characters that can stand in one. -/
theorem isIdentifierChar_of_mem_identifierChars {name : List Char} {c : Char}
    (member : c ∈ identifierChars name) : isIdentifierChar c = true := by
  rw [identifierChars] at member
  split at member
  · rcases List.mem_cons.mp member with rfl | inside
    · decide
    · exact isIdentifierChar_of_mem_cleaned inside
  · exact isIdentifierChar_of_mem_cleaned member

theorem identifierChars_ne_nil (name : List Char) : identifierChars name ≠ [] := by
  rw [identifierChars]
  split
  · nofun
  · exact cleaned_ne_nil name

theorem slash_notMem_identifierChars (name : List Char) : '/' ∉ identifierChars name := by
  intro member
  have allowed := isIdentifierChar_of_mem_identifierChars member
  exact absurd allowed (by decide)

theorem isIdentifierStart_of_not_isDigit {c : Char} (allowed : isIdentifierChar c = true)
    (numberless : Text.isDigit c = false) : isIdentifierStart c = true := by
  rwa [isIdentifierChar, Text.isAlphanumeric, numberless, Bool.or_false] at allowed

/-- What a name turns into is an identifier from end to end. -/
theorem isIdentifier_identifierChars (name : List Char) :
    isIdentifier (identifierChars name) = true := by
  rw [identifierChars]
  split
  · exact List.all_eq_true.mpr fun _ member => isIdentifierChar_of_mem_cleaned member
  · next plain =>
      have allowed : ∀ c ∈ cleaned name, isIdentifierChar c = true :=
        fun _ => isIdentifierChar_of_mem_cleaned
      cases text : cleaned name with
      | nil => exact absurd text (cleaned_ne_nil name)
      | cons first rest =>
          rw [text] at plain allowed
          rw [needsUnderscore, Bool.or_eq_true, not_or] at plain
          refine Bool.and_eq_true_iff.mpr ⟨?_, List.all_eq_true.mpr fun c member => ?_⟩
          · exact isIdentifierStart_of_not_isDigit (allowed first List.mem_cons_self)
              (Bool.eq_false_iff.mpr plain.1)
          · exact allowed c (List.mem_cons_of_mem _ member)

/-- An underscore in front keeps identifiers apart from reserved words. -/
theorem identifier_notMem_reservedWords (name : String) : identifier name ∉ reservedWords := by
  rw [identifier, identifierChars]
  split
  · have unmarked : ∀ word ∈ reservedWords, word.toList.head? ≠ some '_' := by decide
    intro reserved
    exact unmarked _ reserved (by rw [String.toList_ofList]; rfl)
  · next plain =>
      rw [needsUnderscore, Bool.or_eq_true, not_or] at plain
      exact fun reserved => plain.2 (List.contains_iff_mem.mpr reserved)

theorem toNat_of_isIdentifierChar {c : Char} (allowed : isIdentifierChar c = true) :
    0x24 ≤ c.toNat ∧ c.toNat ≤ 0x7a := by
  simp only [isIdentifierChar, Text.isAlphanumeric, Text.isLetter, Text.isLower, Text.isUpper,
    Text.isDigit, Bool.or_eq_true, Bool.and_eq_true, decide_eq_true_eq, beq_iff_eq, Char.le_def,
    UInt32.le_iff_toNat_le] at allowed
  rcases allowed with ((((small | capital) | digit) | rfl) | rfl)
  · exact ⟨Nat.le_trans (by decide) small.1, Nat.le_trans small.2 (by decide)⟩
  · exact ⟨Nat.le_trans (by decide) capital.1, Nat.le_trans capital.2 (by decide)⟩
  · exact ⟨Nat.le_trans (by decide) digit.1, Nat.le_trans digit.2 (by decide)⟩
  · decide
  · decide

theorem toNat_lt_of_isIdentifierChar {c : Char} (allowed : isIdentifierChar c = true) :
    c.toNat < 0x80 :=
  Nat.lt_of_le_of_lt (toNat_of_isIdentifierChar allowed).2 (by decide)

theorem isIdentifierChar_of_isIdentifierStart {c : Char} (allowed : isIdentifierStart c = true) :
    isIdentifierChar c = true := by
  simp only [isIdentifierStart, isIdentifierChar, Text.isAlphanumeric, Bool.or_eq_true] at *
  tauto

theorem isIdentifierChar_of_mem {name : List Char} (whole : isIdentifier name = true) {c : Char}
    (member : c ∈ name) : isIdentifierChar c = true := by
  cases name with
  | nil => cases member
  | cons first rest =>
      rw [isIdentifier, Bool.and_eq_true, List.all_eq_true] at whole
      rcases List.mem_cons.mp member with rfl | later
      · exact isIdentifierChar_of_isIdentifierStart whole.1
      · exact whole.2 c later

/-- What makes an identifier is its first character and the kind of all of them. -/
theorem isIdentifier_iff_forall {text : List Char} :
    isIdentifier text = true ↔
      (∃ c ∈ text.head?, isIdentifierStart c = true) ∧ ∀ c ∈ text, isIdentifierChar c = true := by
  constructor
  · intro whole
    refine ⟨?_, fun _ => isIdentifierChar_of_mem whole⟩
    cases text with
    | nil => cases whole
    | cons c rest => exact ⟨c, rfl, (Bool.and_eq_true_iff.mp whole).1⟩
  · rintro ⟨⟨first, here, start⟩, allowed⟩
    cases text with
    | nil => cases here
    | cons c rest =>
        obtain rfl := Option.some.inj here
        have others := List.all_eq_true.mpr (List.forall_mem_cons.mp allowed).2
        exact Bool.and_eq_true_iff.mpr ⟨start, others⟩

/-- An identifier that is no reserved word is left as it is. -/
theorem identifier_eq_self {name : String} (whole : isIdentifier name.toList = true)
    (unreserved : name ∉ reservedWords) : identifier name = name := by
  obtain ⟨⟨first, here, start⟩, allowed⟩ := isIdentifier_iff_forall.mp whole
  have numberless : Text.isDigit first = false := by
    have small := toNat_lt_of_isIdentifierChar (isIdentifierChar_of_isIdentifierStart start)
    revert start
    apply Text.forall_ascii _ small
    decide +kernel
  have free : needsUnderscore name.toList = false := by
    rw [needsUnderscore, here, String.ofList_toList, Bool.or_eq_false_iff]
    exact ⟨numberless, Bool.eq_false_iff.mpr fun reserved =>
      unreserved (List.contains_iff_mem.mp reserved)⟩
  have present : name.toList ≠ [] := List.ne_nil_of_mem (List.mem_of_mem_head? here)
  rw [identifier, identifierChars, cleaned_of_isIdentifierChar present allowed, free]
  exact String.ofList_toList

theorem toList_identifier (name : String) :
    (identifier name).toList = identifierChars name.toList := String.toList_ofList

end ClientGen.TypeScript

/-!
## Keys that are declared and read

A key is written by itself or as a quoted text, and the key alone decides which. The line of a
property and an expression that reads the property write its key in the same form.
-/

namespace ClientGen.TypeScript

/-- How a key is written. -/
inductive KeyForm where
  /-- By itself. -/
  | bare (key : String)
  /-- As a quoted text. -/
  | quoted (text : String)
  deriving DecidableEq, Repr

namespace KeyForm

/-- The form of a key. -/
def ofKey (key : String) : KeyForm :=
  if isBareKey key.toList then .bare key else .quoted (Json.quote key)

/-- A form where a property is declared. -/
def declared : KeyForm → String
  | .bare key => key
  | .quoted text => text

/-- A form where a property of an object is read: behind a dot, or in square brackets. -/
def access (target : String) : KeyForm → String
  | .bare key => target ++ "." ++ key
  | .quoted text => target ++ "[" ++ text ++ "]"

end KeyForm

theorem declaredKey_eq (key : String) : declaredKey key = (KeyForm.ofKey key).declared := by
  rw [declaredKey, KeyForm.ofKey]
  split <;> rfl

theorem readKey_eq (target key : String) :
    readKey target key = (KeyForm.ofKey key).access target := by
  rw [readKey, KeyForm.ofKey]
  split <;> rfl

variable {convention : Name.Convention}

/-! ## Declarations -/

/-- A line that declares a property of an object at a level. -/
def DeclaresAt (convention : Name.Convention) (level : Int) (property : String × TypeNode)
    (line : String) : Prop :=
  ∃ type, expression convention "any" (level + 1) property.2 = .ok type ∧
    line = indent level ++ indent 1 ++ propertyKey property.1 convention ++
      optionalMark property.2.required ++ ": " ++ type ++ ";"

theorem propertyLines_eq_ok_iff {level : Int} {properties : List (String × TypeNode)}
    {lines : List String} :
    propertyLines convention level properties = .ok lines ↔
      List.Forall₂ (DeclaresAt convention level) properties lines := by
  induction properties generalizing lines with
  | nil =>
      rw [List.forall₂_nil_left_iff]
      exact ⟨fun made => (Except.ok.inj made).symm, fun none => congrArg Except.ok none.symm⟩
  | cons property rest ih =>
      rw [propertyLines, List.forall₂_cons_left_iff]
      simp only [bind_eq_ok, Except.ok.injEq]
      constructor
      · rintro ⟨type, written, others, later, rfl⟩
        exact ⟨_, others, ⟨type, written, rfl⟩, ih.mp later, rfl⟩
      · rintro ⟨_, others, ⟨type, written, rfl⟩, later, rfl⟩
        exact ⟨type, written, others, ih.mpr later, rfl⟩

/-- The line of a property of an object at the outermost level. -/
def declaration (convention : Name.Convention) (property : String × TypeNode) (type : String) :
    String :=
  "  " ++ (KeyForm.ofKey (convention.apply property.1)).declared ++
    optionalMark property.2.required ++ ": " ++ type ++ ";"

/-- A line that declares a property. -/
def Declares (convention : Name.Convention) (property : String × TypeNode) (line : String) : Prop :=
  ∃ type, expression convention "any" 1 property.2 = .ok type ∧
    line = declaration convention property type

theorem declaresAt_zero : DeclaresAt convention 0 = Declares convention := by
  funext property line
  simp only [DeclaresAt, Declares, declaration, propertyKey, declaredKey_eq]
  rfl

theorem propertyLines_eq_ok {properties : List (String × TypeNode)} {lines : List String} :
    propertyLines convention 0 properties = .ok lines ↔
      List.Forall₂ (Declares convention) properties lines := by
  rw [propertyLines_eq_ok_iff, declaresAt_zero]

/-- The type expression of an object without bases is made of the lines of its properties. -/
theorem expression_object_eq_ok {empty : String} {required : Bool}
    {properties : List (String × TypeNode)} {text : String} :
    expression convention empty 0 (.object required properties []) = .ok text ↔
      ∃ lines, List.Forall₂ (Declares convention) properties lines ∧ text = braced 0 lines := by
  have own : (properties.isEmpty && !([] : List String).isEmpty) = false := Bool.and_false _
  have alone : ∀ lines, Text.joinStrings " & " ([].map identifier ++ [braced 0 lines]) =
      braced 0 lines := fun _ => rfl
  rw [expression, own, if_neg Bool.false_ne_true]
  constructor
  · intro written
    obtain ⟨lines, declared, written⟩ := bind_eq_ok.mp written
    exact ⟨lines, propertyLines_eq_ok.mp declared, (Except.ok.inj written).symm.trans (alone lines)⟩
  · rintro ⟨lines, declared, rfl⟩
    have made := propertyLines_eq_ok.mpr declared
    exact bind_eq_ok.mpr ⟨lines, made, congrArg Except.ok (alone lines)⟩

/-! ## Accesses -/

/-- A part of a path inside a template literal. -/
def piece (convention : Name.Convention) (target : String) : PathPart → String
  | .static text => String.ofList (escapeStatic text)
  | .placeholder name =>
      "$\x7b" ++ (KeyForm.ofKey (convention.apply (String.ofList name))).access target ++ "\x7d"

theorem renderPart_eq (target : String) (part : PathPart) :
    renderPart target convention part = (piece convention target part).toList := by
  cases part with
  | static text => exact String.toList_ofList.symm
  | placeholder name =>
      have opening : "$\x7b".toList = ['$', '\x7b'] := rfl
      have closing : "\x7d".toList = ['\x7d'] := rfl
      rw [renderPart, piece, propertyAccess, readKey_eq, String.toList_append,
        String.toList_append, opening, closing]
      rfl

/-- A path literal is made of the parts of the path. -/
theorem pathLiteral_eq (path target : String) :
    pathLiteral path target convention =
      "\x60" ++ String.join ((pathParts path.toList).map (piece convention target)) ++ "\x60" := by
  have mark : "\x60".toList = [graveAccent] := rfl
  rw [← String.toList_inj, pathLiteral, String.toList_ofList, String.toList_append,
    String.toList_append, String.toList_join, mark, List.flatMap_map,
    funext (renderPart_eq target)]
  rfl

end ClientGen.TypeScript
