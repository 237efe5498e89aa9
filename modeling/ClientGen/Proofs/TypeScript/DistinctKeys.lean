import ClientGen.Proofs.Json.Quoting
import ClientGen.Proofs.TypeScript.Enclosed
import ClientGen.Proofs.TypeScript.Identifier
import ClientGen.Text.Basic
import Mathlib.Data.List.Dedup

/-!
# Property keys

The keys of an object literal are the names of its properties in the spelling of the convention. A
key is written by itself if it is an identifier, and as a quoted text if it is none. As texts the
keys are distinct exactly if the convention spells no two of the names alike. For a reader of
TypeScript white space behind a bare key is no part of it, so that an identifier with a line feed
behind it is the same key as the identifier.
-/

namespace ClientGen.TypeScript

/-! ## Reading keys -/

/-- The key that a declared key stands for: what its quotation marks hold, or an identifier, perhaps
with white space behind it. -/
def denotedKey? : List Char → Option (List Char)
  | '"' :: body =>
      match Json.string body with
      | .ok (key, []) => some key.toList
      | _ => none
  | declared =>
      let name := Text.trimEndWhile Text.isBlank declared
      if isIdentifier name then some name else none

/-- A key without the line feed behind an identifier. -/
def settled (key : List Char) : List Char :=
  if key.getLast? == some '\n' && isIdentifier key.dropLast then key.dropLast else key

theorem isBlank_of_isIdentifierChar {c : Char} (allowed : isIdentifierChar c = true) :
    Text.isBlank c = false := by
  have bounds := toNat_of_isIdentifierChar allowed
  simp [Text.isBlank]
  omega

/-- White space behind an identifier, and nothing else, is trimmed. -/
theorem trimEndWhile_identifier {name blanks : List Char} (whole : isIdentifier name = true)
    (blank : ∀ c ∈ blanks, Text.isBlank c = true) :
    Text.trimEndWhile Text.isBlank (name ++ blanks) = name := by
  have dropped : (blanks.reverse ++ name.reverse).dropWhile Text.isBlank =
      name.reverse.dropWhile Text.isBlank :=
    List.dropWhile_append_of_pos fun c member => blank c (List.mem_reverse.mp member)
  have kept : name.reverse.dropWhile Text.isBlank = name.reverse := by
    cases reversed : name.reverse with
    | nil => rfl
    | cons last others =>
        have member : last ∈ name := List.mem_reverse.mp (reversed ▸ List.mem_cons_self)
        have shown := isBlank_of_isIdentifierChar (isIdentifierChar_of_mem whole member)
        rw [List.dropWhile_cons, shown]
        rfl
  rw [Text.trimEndWhile, List.reverse_append, dropped, kept, List.reverse_reverse]

/-- An identifier is read up to the white space behind it. -/
theorem denotedKey?_identifier {name blanks : List Char} (whole : isIdentifier name = true)
    (blank : ∀ c ∈ blanks, Text.isBlank c = true) :
    denotedKey? (name ++ blanks) = some name := by
  have unquoted : ∀ body, name ++ blanks ≠ '"' :: body := by
    rintro body same
    cases name with
    | nil => cases whole
    | cons first rest =>
        have allowed := isIdentifierChar_of_mem whole List.mem_cons_self
        rw [(List.cons.inj same).1] at allowed
        exact absurd allowed (by decide)
  rw [denotedKey?]
  · simp only [trimEndWhile_identifier whole blank, whole, if_true]
  · exact unquoted

theorem denotedKey?_quote (key : String) :
    denotedKey? (Json.quote key).toList = some key.toList := by
  rw [Json.toList_quote]
  simp only [denotedKey?, Json.string_quoted, String.ofList_toList]

/-- A declared key stands for the key, but for a line feed behind an identifier. -/
theorem denotedKey?_declaredKey (key : String) :
    denotedKey? (declaredKey key).toList = some (settled key.toList) := by
  rw [declaredKey, settled]
  by_cases broken : (key.toList.getLast? == some '\n' && isIdentifier key.toList.dropLast) = true
  · have bare : isBareKey key.toList = true := by rw [isBareKey, broken, Bool.or_true]
    rw [if_pos bare, if_pos broken]
    rw [Bool.and_eq_true, beq_iff_eq] at broken
    have parts : key.toList.dropLast ++ ['\n'] = key.toList :=
      List.dropLast_append_getLast? _ broken.1
    have read := denotedKey?_identifier broken.2 (List.forall_mem_singleton.mpr (by decide) :
      ∀ c ∈ ['\n'], Text.isBlank c = true)
    rwa [parts] at read
  · rw [if_neg broken]
    by_cases whole : isIdentifier key.toList = true
    · have bare : isBareKey key.toList = true := by rw [isBareKey, whole, Bool.true_or]
      rw [if_pos bare]
      simpa using denotedKey?_identifier whole (List.forall_mem_nil _)
    · have quoted : isBareKey key.toList ≠ true := by
        intro bare
        exact (Bool.or_eq_true_iff.mp bare).elim whole broken
      rw [if_neg quoted]
      exact denotedKey?_quote key

/-! ## Keys as texts -/

theorem quote_ne_of_isBareKey {key : String} (bare : isBareKey key.toList = true) (text : String) :
    key ≠ Json.quote text := by
  rintro rfl
  rw [Json.toList_quote] at bare
  exact absurd (isPlain_of_mem_bareKey bare List.mem_cons_self) (by decide)

/-- No two keys are declared by the same text. -/
theorem declaredKey_injective : Function.Injective declaredKey := by
  intro first second same
  rw [declaredKey, declaredKey] at same
  split at same
  · next bare =>
      split at same
      · exact same
      · exact absurd same (quote_ne_of_isBareKey bare second)
  · split at same
    · next bare => exact absurd same.symm (quote_ne_of_isBareKey bare first)
    · exact Json.quote_injective same

/-! ## Object literals -/

variable {convention : Name.Convention} {level : Int}

/-- An object with properties is written as its bases and a literal with a line for each
property. -/
theorem lines_of_expression_object {empty text : String} {required : Bool} {bases : List String}
    {properties : List (String × TypeNode)} (present : properties ≠ [])
    (written : expression convention empty level (.object required properties bases) = .ok text) :
    ∃ lines, List.Forall₂ (DeclaresAt convention level) properties lines ∧
      text = Text.joinStrings " & " (bases.map identifier ++ [braced level lines]) := by
  have own : (properties.isEmpty && !bases.isEmpty) = false := by simp [present]
  rw [expression, own, if_neg Bool.false_ne_true] at written
  obtain ⟨lines, declared, joined⟩ := bind_eq_ok.mp written
  exact ⟨lines, propertyLines_eq_ok_iff.mp declared, (Except.ok.inj joined).symm⟩

/-- An object literal with its lines, and the keys that the lines stand for. -/
structure ObjectLiteral (convention : Name.Convention) (level : Int) (bases : List String)
    (properties : List (String × TypeNode)) (text : String) (lines : List String)
    (keys : List (List Char)) : Prop where
  /-- The literal comes behind the bases and has the lines. -/
  literal : text = Text.joinStrings " & " (bases.map identifier ++ [braced level lines])
  /-- Each property has its line, with the declared key. -/
  declared : List.Forall₂ (DeclaresAt convention level) properties lines
  /-- Each declared key stands for its key. -/
  denoted : List.Forall₂
    (fun property key => denotedKey? (propertyKey property.1 convention).toList = some key)
    properties keys

/-- The keys of properties as they are declared. -/
def declaredKeys (convention : Name.Convention) (properties : List (String × TypeNode)) :
    List String :=
  properties.map fun property => propertyKey property.1 convention

/-- The names of properties as a convention spells them. -/
def spelledNames (convention : Name.Convention) (properties : List (String × TypeNode)) :
    List String :=
  properties.map fun property => convention.apply property.1

theorem dedup_length_eq_iff {α : Type} [DecidableEq α] {items : List α} :
    items.dedup.length = items.length ↔ items.Nodup := by
  rw [← List.dedup_eq_self]
  exact ⟨fun same => (List.dedup_sublist items).eq_of_length same, congrArg List.length⟩

/-- An object literal has as many keys as properties exactly if the convention spells no two names
alike, and as many that are read apart exactly if it does so up to a line feed behind an
identifier. -/
theorem keys_distinct_iff {empty text : String} {required : Bool} {bases : List String}
    {properties : List (String × TypeNode)} (present : properties ≠ [])
    (written : expression convention empty level (.object required properties bases) = .ok text) :
    ∃ lines keys, ObjectLiteral convention level bases properties text lines keys ∧
      ((declaredKeys convention properties).dedup.length = properties.length ↔
        (spelledNames convention properties).Nodup) ∧
      (keys.dedup.length = properties.length ↔
        ((spelledNames convention properties).map fun name => settled name.toList).Nodup) := by
  obtain ⟨lines, declared, literal⟩ := lines_of_expression_object present written
  have texts : declaredKeys convention properties =
      (spelledNames convention properties).map declaredKey := by
    rw [declaredKeys, spelledNames, List.map_map]
    rfl
  refine ⟨lines, (spelledNames convention properties).map fun name => settled name.toList,
    ⟨literal, declared, ?_⟩, ?_, ?_⟩
  · rw [spelledNames, List.map_map, List.forall₂_map_right_iff, List.forall₂_same]
    exact fun property _ => denotedKey?_declaredKey _
  · rw [← List.nodup_map_iff declaredKey_injective, ← texts, ← dedup_length_eq_iff, declaredKeys,
      List.length_map]
  · rw [← dedup_length_eq_iff, List.length_map, spelledNames, List.length_map]

/-- Names in both spellings. -/
def badgeProperties : List (String × TypeNode) :=
  [("badge_id", .scalar true .string none), ("badgeId", .scalar false .number none)]

theorem badgeProperties_distinct_iff :
    badgeProperties ≠ [] ∧
    expression .camel "any" 0 (.object false badgeProperties ["Card"]) =
      .ok "Card & \x7b\n  badgeId: string;\n  badgeId?: number;\n\x7d" ∧
    ∃ lines keys,
      ObjectLiteral .camel 0 ["Card"] badgeProperties
        "Card & \x7b\n  badgeId: string;\n  badgeId?: number;\n\x7d" lines keys ∧
      ((declaredKeys .camel badgeProperties).dedup.length = badgeProperties.length ↔
        (spelledNames .camel badgeProperties).Nodup) ∧
      (keys.dedup.length = badgeProperties.length ↔
        ((spelledNames .camel badgeProperties).map fun name => settled name.toList).Nodup) := by
  have present : badgeProperties ≠ [] := by decide
  have written : expression .camel "any" 0 (.object false badgeProperties ["Card"]) =
      .ok "Card & \x7b\n  badgeId: string;\n  badgeId?: number;\n\x7d" := by decide +kernel
  exact ⟨present, written, keys_distinct_iff present written⟩

/-- Both conventions that change names merge the two keys, and a line feed behind an identifier
merges two keys without any change of names. -/
theorem badgeProperties_merge :
    (∀ convention ∈ [Name.Convention.camel, .snake],
      (declaredKeys convention badgeProperties).dedup.length = 1 ∧ badgeProperties.length = 2) ∧
    (["id", "id\n"].map fun name => denotedKey? (propertyKey name .preserve).toList) =
      [some "id".toList, some "id".toList] := by
  decide +kernel

end ClientGen.TypeScript

/-!
## Written keys

The key of a property is the name of the property as the convention spells it. It is written by
itself if it is an identifier, and as a quoted text that reads back as the key if it is none. The one
exception is an identifier with a line feed behind it, which is written by itself too.
-/

namespace ClientGen.TypeScript

/-! ## Identifiers -/

/-- An ASCII letter, an underscore or a dollar sign. -/
def StartsIdentifier (c : Char) : Prop :=
  'A' ≤ c ∧ c ≤ 'Z' ∨ 'a' ≤ c ∧ c ≤ 'z' ∨ c = '_' ∨ c = '$'

/-- A text whose first character can start an identifier, while all others are such characters or
digits. -/
def IsIdentifier (text : List Char) : Prop :=
  ∃ first rest, text = first :: rest ∧ StartsIdentifier first ∧
    ∀ c ∈ rest, StartsIdentifier c ∨ '0' ≤ c ∧ c ≤ '9'

/-- An identifier with a line feed behind it. -/
def IsBroken (text : List Char) : Prop := ∃ name, IsIdentifier name ∧ text = name ++ ['\n']

theorem isIdentifierStart_iff {c : Char} : isIdentifierStart c = true ↔ StartsIdentifier c := by
  simp only [isIdentifierStart, Text.isLetter, Text.isLower, Text.isUpper, StartsIdentifier,
    Bool.or_eq_true, Bool.and_eq_true, decide_eq_true_eq, beq_iff_eq]
  tauto

theorem isIdentifierChar_iff {c : Char} :
    isIdentifierChar c = true ↔ StartsIdentifier c ∨ '0' ≤ c ∧ c ≤ '9' := by
  rw [← isIdentifierStart_iff]
  simp only [isIdentifierChar, isIdentifierStart, Text.isAlphanumeric, Text.isDigit,
    Bool.or_eq_true, Bool.and_eq_true, decide_eq_true_eq]
  tauto

theorem isIdentifier_iff {text : List Char} : isIdentifier text = true ↔ IsIdentifier text := by
  cases text with
  | nil => exact iff_of_false Bool.false_ne_true nofun
  | cons first rest =>
      rw [isIdentifier, Bool.and_eq_true, List.all_eq_true]
      simp only [isIdentifierStart_iff, isIdentifierChar_iff]
      constructor
      · rintro ⟨start, others⟩
        exact ⟨first, rest, rfl, start, others⟩
      · rintro ⟨_, _, ⟨⟩, start, others⟩
        exact ⟨start, others⟩

/-- A key is written by itself if it is an identifier, or one with a line feed behind it. -/
theorem isBareKey_iff {key : List Char} : isBareKey key = true ↔ IsIdentifier key ∨ IsBroken key := by
  rw [isBareKey, Bool.or_eq_true, Bool.and_eq_true, beq_iff_eq, isIdentifier_iff]
  refine or_congr_right ⟨?_, ?_⟩
  · rintro ⟨last, front⟩
    obtain ⟨name, rfl⟩ := List.getLast?_eq_some_iff.mp last
    rw [List.dropLast_concat] at front
    exact ⟨name, isIdentifier_iff.mp front, rfl⟩
  · rintro ⟨name, whole, rfl⟩
    rw [List.getLast?_concat, List.dropLast_concat]
    exact ⟨rfl, isIdentifier_iff.mpr whole⟩

theorem not_isIdentifier_of_isBroken {key : List Char} (broken : IsBroken key) :
    ¬ IsIdentifier key := by
  obtain ⟨name, _, rfl⟩ := broken
  intro whole
  have member : '\n' ∈ name ++ ['\n'] := List.mem_append_right name List.mem_cons_self
  exact absurd (isIdentifierChar_of_mem (isIdentifier_iff.mpr whole) member) (by decide)

/-! ## Keys -/

/-- A text in quotation marks that reads back as a key. -/
def Quotes (text key : String) : Prop :=
  ∃ body, text.toList = '"' :: body ∧ Json.string body = .ok (key, [])

/-- How a key is written where it is declared and where it is read from a target: by itself and
behind a dot if it is an identifier, or in quotation marks and so in square brackets. -/
def Written (target key declared access : String) : Prop :=
  (IsIdentifier key.toList ∧ declared = key ∧ access = target ++ "." ++ key) ∨
    (Quotes declared key ∧ access = target ++ "[" ++ declared ++ "]")

theorem quotes_quote (key : String) : Quotes (Json.quote key) key := by
  refine ⟨_, Json.toList_quote key, ?_⟩
  rw [Json.string_quoted, String.ofList_toList]

/-- A key that stands by itself is in no quotation marks. -/
theorem not_quotes_of_isBareKey {key : String} (bare : isBareKey key.toList = true)
    (other : String) : ¬ Quotes key other := by
  rintro ⟨body, opened, _⟩
  rw [opened] at bare
  exact absurd (isPlain_of_mem_bareKey bare List.mem_cons_self) (by decide)

theorem not_written_of_isBroken {key : String} (broken : IsBroken key.toList)
    (target access : String) : ¬ Written target key key access := by
  rintro (⟨whole, _⟩ | ⟨quotes, _⟩)
  · exact not_isIdentifier_of_isBroken broken whole
  · exact not_quotes_of_isBareKey (isBareKey_iff.mpr (Or.inr broken)) key quotes

/-- The key of a property is declared and read as that very key, unless it is an identifier with a
line feed behind it. Such a key stands by itself, and of all others the identifiers do and no more. -/
theorem written_propertyKey_iff (target name : String) (convention : Name.Convention) :
    let key := convention.apply name
    (Written target key (propertyKey name convention) (propertyAccess target name convention) ↔
        ¬ IsBroken key.toList) ∧
      (Quotes (propertyKey name convention) key ↔
        ¬ IsIdentifier key.toList ∧ ¬ IsBroken key.toList) ∧
      (IsBroken key.toList → propertyKey name convention = key ∧
        propertyAccess target name convention = target ++ "." ++ key) := by
  intro key
  rw [← not_or, ← isBareKey_iff]
  by_cases bare : isBareKey key.toList = true
  · have declared : propertyKey name convention = key := if_pos bare
    have read : propertyAccess target name convention = target ++ "." ++ key := if_pos bare
    rw [declared, read]
    refine ⟨⟨fun written broken => not_written_of_isBroken broken target _ written, fun sound => ?_⟩,
      iff_of_false (not_quotes_of_isBareKey bare key) (not_not_intro bare), fun _ => ⟨rfl, rfl⟩⟩
    exact Or.inl ⟨(isBareKey_iff.mp bare).resolve_right sound, rfl, rfl⟩
  · have declared : propertyKey name convention = Json.quote key := if_neg bare
    have read : propertyAccess target name convention = target ++ "[" ++ Json.quote key ++ "]" :=
      if_neg bare
    have sound : ¬ IsBroken key.toList := fun broken => bare (isBareKey_iff.mpr (Or.inr broken))
    rw [declared, read]
    exact ⟨iff_of_true (Or.inr ⟨quotes_quote key, rfl⟩) sound, iff_of_true (quotes_quote key) bare,
      fun broken => absurd broken sound⟩

/-- An identifier with a line feed behind it stands by itself under every convention, and behind a
dot, although it is no identifier. -/
theorem lineFeed_not_written :
    (∀ convention ∈ Name.Convention.all, convention.apply "id\n" = "id\n" ∧
      propertyKey "id\n" convention = "id\n" ∧ propertyAccess "p" "id\n" convention = "p.id\n") ∧
    ¬ Written "p" "id\n" "id\n" "p.id\n" := by
  have broken : IsBroken "id\n".toList := ⟨"id".toList, isIdentifier_iff.mp (by decide), by decide⟩
  exact ⟨by decide +kernel, not_written_of_isBroken broken "p" _⟩

end ClientGen.TypeScript
