import ClientGen.Name.Operation
import ClientGen.Proofs.Text
import ClientGen.Proofs.TypeScript.Identifier
import Mathlib.Logic.Relation

/-!
# Names that paths give

The name that a path gives to an operation is its method followed by words of letters and digits,
the first of which starts with a capital or a digit. No method is the beginning of another one, so
that the name tells the method, and no reserved word has a capital or a digit, so that the name is
an identifier as it stands. Slashes beside other slashes and at the ends of the path do not count.
-/

namespace ClientGen

open Text

namespace Name

/-! ## Words -/

/-- A text of letters and digits that starts with a capital or a digit, if it starts at all. -/
structure IsWording (text : List Char) : Prop where
  /-- Its characters. -/
  letters : ∀ c ∈ text, isAlphanumeric c = true
  /-- Its first character. -/
  start : ∀ c ∈ text.head?, isUpper c = true ∨ isDigit c = true

namespace IsWording

theorem nil : IsWording [] := ⟨List.forall_mem_nil _, nofun⟩

theorem cons {c : Char} {rest : List Char} (start : isUpper c = true ∨ isDigit c = true)
    (letters : ∀ d ∈ rest, isAlphanumeric d = true) : IsWording (c :: rest) where
  letters := by
    refine List.forall_mem_cons.mpr ⟨?_, letters⟩
    rw [isAlphanumeric, isLetter]
    rcases start with capital | digit
    · rw [capital, Bool.or_true, Bool.true_or]
    · rw [digit, Bool.or_true]
  start := by
    rintro _ ⟨⟩
    exact start

theorem append {first second : List Char} (before : IsWording first) (after : IsWording second) :
    IsWording (first ++ second) where
  letters := List.forall_mem_append.mpr ⟨before.letters, after.letters⟩
  start := by
    cases first with
    | nil => exact after.start
    | cons c rest => exact before.start

theorem flatMap {α : Type} {f : α → List Char} {items : List α}
    (each : ∀ item ∈ items, IsWording (f item)) : IsWording (items.flatMap f) := by
  induction items with
  | nil => exact nil
  | cons item rest ih =>
      obtain ⟨here, there⟩ := List.forall_mem_cons.mp each
      exact append here (ih there)

end IsWording

theorem starts_toUpper {c : Char} (belongs : isAlphanumeric c = true) :
    isUpper c.toUpper = true ∨ isDigit c.toUpper = true := by
  have small := toNat_lt_of_isAlphanumeric belongs
  revert belongs
  apply forall_ascii _ small
  decide +kernel

theorem isWording_capitalized {word : List Char}
    (belong : ∀ c ∈ word, isAlphanumeric c = true) : IsWording (capitalized word) := by
  cases word with
  | nil => exact .nil
  | cons c rest =>
      obtain ⟨here, there⟩ := List.forall_mem_cons.mp belong
      exact .cons (starts_toUpper here) there

theorem isWording_pascalChars (text : List Char) : IsWording (pascalChars text) :=
  .flatMap fun _ listed => isWording_capitalized (forall_of_mem_runs listed).2

/-! ## Paths -/

theorem isWording_segmentWords (segment : List Char) : IsWording (segmentWords segment) := by
  have inside := isWording_pascalChars (segment.drop 1).dropLast
  rw [segmentWords]
  split
  · exact .cons (Or.inl rfl) (List.forall_mem_cons.mpr ⟨rfl, inside.letters⟩)
  · exact isWording_pascalChars segment

theorem isWording_pathWords (path : List Char) : IsWording (pathWords path) := by
  have words : IsWording ((segments path).flatMap segmentWords) :=
    .flatMap fun segment _ => isWording_segmentWords segment
  rw [pathWords]
  split
  · exact .cons (Or.inl rfl) (forall_mem_of_all rfl)
  · exact words

theorem pathWords_ne_nil (path : List Char) : pathWords path ≠ [] := by
  rw [pathWords]
  split
  · nofun
  · next present => exact present

/-- What a path adds to a name has a first character. -/
theorem exists_pathWords_eq (path : List Char) :
    ∃ first rest, pathWords path = first :: rest ∧
      (isUpper first = true ∨ isDigit first = true) := by
  obtain ⟨first, rest, words⟩ := List.exists_cons_of_ne_nil (pathWords_ne_nil path)
  have wording := isWording_pathWords path
  rw [words] at wording
  exact ⟨first, rest, words, wording.start first rfl⟩

/-! ## Slashes -/

/-- A path with one slash more: in front, at the end, or beside another slash. -/
inductive AddsSlash : List Char → List Char → Prop where
  /-- A slash in front. -/
  | front (path : List Char) : AddsSlash path ('/' :: path)
  /-- A slash at the end. -/
  | back (path : List Char) : AddsSlash path (path ++ ['/'])
  /-- A slash beside another one. -/
  | beside (before after : List Char) :
      AddsSlash (before ++ '/' :: after) (before ++ '/' :: '/' :: after)

theorem segments_append (before after : List Char) :
    segments (before ++ '/' :: after) = segments before ++ segments after := by
  rw [segments, splitOn_append, List.filter_append]
  rfl

theorem segments_of_addsSlash {path longer : List Char} (adds : AddsSlash path longer) :
    segments longer = segments path := by
  cases adds with
  | front => exact segments_append [] path
  | back => exact (segments_append path []).trans (List.append_nil _)
  | beside before after =>
      have doubled : segments ('/' :: after) = segments after := segments_append [] after
      rw [segments_append, segments_append, doubled]

/-- However many slashes are added, the segments stay. -/
theorem segments_of_addsSlashes {path longer : List Char}
    (adds : Relation.ReflTransGen AddsSlash path longer) : segments longer = segments path := by
  induction adds with
  | refl => rfl
  | tail _ last ih => rw [segments_of_addsSlash last, ih]

/-! ## Methods -/

/-- No method is the beginning of another one. -/
theorem Method.eq_of_prefix {first second : Method}
    (starts : first.name.toList <+: second.name.toList) : first = second := by
  revert starts
  cases first <;> cases second <;> decide

theorem toList_ofMethod (method : Method) (path : String) :
    (ofMethod method path).toList = method.name.toList ++ pathWords path.toList := by
  rw [ofMethod, operation, String.toList_append, String.toList_ofList]

/-- A name tells its method, whatever the path. -/
theorem method_eq_of_ofMethod {first second : Method} {path other : String}
    (same : ofMethod first path = ofMethod second other) : first = second := by
  have texts := congrArg String.toList same
  rw [toList_ofMethod, toList_ofMethod] at texts
  have begins : first.name.toList <+: second.name.toList ++ pathWords other.toList :=
    texts ▸ List.prefix_append _ _
  rcases List.prefix_or_prefix_of_prefix begins (List.prefix_append _ _) with shorter | longer
  · exact Method.eq_of_prefix shorter
  · exact (Method.eq_of_prefix longer).symm

/-! ## Names -/

theorem isLower_of_mem_name {method : Method} {c : Char} (member : c ∈ method.name.toList) :
    isLower c = true := by
  have each : ∀ method ∈ Method.all, method.name.toList.all isLower = true := by decide
  have listed : method ∈ Method.all := by cases method <;> decide
  exact List.all_eq_true.mp (each method listed) c member

theorem isAlphanumeric_of_mem_ofMethod {method : Method} {path : String} {c : Char}
    (member : c ∈ (ofMethod method path).toList) : isAlphanumeric c = true := by
  rw [toList_ofMethod] at member
  rcases List.mem_append.mp member with verb | words
  · rw [isAlphanumeric, isLetter, isLower_of_mem_name verb]
    rfl
  · exact (isWording_pathWords path.toList).letters c words

theorem not_isLower_of_starts {c : Char} (start : isUpper c = true ∨ isDigit c = true) :
    isLower c = false := by
  have belongs := (IsWording.cons start (List.forall_mem_nil _)).letters c List.mem_cons_self
  have small := toNat_lt_of_isAlphanumeric belongs
  revert start
  apply forall_ascii _ small
  decide +kernel

/-- Reserved words have small letters only, but a name has words behind its method. -/
theorem ofMethod_notMem_reservedWords (method : Method) (path : String) :
    ofMethod method path ∉ TypeScript.reservedWords := by
  intro reserved
  have small : ∀ word ∈ TypeScript.reservedWords, word.toList.all isLower = true := by
    decide +kernel
  obtain ⟨first, rest, words, start⟩ := exists_pathWords_eq path.toList
  have member : first ∈ (ofMethod method path).toList := by
    rw [toList_ofMethod, words]
    exact List.mem_append_right _ List.mem_cons_self
  have lower := List.all_eq_true.mp (small _ reserved) first member
  rw [not_isLower_of_starts start] at lower
  cases lower

theorem head?_ofMethod (method : Method) (path : String) :
    (ofMethod method path).toList.head? = method.name.toList.head? := by
  rw [toList_ofMethod, List.head?_append]
  cases method <;> rfl

theorem isDigit_of_mem_head? (method : Method) (path : String) :
    ∀ c ∈ (ofMethod method path).toList.head?, isDigit c = false := by
  rw [head?_ofMethod]
  cases method <;> exact fun c first => by cases first; rfl

/-- A name is left as it is when it is turned into an identifier. -/
theorem identifier_ofMethod (method : Method) (path : String) :
    TypeScript.identifier (ofMethod method path) = ofMethod method path := by
  refine TypeScript.identifier_eq_self (TypeScript.isIdentifier_iff_forall.mpr ⟨?_, ?_⟩)
    (ofMethod_notMem_reservedWords method path)
  · rw [head?_ofMethod]
    cases method <;> exact ⟨_, rfl, rfl⟩
  · intro c member
    rw [TypeScript.isIdentifierChar, isAlphanumeric_of_mem_ofMethod member]
    rfl

/-- What holds of the name that a method and a path give to an operation. -/
structure Composed (method : Method) (path name : String) : Prop where
  /-- It has letters and digits only. -/
  letters : ∀ c ∈ name.toList, isAlphanumeric c = true
  /-- Behind the method in small letters comes a capital or a digit. -/
  divided : ∃ first rest, name.toList = method.name.toList ++ first :: rest ∧
    (isUpper first = true ∨ isDigit first = true)
  /-- It is the identifier that it turns into. -/
  identifier : TypeScript.identifier name = name
  /-- It is no reserved word. -/
  unreserved : name ∉ TypeScript.reservedWords
  /-- It does not start with a digit. -/
  unnumbered : ∀ c ∈ name.toList.head?, isDigit c = false
  /-- Another method gives another name, whatever the path. -/
  telling : ∀ other, other ≠ method → ∀ otherPath, ofMethod other otherPath ≠ name
  /-- Slashes beside others and at the ends of the path do not change it. -/
  slashed : ∀ longer, Relation.ReflTransGen AddsSlash path.toList longer.toList →
    ofMethod method longer = name

/-- Every method and every path give a name that is an identifier and tells the method. -/
theorem composed_ofMethod (method : Method) (path : String) :
    Composed method path (ofMethod method path) where
  letters := fun _ => isAlphanumeric_of_mem_ofMethod
  divided := by
    obtain ⟨first, rest, words, start⟩ := exists_pathWords_eq path.toList
    exact ⟨first, rest, by rw [toList_ofMethod, words], start⟩
  identifier := identifier_ofMethod method path
  unreserved := ofMethod_notMem_reservedWords method path
  unnumbered := isDigit_of_mem_head? method path
  telling := fun _ different _ same => different (method_eq_of_ofMethod same)
  slashed := fun longer adds => by
    rw [ofMethod, ofMethod, operation, operation, pathWords, pathWords,
      segments_of_addsSlashes adds]

example : ofMethod .get "/pet-store//\x7bpetId\x7d/" = "getPetStoreByPetId" := by decide +kernel

end Name

end ClientGen
