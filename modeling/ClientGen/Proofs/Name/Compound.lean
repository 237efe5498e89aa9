import ClientGen.Proofs.Name.Convention
import Mathlib.Data.Set.Function

/-!
# Names of several words

A name of several words is written in snake case with an underscore in front of each word but the
first, and in camel case with a capital there. Both spellings tell the words: each capital starts a
word and stands behind a small letter or a digit, as words behind the first one have at least two
characters. So snake case and camel case are inverse on these spellings.
-/

namespace ClientGen.Name

open Text

/-! ## Words -/

/-- A word of a name: a small letter, and small letters and digits behind it. -/
structure Word where
  /-- Its first letter. -/
  first : Char
  /-- What stands behind the first letter. -/
  rest : List Char
  /-- The first letter is small. -/
  isLower_first : isLower first = true
  /-- So are all others that are no digits. -/
  isWordChar_rest : ∀ c ∈ rest, isWordChar c = true

/-- What small letters and digits have in common with underscores: snake case keeps them. -/
structure InSnake (c : Char) : Prop where
  ascii : c.toNat < 0x80
  small : isUpper c = false
  own : c.toLower = c

theorem inSnake_underscore : InSnake '_' := ⟨by decide, by decide, by decide⟩

theorem inSnake_of_isWordChar {c : Char} (allowed : isWordChar c = true) : InSnake c := by
  have ascii : c.toNat < 0x80 := by
    refine toNat_lt_of_isAlphanumeric ?_
    rw [isAlphanumeric, isLetter, Bool.or_right_comm, Bool.or_eq_true]
    exact Or.inl allowed
  have same : isUpper c = false ∧ c.toLower = c := by
    revert allowed
    apply forall_ascii _ ascii
    decide +kernel
  exact ⟨ascii, same.1, same.2⟩

theorem ne_underscore_of_isWordChar {c : Char} (allowed : isWordChar c = true) : '_' ≠ c := by
  rintro rfl
  exact absurd allowed (by decide)

/-- The capital of a small letter. -/
theorem capital_of_isLower {c : Char} (small : isLower c = true) :
    c.toUpper.toNat < 0x80 ∧ isUpper c.toUpper = true ∧ c.toUpper.toLower = c := by
  have allowed : isWordChar c = true := by rw [isWordChar, small, Bool.true_or]
  have ascii := (inSnake_of_isWordChar allowed).ascii
  revert small
  apply forall_ascii _ ascii
  decide +kernel

theorem map_toLower_of_inSnake {text : List Char} (small : ∀ c ∈ text, InSnake c) :
    text.map Char.toLower = text :=
  (List.map_congr_left fun c member => (small c member).own).trans (List.map_id text)

theorem any_getLast?_of_forall {text : List Char} (present : text ≠ [])
    (allowed : ∀ c ∈ text, isWordChar c = true) : text.getLast?.any isWordChar = true := by
  rw [List.getLast?_eq_some_getLast present]
  exact allowed _ (List.getLast_mem present)

namespace Word

/-- The characters of a word. -/
def text (word : Word) : List Char := word.first :: word.rest

/-- A word with a capital. -/
def capitalized (word : Word) : List Char := word.first.toUpper :: word.rest

theorem isWordChar_of_mem (word : Word) : ∀ c ∈ word.text, isWordChar c = true := by
  refine List.forall_mem_cons.mpr ⟨?_, word.isWordChar_rest⟩
  rw [isWordChar, word.isLower_first, Bool.true_or]

theorem underscore_notMem (word : Word) : '_' ∉ word.text := fun member =>
  ne_underscore_of_isWordChar (word.isWordChar_of_mem _ member) rfl

theorem upperFirst_text (word : Word) : upperFirst word.text = word.capitalized := by
  have ascii := (inSnake_of_isWordChar (word.isWordChar_of_mem _ List.mem_cons_self)).ascii
  rw [text, upperFirst, upperChar, if_pos ascii]
  rfl

theorem map_toLower_capitalized (word : Word) :
    word.capitalized.map Char.toLower = word.text := by
  have rest : word.rest.map Char.toLower = word.rest :=
    map_toLower_of_inSnake fun c member => inSnake_of_isWordChar (word.isWordChar_rest c member)
  rw [capitalized, List.map_cons, (capital_of_isLower word.isLower_first).2.2, rest, text]

theorem isUpper_of_mem_tail_capitalized (word : Word) :
    ∀ c ∈ word.capitalized.tail, isUpper c = false :=
  fun c member => (inSnake_of_isWordChar (word.isWordChar_rest c member)).small

theorem any_getLast?_text (word : Word) : word.text.getLast?.any isWordChar = true :=
  any_getLast?_of_forall (List.cons_ne_nil _ _) word.isWordChar_of_mem

theorem any_getLast?_capitalized (word : Word) (long : word.rest ≠ []) :
    word.capitalized.getLast?.any isWordChar = true := by
  rw [capitalized, List.getLast?_cons_of_ne_nil long]
  exact any_getLast?_of_forall long word.isWordChar_rest

end Word

/-! ## Names -/

/-- A name of several words. A word behind the first one has more than one character, as its capital
would else stand in front of the capital of the next one. -/
structure Compound where
  /-- The number of underscores in front. -/
  depth : Nat
  /-- The first word. -/
  head : Word
  /-- The words behind it. -/
  others : List Word
  /-- They have more than one character each. -/
  long : ∀ word ∈ others, word.rest ≠ []

namespace Compound

/-- The underscores in front and the first word. -/
def front (name : Compound) : List Char := List.replicate name.depth '_' ++ name.head.text

/-- The name with an underscore in front of each word but the first. -/
def inSnakeCase (name : Compound) : String :=
  String.ofList (name.front ++ name.others.flatMap fun word => '_' :: word.text)

/-- The name with a capital at the start of each word but the first. -/
def inCamelCase (name : Compound) : String :=
  String.ofList (name.front ++ name.others.flatMap Word.capitalized)

/-! ### From snake case to camel case -/

theorem splitOn_words (first : Word) (others : List Word) :
    splitOn '_' (first.text ++ others.flatMap fun word => '_' :: word.text) =
      first.text :: others.map Word.text := by
  induction others generalizing first with
  | nil =>
      rw [List.flatMap_nil, List.append_nil]
      exact splitOn_of_notMem first.underscore_notMem
  | cons word rest ih =>
      rw [List.flatMap_cons, List.cons_append, splitOn_append, ih,
        splitOn_of_notMem first.underscore_notMem, List.singleton_append, List.map_cons]

theorem divides_words (name : Compound) :
    Divides (name.front ++ name.others.flatMap fun word => '_' :: word.text)
      (List.replicate name.depth '_')
      (name.head.text ++ name.others.flatMap fun word => '_' :: word.text) name.head.text
      (name.others.map Word.text) where
  whole := List.append_assoc _ name.head.text _
  underscores := fun _ => List.eq_of_mem_replicate
  start := by
    rintro _ ⟨⟩
    exact (ne_underscore_of_isWordChar (name.head.isWordChar_of_mem _ List.mem_cons_self)).symm
  pieces := splitOn_words name.head name.others

theorem camel_inSnakeCase (name : Compound) : camel name.inSnakeCase = name.inCamelCase := by
  have raised : (name.others.map Word.text).flatMap upperFirst =
      name.others.flatMap Word.capitalized := by
    rw [List.flatMap_map]
    exact List.flatMap_congr fun word _ => word.upperFirst_text
  rw [camel, inSnakeCase, String.toList_ofList, name.divides_words.camelChars_eq, raised,
    inCamelCase, front, List.append_assoc]

/-! ### From camel case to snake case -/

/-- A text is divided at each capital, if a small letter or a digit stands in front of the words. -/
theorem breakBeforeCapitals_words {others : List Word} (long : ∀ word ∈ others, word.rest ≠ [])
    {before : List Char} (ends : before.getLast?.any isWordChar = true)
    (whole : breakBeforeCapitals before = before) :
    breakBeforeCapitals (before ++ others.flatMap Word.capitalized) =
      before ++ others.flatMap fun word => '_' :: word.capitalized := by
  induction others generalizing before with
  | nil => rw [List.flatMap_nil, List.flatMap_nil, List.append_nil, whole]
  | cons word rest ih =>
      obtain ⟨here, there⟩ := List.forall_mem_cons.mp long
      have divided := ih there (word.any_getLast?_capitalized here)
        (breakBeforeCapitals_eq_self word.isUpper_of_mem_tail_capitalized)
      have capital : ((word :: rest).flatMap Word.capitalized).head?.any isUpper = true :=
        (capital_of_isLower word.isLower_first).2.1
      rw [breakBeforeCapitals_append, if_pos (Bool.and_eq_true_iff.mpr ⟨ends, capital⟩), whole,
        List.flatMap_cons, divided]
      rfl

theorem isChain_words {others : List Word} {before : List Char} (apart : before.IsChain Apart) :
    (before ++ others.flatMap fun word => '_' :: word.capitalized).IsChain Apart := by
  induction others generalizing before with
  | nil => rwa [List.flatMap_nil, List.append_nil]
  | cons word rest ih =>
      have here : ('_' :: word.capitalized).IsChain Apart :=
        .cons_cons (Or.inl inSnake_underscore.small)
          (isChain_of_tail word.isUpper_of_mem_tail_capitalized)
      rw [List.flatMap_cons, ← List.append_assoc]
      refine ih (apart.append here ?_)
      rintro _ _ _ ⟨⟩
      exact Or.inr inSnake_underscore.small

theorem inSnake_of_mem_front (name : Compound) : ∀ c ∈ name.front, InSnake c := by
  refine List.forall_mem_append.mpr ⟨fun c member => ?_, fun c member => ?_⟩
  · rw [List.eq_of_mem_replicate member]
    exact inSnake_underscore
  · exact inSnake_of_isWordChar (name.head.isWordChar_of_mem c member)

theorem isUpper_of_mem_tail_front (name : Compound) : ∀ c ∈ name.front.tail, isUpper c = false :=
  fun c member => (name.inSnake_of_mem_front c (List.mem_of_mem_tail member)).small

theorem toNat_lt_of_mem_inCamelCase (name : Compound) :
    ∀ c ∈ name.front ++ name.others.flatMap Word.capitalized, c.toNat < 0x80 := by
  refine List.forall_mem_append.mpr ⟨fun c member => ?_, fun c member => ?_⟩
  · exact (name.inSnake_of_mem_front c member).ascii
  · obtain ⟨word, _, inside⟩ := List.mem_flatMap.mp member
    rcases List.mem_cons.mp inside with rfl | rest
    · exact (capital_of_isLower word.isLower_first).1
    · exact (inSnake_of_isWordChar (word.isWordChar_rest c rest)).ascii

theorem snake_inCamelCase (name : Compound) : snake name.inCamelCase = name.inSnakeCase := by
  have ends : name.front.getLast?.any isWordChar = true := by
    rw [front, List.getLast?_append_of_ne_nil]
    · exact name.head.any_getLast?_text
    · exact List.cons_ne_nil _ _
  have divided := breakBeforeCapitals_words name.long ends
    (breakBeforeCapitals_eq_self name.isUpper_of_mem_tail_front)
  have apart :
      (name.front ++ name.others.flatMap fun word => '_' :: word.capitalized).IsChain Apart :=
    isChain_words (isChain_of_tail name.isUpper_of_mem_tail_front)
  have lowered (word : Word) : ('_' :: word.capitalized).map Char.toLower = '_' :: word.text := by
    rw [List.map_cons, word.map_toLower_capitalized, inSnake_underscore.own]
  rw [snake, inCamelCase, String.toList_ofList,
    snakeChars_of_ascii name.toNat_lt_of_mem_inCamelCase, divided, breakAfterAcronyms_eq_self apart,
    List.map_append, map_toLower_of_inSnake name.inSnake_of_mem_front, List.map_flatMap,
    List.flatMap_congr fun word _ => lowered word, inSnakeCase]

/-! ### Both ways -/

/-- Between names in snake case and names in camel case, each conversion undoes the other, so that
camel case is one to one. -/
theorem bijOn_invOn_camel :
    Set.BijOn camel (Set.range inSnakeCase) (Set.range inCamelCase) ∧
      Set.InvOn snake camel (Set.range inSnakeCase) (Set.range inCamelCase) := by
  have inverse : Set.InvOn snake camel (Set.range inSnakeCase) (Set.range inCamelCase) := by
    constructor
    · rintro _ ⟨name, rfl⟩
      rw [camel_inSnakeCase, snake_inCamelCase]
    · rintro _ ⟨name, rfl⟩
      rw [snake_inCamelCase, camel_inSnakeCase]
  refine ⟨inverse.bijOn ?_ ?_, inverse⟩
  · rintro _ ⟨name, rfl⟩
    exact ⟨name, (camel_inSnakeCase name).symm⟩
  · rintro _ ⟨name, rfl⟩
    exact ⟨name, (snake_inCamelCase name).symm⟩

/-- A name with underscores in front, and with words that end in digits. -/
def photoUrls : Compound where
  depth := 2
  head := ⟨'p', ['h', 'o', 't', 'o', '2'], rfl, forall_mem_of_all rfl⟩
  others :=
    [⟨'u', ['r', 'l', 's'], rfl, forall_mem_of_all rfl⟩, ⟨'x', ['1'], rfl, forall_mem_of_all rfl⟩]
  long := by simp

theorem photoUrls_bijOn_invOn :
    "__photo2_urls_x1" ∈ Set.range inSnakeCase ∧ "__photo2UrlsX1" ∈ Set.range inCamelCase ∧
      camel "__photo2_urls_x1" = "__photo2UrlsX1" ∧
      snake (camel "__photo2_urls_x1") = "__photo2_urls_x1" ∧
      camel (snake "__photo2UrlsX1") = "__photo2UrlsX1" := by
  have low : "__photo2_urls_x1" ∈ Set.range inSnakeCase := ⟨photoUrls, by decide⟩
  have high : "__photo2UrlsX1" ∈ Set.range inCamelCase := ⟨photoUrls, by decide⟩
  exact ⟨low, high, by decide +kernel, bijOn_invOn_camel.2.1 low, bijOn_invOn_camel.2.2 high⟩

/-- Capitals of words with one letter run together. -/
example : camel "a_b_c" = "aBC" ∧ snake "aBC" = "a_bc" := by decide +kernel

end Compound

end ClientGen.Name
