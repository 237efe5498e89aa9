import ClientGen.Proofs.Name.Spelling
import ClientGen.Proofs.TypeScript.DistinctKeys
import Mathlib.Data.List.Chain

/-!
# Names that a convention has spelled

A convention has nothing to change in a name that it has spelled: camel case leaves underscores in
front only, and snake case leaves no capital at which a word could be divided. An identifier stays
one, and keeps its letters and digits, whatever their case; a line feed behind it stays there.
-/

namespace ClientGen.Name

open TypeScript
open Text hiding isIdentifier

variable {text : List Char}

/-! ## Camel case -/

/-- A text as underscores in front of a body, and the pieces of the body between its underscores. -/
structure Divides (text lead body first : List Char) (others : List (List Char)) : Prop where
  whole : text = lead ++ body
  underscores : ∀ c ∈ lead, c = '_'
  start : ∀ c ∈ body.head?, c ≠ '_'
  pieces : splitOn '_' body = first :: others

theorem exists_divides (text : List Char) :
    ∃ lead body first others, Divides text lead body first others := by
  obtain ⟨first, others, pieces⟩ :=
    List.exists_cons_of_ne_nil (splitOn_ne_nil '_' (text.dropWhile (· = '_')))
  refine ⟨leadingUnderscores text, _, first, others, List.takeWhile_append_dropWhile.symm, ?_, ?_,
    pieces⟩
  · intro c member
    exact of_decide_eq_true (List.all_eq_true.mp List.all_takeWhile c member)
  · intro c start
    have other := List.head?_dropWhile_not (fun c => decide (c = '_')) text
    rw [start] at other
    exact of_decide_eq_false other

namespace Divides

variable {lead body first : List Char} {others : List (List Char)}

theorem cut_eq (divides : Divides text lead body first others) :
    leadingUnderscores text = lead ∧ text.dropWhile (· = '_') = body := by
  have taken : ∀ c ∈ lead, decide (c = '_') = true :=
    fun c member => decide_eq_true (divides.underscores c member)
  have rest : body.takeWhile (· = '_') = [] ∧ body.dropWhile (· = '_') = body := by
    cases shape : body with
    | nil => exact ⟨rfl, rfl⟩
    | cons c rest =>
        have other := divides.start c (by rw [shape]; rfl)
        rw [List.takeWhile_cons, List.dropWhile_cons, decide_eq_false other]
        exact ⟨rfl, rfl⟩
  rw [leadingUnderscores, divides.whole, List.takeWhile_append_of_pos taken,
    List.dropWhile_append_of_pos taken, rest.1, rest.2, List.append_nil]
  exact ⟨rfl, rfl⟩

/-- Camel case joins the pieces, each but the first with a capital. -/
theorem camelChars_eq (divides : Divides text lead body first others) :
    camelChars text = lead ++ (first ++ others.flatMap upperFirst) := by
  rw [camelChars, divides.cut_eq.2, divides.pieces, divides.cut_eq.1]
  exact List.append_assoc lead first _

theorem mem_of_mem_piece (divides : Divides text lead body first others) {piece : List Char}
    (listed : piece ∈ first :: others) {c : Char} (member : c ∈ piece) : c ∈ text := by
  rw [← divides.pieces] at listed
  rw [divides.whole]
  exact List.mem_append_right lead (mem_of_mem_splitOn listed member)

/-- No piece has an underscore, and a capital adds none. -/
theorem underscore_notMem (divides : Divides text lead body first others) :
    '_' ∉ first ++ others.flatMap upperFirst := by
  have clean : ∀ piece ∈ first :: others, '_' ∉ piece := by
    rw [← divides.pieces]
    exact fun piece => separator_notMem_of_mem_splitOn
  rw [List.mem_append, not_or, List.mem_flatMap]
  refine ⟨clean first List.mem_cons_self, ?_⟩
  rintro ⟨piece, listed, member⟩
  exact clean piece (List.mem_cons_of_mem first listed)
    (uncased_underscore.mem_of_mem_upperFirst member)

/-- A body without underscores is its only piece. -/
theorem of_clean (underscores : ∀ c ∈ lead, c = '_') (clean : '_' ∉ body) :
    Divides (lead ++ body) lead body body [] where
  whole := rfl
  underscores := underscores
  start := by
    rintro c start rfl
    exact clean (List.mem_of_mem_head? start)
  pieces := splitOn_of_notMem clean

end Divides

/-- Camel case has underscores in front, and behind them a body without any. -/
theorem exists_camelChars_divides (text : List Char) :
    ∃ lead body, Divides (camelChars text) lead body body [] ∧ '_' ∉ body := by
  obtain ⟨lead, body, first, others, divides⟩ := exists_divides text
  rw [divides.camelChars_eq]
  exact ⟨lead, _, .of_clean divides.underscores divides.underscore_notMem,
    divides.underscore_notMem⟩

theorem camelChars_camelChars (text : List Char) :
    camelChars (camelChars text) = camelChars text := by
  obtain ⟨lead, body, divides, _⟩ := exists_camelChars_divides text
  rw [divides.camelChars_eq, List.flatMap_nil, List.append_nil]
  exact divides.whole.symm

theorem underscore_notMem_dropWhile_camelChars (text : List Char) :
    '_' ∉ (camelChars text).dropWhile (· = '_') := by
  obtain ⟨lead, body, divides, clean⟩ := exists_camelChars_divides text
  rwa [divides.cut_eq.2]

/-! ## Snake case -/

/-- A text is divided in front of capitals only. -/
theorem breakBeforeCapitals_eq_self (small : ∀ c ∈ text.tail, isUpper c = false) :
    breakBeforeCapitals text = text := by
  induction text using breakBeforeCapitals.induct with
  | case1 c d rest broken ih =>
      rw [small d List.mem_cons_self, Bool.and_false] at broken
      cases broken
  | case2 c d rest whole ih =>
      rw [breakBeforeCapitals, if_neg whole,
        ih fun e member => small e (List.mem_cons_of_mem d member)]
  | case3 text short => exact breakBeforeCapitals.eq_2 text short

/-- Of two characters, one at least is no capital. -/
def Apart (c d : Char) : Prop := isUpper c = false ∨ isUpper d = false

theorem isChain_of_tail (small : ∀ c ∈ text.tail, isUpper c = false) : text.IsChain Apart := by
  cases text with
  | nil => exact .nil
  | cons first rest =>
      induction rest generalizing first with
      | nil => exact .singleton first
      | cons c rest ih =>
          obtain ⟨here, there⟩ := List.forall_mem_cons.mp small
          exact .cons_cons (Or.inr here) (ih c there)

/-- Acronyms have capitals beside each other. -/
theorem breakAfterAcronyms_eq_self (apart : text.IsChain Apart) :
    breakAfterAcronyms text = text := by
  induction text using breakAfterAcronyms.induct with
  | case1 c d e rest broken ih =>
      rw [Bool.and_eq_true, Bool.and_eq_true] at broken
      rcases (List.isChain_cons_cons.mp apart).1 with first | second
      · rw [first] at broken
        cases broken.1.1
      · rw [second] at broken
        cases broken.1.2
  | case2 c d e rest whole ih =>
      rw [breakAfterAcronyms, if_neg whole, ih (List.isChain_cons_cons.mp apart).2]
  | case3 text short => exact breakAfterAcronyms.eq_2 text short

theorem isSmall_of_mem_snakeChars {c : Char} (member : c ∈ snakeChars text) : IsSmall c :=
  isSmall_of_mem_lowerAfter member

theorem snakeChars_snakeChars (text : List Char) :
    snakeChars (snakeChars text) = snakeChars text := by
  have small : ∀ c ∈ (snakeChars text).tail, isUpper c = false :=
    fun c member => (isSmall_of_mem_snakeChars (List.mem_of_mem_tail member)).isUpper_eq_false
  rw [snakeChars, breakBeforeCapitals_eq_self small,
    breakAfterAcronyms_eq_self (isChain_of_tail small)]
  exact lower_lower _

/-! ## Letters -/

/-- The characters of a text that are no underscores, whatever their case. -/
def letters (text : List Char) : List Char := (text.filter (· ≠ '_')).map Char.toLower

theorem letters_append (before after : List Char) :
    letters (before ++ after) = letters before ++ letters after := by
  rw [letters, List.filter_append, List.map_append]
  rfl

theorem letters_of_clean (clean : '_' ∉ text) : letters text = text.map Char.toLower := by
  have kept : text.filter (· ≠ '_') = text := by
    refine List.filter_eq_self.mpr fun c member => decide_eq_true ?_
    rintro rfl
    exact clean member
  rw [letters, kept]

theorem letters_map_toLower (ascii : ∀ c ∈ text, c.toNat < 0x80) :
    letters (text.map Char.toLower) = letters text := by
  have lowered : ∀ c ∈ text, (c.toLower = '_' ↔ c = '_') ∧ c.toLower.toLower = c.toLower := by
    intro c member
    apply forall_ascii _ (ascii c member)
    decide +kernel
  have kept : text.filter ((fun c => decide (c ≠ '_')) ∘ Char.toLower) = text.filter (· ≠ '_') :=
    List.filter_congr fun c member => by simp [(lowered c member).1]
  rw [letters, letters, List.filter_map, List.map_map, kept]
  exact List.map_congr_left fun c member => (lowered c (List.mem_of_mem_filter member)).2

theorem letters_camelChars (ascii : ∀ c ∈ text, c.toNat < 0x80) :
    letters (camelChars text) = letters text := by
  obtain ⟨lead, body, first, others, divides⟩ := exists_divides text
  have each : ∀ piece ∈ others, (upperFirst piece).map Char.toLower = piece.map Char.toLower :=
    fun piece listed => map_toLower_upperFirst fun c member =>
      ascii c (divides.mem_of_mem_piece (List.mem_cons_of_mem first listed) member)
  have flat : body.filter (· ≠ '_') = first ++ others.flatten := by
    rw [← flatten_splitOn, divides.pieces, List.flatten_cons]
  calc
    letters (camelChars text) = letters lead ++ letters (first ++ others.flatMap upperFirst) := by
      rw [divides.camelChars_eq, letters_append]
    _ = letters lead ++ (first ++ others.flatten).map Char.toLower := by
      rw [letters_of_clean divides.underscore_notMem, List.map_append, List.map_append,
        List.map_flatMap, List.map_flatten, List.flatMap_congr each]
      rfl
    _ = letters text := by
      rw [← flat, divides.whole, letters_append]
      rfl

theorem Breaks.letters_eq {broken : List Char} (breaks : Breaks text broken) :
    letters broken = letters text := by
  induction breaks with
  | nil => rfl
  | @keep c text broken _ ih =>
      calc
        letters (c :: broken) = letters [c] ++ letters broken := letters_append [c] broken
        _ = letters [c] ++ letters text := by rw [ih]
        _ = letters (c :: text) := (letters_append [c] text).symm
  | @divide c text broken _ ih =>
      calc
        letters (c :: '_' :: broken) = letters [c] ++ letters ('_' :: broken) :=
          letters_append [c] ('_' :: broken)
        _ = letters [c] ++ letters text := by rw [← ih]; rfl
        _ = letters (c :: text) := (letters_append [c] text).symm

theorem toNat_lt_of_mem_breaks (ascii : ∀ c ∈ text, c.toNat < 0x80) :
    ∀ c ∈ breakAfterAcronyms (breakBeforeCapitals text), c.toNat < 0x80 := by
  intro c member
  by_cases underscore : c = '_'
  · rw [underscore]
    decide
  · exact ascii c (mem_of_mem_breaks underscore member)

/-- On ASCII, snake case changes each letter by itself. -/
theorem snakeChars_of_ascii (ascii : ∀ c ∈ text, c.toNat < 0x80) :
    snakeChars text = (breakAfterAcronyms (breakBeforeCapitals text)).map Char.toLower :=
  lowerAfter_of_ascii (toNat_lt_of_mem_breaks ascii) []

theorem letters_snakeChars (ascii : ∀ c ∈ text, c.toNat < 0x80) :
    letters (snakeChars text) = letters text := by
  rw [snakeChars_of_ascii ascii, letters_map_toLower (toNat_lt_of_mem_breaks ascii),
    (breaks_breakAfterAcronyms _).letters_eq, (breaks_breakBeforeCapitals _).letters_eq]

/-! ## Identifiers -/

theorem toNat_lt_of_isIdentifier (whole : isIdentifier text = true) :
    ∀ c ∈ text, c.toNat < 0x80 := fun _ member =>
  toNat_lt_of_isIdentifierChar (isIdentifierChar_of_mem whole member)

theorem isIdentifierChar_of_mem_upperFirst (allowed : ∀ c ∈ text, isIdentifierChar c = true) :
    ∀ c ∈ upperFirst text, isIdentifierChar c = true := by
  cases text with
  | nil => exact allowed
  | cons c rest =>
      obtain ⟨here, there⟩ := List.forall_mem_cons.mp allowed
      have small := toNat_lt_of_isIdentifierChar here
      have raised : isIdentifierChar c.toUpper = true := by
        revert here
        apply forall_ascii _ small
        decide +kernel
      rw [upperFirst, upperChar, if_pos small]
      exact List.forall_mem_cons.mpr ⟨raised, there⟩

theorem head?_camelChars (text : List Char) : (camelChars text).head? = text.head? := by
  obtain ⟨lead, body, first, others, divides⟩ := exists_divides text
  have same : (first ++ others.flatMap upperFirst).head? = body.head? := by
    have pieces := divides.pieces
    cases shape : body with
    | nil =>
        rw [shape] at pieces
        obtain ⟨rfl, rfl⟩ := List.cons.inj pieces
        rfl
    | cons c rest =>
        rw [shape, splitOn, if_neg (divides.start c (by rw [shape]; rfl))] at pieces
        split at pieces <;>
        · obtain ⟨rfl, rfl⟩ := List.cons.inj pieces
          rfl
  rw [divides.camelChars_eq, List.head?_append, same, ← List.head?_append, ← divides.whole]

theorem isIdentifier_camelChars (whole : isIdentifier text = true) :
    isIdentifier (camelChars text) = true := by
  obtain ⟨start, allowed⟩ := isIdentifier_iff_forall.mp whole
  refine isIdentifier_iff_forall.mpr ⟨by rwa [head?_camelChars], ?_⟩
  obtain ⟨lead, body, first, others, divides⟩ := exists_divides text
  have within : ∀ piece ∈ first :: others, ∀ c ∈ piece, isIdentifierChar c = true :=
    fun piece listed c member => allowed c (divides.mem_of_mem_piece listed member)
  rw [divides.camelChars_eq, List.forall_mem_append, List.forall_mem_append]
  refine ⟨fun c member => ?_, within first List.mem_cons_self, fun c member => ?_⟩
  · rw [divides.underscores c member]
    decide
  · obtain ⟨piece, listed, inside⟩ := List.mem_flatMap.mp member
    exact isIdentifierChar_of_mem_upperFirst (within piece (List.mem_cons_of_mem first listed)) c
      inside

theorem Breaks.head?_eq {broken : List Char} (breaks : Breaks text broken) :
    broken.head? = text.head? := by
  cases breaks <;> rfl

theorem isIdentifier_snakeChars (whole : isIdentifier text = true) :
    isIdentifier (snakeChars text) = true := by
  have lowered : ∀ c, isIdentifierChar c = true →
      isIdentifierChar c.toLower = true ∧
        (isIdentifierStart c = true → isIdentifierStart c.toLower = true) := by
    intro c allowed
    have small := toNat_lt_of_isIdentifierChar allowed
    revert allowed
    apply forall_ascii _ small
    decide +kernel
  obtain ⟨⟨first, here, start⟩, allowed⟩ := isIdentifier_iff_forall.mp whole
  rw [snakeChars_of_ascii (toNat_lt_of_isIdentifier whole), isIdentifier_iff_forall, List.head?_map,
    (breaks_breakAfterAcronyms _).head?_eq, (breaks_breakBeforeCapitals _).head?_eq,
    List.forall_mem_map]
  refine ⟨⟨first.toLower, Option.mem_map_of_mem _ here, ?_⟩, fun c member => (lowered c ?_).1⟩
  · exact (lowered first (isIdentifierChar_of_isIdentifierStart start)).2 start
  · by_cases underscore : c = '_'
    · rw [underscore]
      decide
    · exact allowed c (mem_of_mem_breaks underscore member)

/-! ## Line feeds behind identifiers -/

/-- A line feed behind a text stays behind it, as it has no capital and is no underscore. -/
theorem camelChars_lineFeed (text : List Char) :
    camelChars (text ++ ['\n']) = camelChars text ++ ['\n'] := by
  obtain ⟨lead, body, first, others, divides⟩ := exists_divides text
  obtain ⟨pieces, last, divided, longer⟩ := splitOn_concat (by decide : '\n' ≠ '_') body
  have start : ∀ c ∈ (body ++ ['\n']).head?, c ≠ '_' := by
    cases shape : body with
    | nil =>
        rintro _ ⟨⟩
        decide
    | cons c rest =>
        rintro _ ⟨⟩
        exact divides.start c (by rw [shape]; rfl)
  have raised : upperFirst (last ++ ['\n']) = upperFirst last ++ ['\n'] := by
    cases last with
    | nil => decide
    | cons c rest => exact (List.append_assoc _ rest _).symm
  have whole : text ++ ['\n'] = lead ++ (body ++ ['\n']) := by
    rw [divides.whole, List.append_assoc]
  rw [divides.camelChars_eq]
  rw [divides.pieces] at divided
  -- The last piece takes the line feed; it is the first one if there are no others.
  cases pieces with
  | nil =>
      obtain ⟨rfl, rfl⟩ := List.cons.inj divided
      rw [Divides.camelChars_eq ⟨whole, divides.underscores, start, longer⟩]
      simp
  | cons piece more =>
      obtain ⟨rfl, rfl⟩ := List.cons.inj divided
      rw [Divides.camelChars_eq ⟨whole, divides.underscores, start, longer⟩]
      simp [raised]

/-- A small letter or a digit, behind which a capital starts another word. -/
def isWordChar (c : Char) : Bool := isLower c || isDigit c

/-- A text is divided between two parts if the first one ends in a small letter or a digit and the
second one starts with a capital. -/
theorem breakBeforeCapitals_append (before after : List Char) :
    breakBeforeCapitals (before ++ after) = breakBeforeCapitals before ++
      (if before.getLast?.any isWordChar && after.head?.any isUpper then
        '_' :: breakBeforeCapitals after
      else breakBeforeCapitals after) := by
  induction before using breakBeforeCapitals.induct with
  | case1 c d rest broken ih =>
      rw [breakBeforeCapitals, if_pos broken, List.cons_append, List.cons_append, List.cons_append,
        List.cons_append, breakBeforeCapitals, if_pos broken, ← List.cons_append, ih]
      rfl
  | case2 c d rest whole ih =>
      rw [breakBeforeCapitals, if_neg whole, List.cons_append, List.cons_append, List.cons_append,
        breakBeforeCapitals, if_neg whole, ← List.cons_append, ih]
      rfl
  | case3 before short =>
      rcases before with _ | ⟨c, _ | ⟨d, rest⟩⟩
      · rfl
      · cases after with
        | nil => simp [breakBeforeCapitals]
        | cons d rest =>
            rw [List.singleton_append, breakBeforeCapitals]
            split <;> simp_all [breakBeforeCapitals, isWordChar]
      · exact absurd rfl (short c d rest)

theorem breakAfterAcronyms_lineFeed (text : List Char) :
    breakAfterAcronyms (text ++ ['\n']) = breakAfterAcronyms text ++ ['\n'] := by
  induction text using breakAfterAcronyms.induct with
  | case1 c d e rest broken ih =>
      rw [breakAfterAcronyms, if_pos broken]
      exact (if_pos broken).trans (congrArg (c :: '_' :: ·) ih)
  | case2 c d e rest whole ih =>
      rw [breakAfterAcronyms, if_neg whole]
      exact (if_neg whole).trans (congrArg (c :: ·) ih)
  | case3 text short =>
      rcases text with _ | ⟨c, _ | ⟨d, _ | ⟨e, rest⟩⟩⟩
      · rfl
      · rfl
      · have apart : ¬ (isUpper c && isUpper d && isLower '\n') = true := by
          rw [(by decide : isLower '\n' = false), Bool.and_false]
          exact Bool.false_ne_true
        exact if_neg apart
      · exact absurd rfl (short c d e rest)

theorem snakeChars_lineFeed (ascii : ∀ c ∈ text, c.toNat < 0x80) :
    snakeChars (text ++ ['\n']) = snakeChars text ++ ['\n'] := by
  have longer : ∀ c ∈ text ++ ['\n'], c.toNat < 0x80 :=
    List.forall_mem_append.mpr ⟨ascii, List.forall_mem_singleton.mpr (by decide)⟩
  have broken : breakBeforeCapitals (text ++ ['\n']) = breakBeforeCapitals text ++ ['\n'] := by
    rw [breakBeforeCapitals_append, if_neg (by simp [isUpper])]
    rfl
  rw [snakeChars_of_ascii longer, snakeChars_of_ascii ascii, broken, breakAfterAcronyms_lineFeed,
    List.map_append]
  rfl

/-! ## Conventions -/

/-- What holds of the spellings of a text, whatever it is. -/
structure Lasting (text : String) : Prop where
  /-- A convention does not change what it has spelled. -/
  again : ∀ convention : Convention,
    convention.apply (convention.apply text) = convention.apply text
  /-- Camel case has no underscores but those in front. -/
  joined : '_' ∉ (Convention.camel.apply text).toList.dropWhile (· = '_')
  /-- Snake case has no capitals. -/
  small : ∀ c ∈ (Convention.snake.apply text).toList, isUpper c = false
  /-- An identifier stays one. -/
  whole : IsIdentifier text.toList →
    ∀ convention : Convention, IsIdentifier (convention.apply text).toList
  /-- An identifier with a line feed behind it, which is a bare key too, stays one. -/
  broken : IsBroken text.toList →
    ∀ convention : Convention, IsBroken (convention.apply text).toList
  /-- An identifier keeps its letters and digits, whatever their case. -/
  kept : IsIdentifier text.toList →
    ∀ convention : Convention, letters (convention.apply text).toList = letters text.toList

theorem toList_apply (convention : Convention) (text : String) :
    (convention.apply text).toList = convention.applyChars text.toList := String.toList_ofList

theorem isIdentifier_applyChars (convention : Convention) (whole : isIdentifier text = true) :
    isIdentifier (convention.applyChars text) = true := by
  cases convention with
  | preserve => exact whole
  | camel => exact isIdentifier_camelChars whole
  | snake => exact isIdentifier_snakeChars whole

theorem letters_applyChars (convention : Convention) (whole : isIdentifier text = true) :
    letters (convention.applyChars text) = letters text := by
  cases convention with
  | preserve => rfl
  | camel => exact letters_camelChars (toNat_lt_of_isIdentifier whole)
  | snake => exact letters_snakeChars (toNat_lt_of_isIdentifier whole)

theorem applyChars_lineFeed (convention : Convention) (whole : isIdentifier text = true) :
    convention.applyChars (text ++ ['\n']) = convention.applyChars text ++ ['\n'] := by
  cases convention with
  | preserve => rfl
  | camel => exact camelChars_lineFeed text
  | snake => exact snakeChars_lineFeed (toNat_lt_of_isIdentifier whole)

theorem applyChars_applyChars (convention : Convention) (text : List Char) :
    convention.applyChars (convention.applyChars text) = convention.applyChars text := by
  cases convention with
  | preserve => rfl
  | camel => exact camelChars_camelChars text
  | snake => exact snakeChars_snakeChars text

/-- What a convention spells lasts under it, and an identifier lasts under every convention. -/
theorem lasting_spellings (text : String) : Lasting text where
  again := fun convention => by
    rw [Convention.apply, toList_apply, applyChars_applyChars]
    rfl
  joined := by
    rw [toList_apply]
    exact underscore_notMem_dropWhile_camelChars text.toList
  small := fun c member => by
    rw [toList_apply] at member
    exact (isSmall_of_mem_snakeChars member).isUpper_eq_false
  whole := fun whole convention => by
    rw [toList_apply]
    exact isIdentifier_iff.mp (isIdentifier_applyChars convention (isIdentifier_iff.mpr whole))
  broken := by
    rintro ⟨name, whole, longer⟩ convention
    rw [← isIdentifier_iff] at whole
    rw [toList_apply, longer, applyChars_lineFeed convention whole]
    exact ⟨_, isIdentifier_iff.mp (isIdentifier_applyChars convention whole), rfl⟩
  kept := fun whole convention => by
    rw [toList_apply]
    exact letters_applyChars convention (isIdentifier_iff.mpr whole)

/-- An acronym, underscores beside each other, and a word that starts with a digit. -/
theorem httpStatus_lasting :
    IsIdentifier "_HTTPStatus__of_9Lives".toList ∧
      Convention.camel.apply "_HTTPStatus__of_9Lives" = "_HTTPStatusOf9Lives" ∧
      Convention.snake.apply "_HTTPStatus__of_9Lives" = "_http_status__of_9_lives" ∧
      ∀ convention : Convention,
        IsIdentifier (convention.apply "_HTTPStatus__of_9Lives").toList ∧
        letters (convention.apply "_HTTPStatus__of_9Lives").toList =
          letters "_HTTPStatus__of_9Lives".toList := by
  have whole : IsIdentifier "_HTTPStatus__of_9Lives".toList :=
    isIdentifier_iff.mp (by decide +kernel)
  have lasting := lasting_spellings "_HTTPStatus__of_9Lives"
  exact ⟨whole, by decide +kernel, by decide +kernel,
    fun convention => ⟨lasting.whole whole convention, lasting.kept whole convention⟩⟩

end ClientGen.Name
