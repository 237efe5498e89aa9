import ClientGen.Proofs.Json.Lexeme
import ClientGen.Yaml.TokenStream

/-!
# What JSON and YAML have in common

YAML reads most of JSON the way JSON does. It does not allow some characters, and takes tabs outside
of strings for nothing at all. Inside of strings it takes a next-line character for white space, and
what it calls separators of lines and paragraphs for the ends of lines: it keeps them, but not the
spaces beside them, and refuses a document marker behind them. It reads numbers with a point and a
signed exponent, or with a point or an exponent left out altogether, and takes other numbers with
exponents, and the constants that are no numbers, for text. It leaves the halves of a surrogate pair
apart. And the colon behind a name has to follow soon, on the line on which the name begins.
-/

namespace ClientGen.Json

variable {text rest : List Char}

/-! ## Conditions -/

/-- A character that can stand in JSON and YAML for the same. -/
def isCommonChar (c : Char) : Bool := Yaml.isAllowed c && c != '\t' && c != '\x85'

/-- A character that ends a line of a string for YAML, and stays in it. -/
def isSeparator (c : Char) : Bool := c == '\u2028' || c == '\u2029'

/-- Whether a text begins with a document marker. -/
def startsMarker : List Char → Bool
  | a :: b :: c :: d :: _ => (a == '-' || a == '.') && b == a && c == a && Yaml.isGap d
  | _ => false

/-- Whether YAML keeps what stands at the start of a line of a string. -/
def startsLine (text : List Char) : Bool := text.head? != some ' ' && !startsMarker text

/-- Whether YAML keeps the lines of a string, with no spaces at the ends of them. -/
def keepsLines : List Char → Bool
  | [] => true
  | c :: rest =>
      (!isSeparator c || startsLine rest) && (c != ' ' || !rest.head?.any isSeparator) &&
        keepsLines rest

/-- White space that is no tab. -/
def isBlank (c : Char) : Bool := c == ' ' || c == '\n' || c == '\r'

/-- A character of a number in front of its exponent. -/
def isBeforePower (c : Char) : Bool := Text.isDigit c || c == '-' || c == '.'

/-- Whether a word is no constant but that of a truth value or of nothing, and a number only with a
point and a signed exponent if it has an exponent. -/
def isCommonWord (letters : List Char) : Bool :=
  ["null", "true", "false"].contains (String.ofList letters) ||
    match letters.dropWhile isBeforePower with
    | [] => true
    | _ :: sign :: _ => letters.contains '.' && (sign == '-' || sign == '+')
    | _ => false

/-- The codes that the body of a string spells. -/
def codesOf (body : List Char) : List Nat :=
  match stringCodes body (body ++ ['"']) with
  | .ok (codes, _) => codes
  | .error _ => []

/-- Whether codes have a surrogate pair among them. -/
def hasPair : List Nat → Bool
  | high :: low :: rest =>
      (isHighSurrogate high && isLowSurrogate low) || hasPair (low :: rest)
  | _ => false

/-- Whether YAML reads a lexeme the way JSON does. -/
def isCommonLexeme : Lexeme → Bool
  | .sign _ => true
  | .word letters => isCommonWord letters
  | .quoted body => !hasPair (codesOf body) && keepsLines body

/-- Whether a lexeme is white space. -/
def Lexeme.isSpace : Lexeme → Bool
  | .sign c => Json.isSpace c
  | _ => false

/-- Whether the colon behind a string, if there is one, follows on the line on which the string
begins, and not too far from there. -/
def isNearColon (body : List Char) (rest : List Lexeme) : Bool :=
  match rest.dropWhile Lexeme.isSpace with
  | .sign ':' :: _ =>
      let gap := rest.takeWhile Lexeme.isSpace
      gap.all (· == .sign ' ') && !body.any isSeparator &&
        body.length + 2 + gap.length ≤ Yaml.Scanner.longestKey
  | _ => true

/-- Whether the names of members have their colons near. -/
def keepsColons : List Lexeme → Bool
  | [] => true
  | .quoted body :: rest => isNearColon body rest && keepsColons rest
  | _ :: rest => keepsColons rest

/-- Whether a JSON text is written in the way that JSON and YAML have in common. -/
def isCommon (text : List Char) : Bool :=
  text.all isCommonChar && (lexemes text).all isCommonLexeme && keepsColons (lexemes text)

/-! ## Parts of common texts -/

theorem isCommon_iff : isCommon text = true ↔ (∀ c ∈ text, isCommonChar c = true) ∧
    (∀ lexeme ∈ lexemes text, isCommonLexeme lexeme = true) ∧
      keepsColons (lexemes text) = true := by
  rw [isCommon, Bool.and_eq_true, Bool.and_eq_true, List.all_eq_true, List.all_eq_true, and_assoc]

theorem keepsColons_append {front back : List Lexeme} (keeps : keepsColons (front ++ back) = true) :
    keepsColons back = true := by
  induction front with
  | nil => exact keeps
  | cons lexeme front ih =>
      cases lexeme with
      | quoted body =>
          rw [List.cons_append, keepsColons, Bool.and_eq_true] at keeps
          exact ih keeps.2
      | _ => exact ih keeps

/-- What follows some lexemes of a common text is common, and so are the lexemes. -/
theorem isCommon_append {front : List Char} {parts : List Lexeme}
    (divided : lexemes (front ++ rest) = parts ++ lexemes rest)
    (common : isCommon (front ++ rest) = true) :
    (∀ c ∈ front, isCommonChar c = true) ∧ (∀ part ∈ parts, isCommonLexeme part = true) ∧
      isCommon rest = true := by
  obtain ⟨chars, all, keeps⟩ := isCommon_iff.mp common
  rw [divided] at all keeps
  rw [List.forall_mem_append] at chars all
  exact ⟨chars.1, all.1, isCommon_iff.mpr ⟨chars.2, all.2, keepsColons_append keeps⟩⟩

theorem isCommon_sign {c : Char} (sign : isSign c = true) (common : isCommon (c :: rest) = true) :
    isCommon rest = true := by
  have divided : lexemes ([c] ++ rest) = [.sign c] ++ lexemes rest := lexemes_sign sign
  exact (isCommon_append divided common).2.2

/-- White space of a common text has no tabs. -/
theorem isCommon_spaces {gap : List Char} (spaces : ∀ c ∈ gap, isSpace c = true)
    (common : isCommon (gap ++ rest) = true) :
    (∀ c ∈ gap, isBlank c = true) ∧ isCommon rest = true := by
  obtain ⟨chars, _, later⟩ := isCommon_append (lexemes_spaces spaces) common
  refine ⟨fun c member => ?_, later⟩
  have space := spaces c member
  have char := chars c member
  simp only [isSpace, Bool.or_eq_true, beq_iff_eq] at space
  rcases space with ((rfl | rfl) | rfl) | rfl
  · rfl
  · cases char
  · rfl
  · rfl

theorem isCommon_skip (common : isCommon text = true) : isCommon (skip text) = true := by
  have together : text.takeWhile isSpace ++ skip text = text := List.takeWhile_append_dropWhile
  rw [← together] at common
  exact (isCommon_spaces (List.all_eq_true.mp List.all_takeWhile) common).2

theorem codesOf_eq {body : List Char} {codes : List Nat} (spells : Spells body codes) :
    codesOf body = codes := by
  rw [codesOf, stringCodes_of_spells spells]

/-- What stands between the quotes of a string that JSON and YAML have in common but perhaps for its
surrogates, and the codes that it spells. -/
structure CommonBody (body : List Char) (codes : List Nat) : Prop where
  /-- It is the body of a string. -/
  spells : Spells body codes
  /-- Its characters are common. -/
  chars : ∀ c ∈ body, isCommonChar c = true
  /-- Its lines are kept. -/
  lines : keepsLines body = true

theorem keepsLines_append {front back : List Char} (keeps : keepsLines (front ++ back) = true) :
    keepsLines back = true := by
  induction front with
  | nil => exact keeps
  | cons c front ih =>
      rw [List.cons_append, keepsLines, Bool.and_eq_true] at keeps
      exact ih keeps.2

/-- What follows some characters is common if all is. -/
theorem CommonBody.behind (front : List Char) {back : List Char} {codes others : List Nat}
    (common : CommonBody (front ++ back) codes) (spells : Spells back others) :
    CommonBody back others :=
  ⟨spells, fun c member => common.chars c (List.mem_append_right front member),
    keepsLines_append common.lines⟩

theorem isCommon_quoted {body : List Char} {codes : List Nat} (spells : Spells body codes)
    (common : isCommon ('"' :: (body ++ '"' :: rest)) = true) :
    CommonBody body codes ∧ hasPair codes = false ∧ isCommon rest = true := by
  have whole : '"' :: (body ++ '"' :: rest) = '"' :: (body ++ ['"']) ++ rest := by simp
  rw [whole] at common
  have divided : lexemes ('"' :: (body ++ ['"']) ++ rest) = [.quoted body] ++ lexemes rest := by
    rw [← whole, lexemes_quoted spells, List.singleton_append]
  obtain ⟨chars, parts, later⟩ := isCommon_append divided common
  have single : isCommonLexeme (.quoted body) = true := parts _ List.mem_cons_self
  rw [isCommonLexeme, codesOf_eq spells, Bool.and_eq_true, Bool.not_eq_true'] at single
  refine ⟨⟨spells, fun c member => chars c ?_, single.2⟩, single.1, later⟩
  exact List.mem_cons_of_mem _ (List.mem_append_left _ member)

theorem isCommon_word {letters : List Char} {value : Value} (word : Word letters value)
    (ends : Ends rest) (common : isCommon (letters ++ rest) = true) :
    isCommonWord letters = true ∧ isCommon rest = true := by
  have divided : lexemes (letters ++ rest) = [.word letters] ++ lexemes rest := by
    rw [lexemes_word word.ne_nil word.all_letters ends, List.singleton_append]
  obtain ⟨_, parts, later⟩ := isCommon_append divided common
  exact ⟨parts _ List.mem_cons_self, later⟩

/-- The colon behind a name of a common text is near. -/
theorem isCommon_name {body gap : List Char} {codes : List Nat} (spells : Spells body codes)
    (spaces : ∀ c ∈ gap, isSpace c = true)
    (common : isCommon ('"' :: (body ++ '"' :: (gap ++ ':' :: rest))) = true) :
    (∀ c ∈ gap, c = ' ') ∧ (∀ c ∈ body, isSeparator c = false) ∧
      body.length + 2 + gap.length ≤ Yaml.Scanner.longestKey := by
  have keeps := (isCommon_iff.mp common).2.2
  have colon : isSign ':' = true := rfl
  rw [lexemes_quoted spells, lexemes_spaces spaces, lexemes_sign colon, keepsColons,
    Bool.and_eq_true] at keeps
  have white : ∀ lexeme ∈ gap.map Lexeme.sign, lexeme.isSpace = true := by
    simpa [Lexeme.isSpace] using spaces
  have mark : (Lexeme.sign ':').isSpace = false := rfl
  rw [isNearColon, List.dropWhile_append_of_pos white, List.takeWhile_append_of_pos white,
    List.dropWhile_cons_of_neg (by simp [mark]), List.takeWhile_cons_of_neg (by simp [mark]),
    List.append_nil] at keeps
  simpa [and_assoc] using keeps.1

/-! ## Common words -/

/-- The end of a number as both formats write it, and the exponent that it denotes. -/
inductive IsSignedPower : List Char → Int → Prop where
  /-- Nothing. -/
  | none : IsSignedPower [] 0
  /-- A mark with a sign and digits. -/
  | signed {e c : Char} {more : List Char} (negative : Bool) (mark : e = 'e' ∨ e = 'E')
      (all : ∀ d ∈ c :: more, Text.isDigit d = true) :
      IsSignedPower (e :: (if negative then '-' else '+') :: c :: more)
        (if negative then -digitsValue (c :: more) else digitsValue (c :: more))

/-- A word that both formats have, and its value. -/
inductive CommonWord : List Char → Value → Prop where
  /-- A constant. -/
  | constant {name : String} {value : Value}
      (known : (name, value) ∈ [("null", .null), ("true", .bool true), ("false", .bool false)]) :
      CommonWord name.toList value
  /-- An integer. -/
  | integer (negative : Bool) {digits : List Char} (whole : IsWhole digits)
      (short : digits.length ≤ digitLimit) :
      CommonWord (minus negative ++ digits)
        (.int (if negative then -digitsValue digits else digitsValue digits))
  /-- A number with a point, and with a signed exponent or none. -/
  | decimal (negative : Bool) {digits fraction tail : List Char} {power : Int}
      (whole : IsWhole digits) (all : ∀ d ∈ fraction, Text.isDigit d = true) (shown : fraction ≠ [])
      (raised : IsSignedPower tail power) :
      CommonWord (minus negative ++ (digits ++ ('.' :: fraction ++ tail)))
        (.float (.ofDecimal negative (digitsValue (digits ++ fraction)) (power - fraction.length)))

/-- A common word with a digit is judged by its exponent. -/
theorem isCommonWord_of_digit {front tail : List Char} {d : Char} (digit : Text.isDigit d = true)
    (member : d ∈ front) (before : ∀ c ∈ front, isBeforePower c = true)
    (common : isCommonWord (front ++ tail) = true) :
    tail.dropWhile isBeforePower = [] ∨ ∃ e sign more,
      tail.dropWhile isBeforePower = e :: sign :: more ∧ '.' ∈ front ++ tail ∧
        (sign = '-' ∨ sign = '+') := by
  have unnamed : ["null", "true", "false"].contains (String.ofList (front ++ tail)) = false := by
    have each : ∀ name ∈ ["null", "true", "false"], name.toList.any Text.isDigit = false := by
      decide +kernel
    rw [← Bool.not_eq_true, List.contains_iff_mem]
    intro named
    exact List.any_eq_false.mp (each _ named) d (by simpa using Or.inl member) digit
  rw [isCommonWord, unnamed, Bool.false_or, List.dropWhile_append_of_pos before] at common
  split at common
  · next ended => exact Or.inl ended
  · next e sign more shown =>
      rw [Bool.and_eq_true, List.contains_iff_mem, Bool.or_eq_true, beq_iff_eq,
        beq_iff_eq] at common
      exact Or.inr ⟨e, sign, more, shown, common⟩
  · cases common

theorem isBeforePower_of_isDigit {c : Char} (digit : Text.isDigit c = true) :
    isBeforePower c = true := by
  rw [isBeforePower, digit]
  rfl

theorem commonWord_of_word {letters : List Char} {value : Value} (word : Word letters value)
    (common : isCommonWord letters = true) : CommonWord letters value := by
  cases word with
  | constant known =>
      have each : ∀ pair ∈ constants, isCommonWord pair.1.toList = true →
          pair ∈ [("null", .null), ("true", .bool true), ("false", .bool false)] := by
        decide +kernel
      exact .constant (each _ known common)
  | integer negative whole short => exact .integer negative whole short
  | @float negative digits point fraction tail power whole broken raised more =>
      obtain ⟨d, member⟩ := List.exists_mem_of_ne_nil _ whole.ne_nil
      have digit := whole.all_digits d member
      have before : ∀ c ∈ minus negative ++ (digits ++ point), isBeforePower c = true := by
        simp only [List.forall_mem_append]
        refine ⟨?_, fun c member => isBeforePower_of_isDigit (whole.all_digits c member), ?_⟩
        · exact Text.forall_mem_of_all (by cases negative <;> rfl)
        · cases broken with
          | none => exact List.forall_mem_nil _
          | digits all =>
              exact List.forall_mem_cons.mpr
                ⟨rfl, fun c member => isBeforePower_of_isDigit (all c member)⟩
      have regrouped : minus negative ++ (digits ++ (point ++ tail)) =
          minus negative ++ (digits ++ point) ++ tail := by simp
      rw [regrouped] at common
      have judged := isCommonWord_of_digit digit (by simp [member]) before common
      have after : ∀ {e : Char} (more : List Char), e = 'e' ∨ e = 'E' →
          (e :: more).dropWhile isBeforePower = e :: more := by
        rintro e more (rfl | rfl) <;> rfl
      cases raised with
      | none =>
          cases broken with
          | none => simp at more
          | digits all =>
              exact .decimal negative whole all (List.cons_ne_nil _ _) .none
      | @unsigned e c others mark all =>
          rw [after _ mark] at judged
          rcases judged with ended | ⟨_, sign, _, same, _, signed⟩
          · cases ended
          · cases same
            have shown := all c List.mem_cons_self
            rcases signed with rfl | rfl <;> cases shown
      | @signed e c others minused mark all =>
          rw [after _ mark] at judged
          cases broken with
          | digits behind =>
              exact .decimal negative whole behind (List.cons_ne_nil _ _) (.signed minused mark all)
          | none =>
              rcases judged with ended | ⟨_, _, _, _, point, _⟩
              · cases ended
              · -- No character of the word is a point.
                have none : ∀ c : Char, Text.isDigit c = true → '.' ≠ c := by
                  rintro c digit rfl
                  cases digit
                simp only [List.mem_append, List.append_nil, List.mem_cons] at point
                rcases point with (sign | whole') | rfl | sign | digit
                · cases negative <;> simp [minus] at sign
                · exact absurd rfl (none _ (whole.all_digits _ whole'))
                · rcases mark with mark | mark <;> cases mark
                · cases minused <;> cases sign
                · exact absurd rfl (none _ (all _ (List.mem_cons.mpr digit)))

end ClientGen.Json
