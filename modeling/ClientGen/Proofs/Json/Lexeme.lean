import ClientGen.Json.Reader
import ClientGen.Proofs.Json.Quoting
import ClientGen.Proofs.Result
import ClientGen.Proofs.Text

/-!
# The lexemes of a JSON text

A JSON text consists of signs, of words, which are numbers and constants, and of strings. What the
reader takes for a string or for a word is one lexeme of the text, as long as a word is not directly
followed by another one.
-/

namespace ClientGen.Json

variable {text rest : List Char}

/-! ## Lexemes -/

/-- A part of a JSON text. -/
inductive Lexeme where
  /-- White space, a bracket, a brace, a comma or a colon. -/
  | sign (c : Char)
  /-- A number or a constant. -/
  | word (letters : List Char)
  /-- What stands between the quotes of a string. -/
  | quoted (body : List Char)
  deriving DecidableEq

/-- The characters that are lexemes by themselves. -/
def signs : List Char := [' ', '\t', '\n', '\r', ',', ':', '[', ']', '{', '}']

/-- A character that is a lexeme by itself. -/
def isSign (c : Char) : Bool := signs.contains c

/-- A character of a word. -/
def isLetter (c : Char) : Bool := !(isSign c || c == '"')

/-- Put a character in front of the word that the lexemes begin with. -/
def intoWord (c : Char) : List Lexeme → List Lexeme
  | .word letters :: rest => .word (c :: letters) :: rest
  | rest => .word [c] :: rest

/-- Put a character in front of the string that the lexemes begin with. -/
def intoQuoted (c : Char) : List Lexeme → List Lexeme
  | .quoted body :: rest => .quoted (c :: body) :: rest
  | rest => rest

/-- The lexemes of a text that begins inside of a string or outside. -/
def lexemesFrom : (inside : Bool) → List Char → List Lexeme
  | _, [] => []
  | false, '"' :: rest => lexemesFrom true rest
  | false, c :: rest =>
      if isSign c then .sign c :: lexemesFrom false rest else intoWord c (lexemesFrom false rest)
  | true, '"' :: rest => .quoted [] :: lexemesFrom false rest
  | true, '\\' :: c :: rest => intoQuoted '\\' (intoQuoted c (lexemesFrom true rest))
  | true, c :: rest => intoQuoted c (lexemesFrom true rest)

/-- The lexemes of a text. -/
def lexemes (text : List Char) : List Lexeme := lexemesFrom false text

theorem lexemes_sign {c : Char} (sign : isSign c = true) :
    lexemes (c :: rest) = .sign c :: lexemes rest := by
  have unquoted : c ≠ '"' := by
    rintro rfl
    exact absurd sign (by decide)
  rw [lexemes, lexemesFrom, if_pos sign, lexemes]
  exact unquoted

theorem lexemes_spaces {gap : List Char} (spaces : ∀ c ∈ gap, isSpace c = true) :
    lexemes (gap ++ rest) = gap.map .sign ++ lexemes rest := by
  induction gap with
  | nil => rfl
  | cons c gap ih =>
      rw [List.forall_mem_cons] at spaces
      have sign : isSign c = true := by
        have space := spaces.1
        simp only [isSpace, Bool.or_eq_true, beq_iff_eq] at space
        rcases space with ((rfl | rfl) | rfl) | rfl <;> rfl
      rw [List.cons_append, lexemes_sign sign, ih spaces.2]
      rfl

/-! ## Strings -/

/-- What stands between the quotes of a string, and the codes that it spells. -/
inductive Spells : List Char → List Nat → Prop where
  /-- Nothing. -/
  | nil : Spells [] []
  /-- A code unit by its digits. -/
  | unit {a b c d : Char} {code : Nat} {body : List Char} {codes : List Nat}
      (known : unit? a b c d = some code) (others : Spells body codes) :
      Spells ('\\' :: 'u' :: a :: b :: c :: d :: body) (code :: codes)
  /-- A one-letter escape. -/
  | letter {c d : Char} {body : List Char} {codes : List Nat} (known : shortEscape? c = some d)
      (others : Spells body codes) : Spells ('\\' :: c :: body) (d.toNat :: codes)
  /-- A character for itself. -/
  | plain {c : Char} {body : List Char} {codes : List Nat} (unquoted : c ≠ '"')
      (unescaped : c ≠ '\\') (printed : 0x20 ≤ c.toNat) (others : Spells body codes) :
      Spells (c :: body) (c.toNat :: codes)

/-- What the reader takes for the codes of a string is spelled up to the closing quote. -/
theorem spells_of_stringCodes {whole : List Char} {codes : List Nat}
    (read : stringCodes whole text = .ok (codes, rest)) :
    ∃ body, text = body ++ '"' :: rest ∧ Spells body codes := by
  -- The text goes on in three cases: a code unit, a one-letter escape, a plain character.
  fun_induction stringCodes whole text generalizing codes with
  | case2 =>
      cases read
      exact ⟨[], rfl, .nil⟩
  | case5 a b c d more code known _ ih =>
      obtain ⟨⟨others, _⟩, found, ⟨⟩⟩ := map_eq_ok.mp read
      obtain ⟨body, rfl, spells⟩ := ih found
      exact ⟨_, rfl, .unit known spells⟩
  | case8 c more _ _ d known ih =>
      obtain ⟨⟨others, _⟩, found, ⟨⟩⟩ := map_eq_ok.mp read
      obtain ⟨body, rfl, spells⟩ := ih found
      exact ⟨_, rfl, .letter known spells⟩
  | case11 c more unquoted _ _ _ unescaped printed ih =>
      obtain ⟨⟨others, _⟩, found, ⟨⟩⟩ := map_eq_ok.mp read
      obtain ⟨body, rfl, spells⟩ := ih found
      refine ⟨c :: body, rfl, .plain unquoted (fun escape => ?_) (Nat.le_of_not_lt printed) spells⟩
      cases body <;> exact unescaped _ _ escape rfl
  | _ => cases read

/-- A string is read wherever its body stands in front of a quote. -/
theorem stringCodes_of_spells {body whole : List Char} {codes : List Nat}
    (spells : Spells body codes) : stringCodes whole (body ++ '"' :: rest) = .ok (codes, rest) := by
  induction spells with
  | nil => rw [List.nil_append, stringCodes]
  | @unit a b c d code body codes known _ ih =>
      have more : (body ++ '"' :: rest).isEmpty = false :=
        List.isEmpty_eq_false_iff.mpr (by simp)
      simp only [List.cons_append, stringCodes, known, more, ih, Except.map, Bool.false_eq_true,
        if_false]
  | @letter c d body codes known _ ih =>
      have short : c ≠ 'u' := by
        rintro rfl
        cases known
      have more : body ++ '"' :: rest ≠ [] := by simp
      rw [List.cons_append, List.cons_append, stringCodes]
      · simp only [known, ih, Except.map]
      all_goals simp_all
  | plain unquoted unescaped printed _ ih =>
      rw [List.cons_append, stringCodes_plain printed unquoted unescaped, ih, Except.map]

theorem isHexDigit_of_unit? {a b c d : Char} {code : Nat} (known : unit? a b c d = some code) :
    ∀ digit ∈ [a, b, c, d], Text.isHexDigit digit = true := by
  rw [unit?] at known
  split at known
  · next digits => exact List.all_eq_true.mp digits
  · cases known

theorem lexemesFrom_plain {c : Char} (unquoted : c ≠ '"') (unescaped : c ≠ '\\') :
    lexemesFrom true (c :: rest) = intoQuoted c (lexemesFrom true rest) := by
  rw [lexemesFrom] <;> simp_all

/-- A string is one lexeme. -/
theorem lexemes_quoted {body : List Char} {codes : List Nat} (spells : Spells body codes) :
    lexemes ('"' :: (body ++ '"' :: rest)) = .quoted body :: lexemes rest := by
  rw [lexemes, lexemesFrom]
  induction spells with
  | nil => rw [List.nil_append, lexemesFrom, lexemes]
  | unit known _ ih =>
      have plain : ∀ {c : Char} {rest : List Char}, Text.isHexDigit c = true →
          lexemesFrom true (c :: rest) = intoQuoted c (lexemesFrom true rest) := fun digit =>
        lexemesFrom_plain (by rintro rfl; exact absurd digit (by decide))
          (by rintro rfl; exact absurd digit (by decide))
      have digits := isHexDigit_of_unit? known
      simp only [List.forall_mem_cons] at digits
      obtain ⟨first, second, third, fourth, _⟩ := digits
      simp only [List.cons_append, lexemesFrom, plain first, plain second, plain third,
        plain fourth, ih, intoQuoted]
  | letter known _ ih => simp only [List.cons_append, lexemesFrom, ih, intoQuoted]
  | plain unquoted unescaped _ _ ih =>
      rw [List.cons_append, lexemesFrom_plain unquoted unescaped, ih, intoQuoted]

/-! ## Words -/

/-- A text that does not go on with a letter or a quote. -/
def Ends (text : List Char) : Prop := ∀ c ∈ text.head?, isSign c = true

/-- A word is one lexeme. -/
theorem lexemes_word {letters : List Char} (shown : letters ≠ [])
    (all : ∀ c ∈ letters, isLetter c = true) (ends : Ends rest) :
    lexemes (letters ++ rest) = .word letters :: lexemes rest := by
  have step : ∀ {c : Char} (more : List Char), isLetter c = true →
      lexemes (c :: more) = intoWord c (lexemes more) := fun {c} more letter => by
    simp only [isLetter, Bool.not_eq_true', Bool.or_eq_false_iff, beq_eq_false_iff_ne] at letter
    rw [lexemes, lexemesFrom, if_neg (by simp [letter.1]), lexemes]
    exact letter.2
  induction letters with
  | nil => exact absurd rfl shown
  | cons c letters ih =>
      rw [List.forall_mem_cons] at all
      rw [List.cons_append, step _ all.1]
      cases letters with
      | nil =>
          cases rest with
          | nil => rfl
          | cons d rest => rw [List.nil_append, lexemes_sign (ends d rfl), intoWord]; nofun
      | cons d letters => rw [ih (by simp) all.2, intoWord]

/-- The digits of an integer part: a zero alone, or digits of which the first is none. -/
inductive IsWhole : List Char → Prop where
  /-- A zero. -/
  | zero : IsWhole ['0']
  /-- Other digits. -/
  | digits {c : Char} {more : List Char} (first : c ≠ '0')
      (all : ∀ d ∈ c :: more, Text.isDigit d = true) : IsWhole (c :: more)

/-- What stands behind the integer part of a number, and the digits of it: a point with digits, or
nothing. -/
inductive IsFraction : List Char → List Char → Prop where
  /-- Nothing. -/
  | none : IsFraction [] []
  /-- A point with digits. -/
  | digits {c : Char} {more : List Char} (all : ∀ d ∈ c :: more, Text.isDigit d = true) :
      IsFraction ('.' :: c :: more) (c :: more)

/-- What stands at the end of a number, and the exponent that it denotes. -/
inductive IsPower : List Char → Int → Prop where
  /-- Nothing. -/
  | none : IsPower [] 0
  /-- A mark with digits. -/
  | unsigned {e c : Char} {more : List Char} (mark : e = 'e' ∨ e = 'E')
      (all : ∀ d ∈ c :: more, Text.isDigit d = true) :
      IsPower (e :: c :: more) (digitsValue (c :: more))
  /-- A mark with a sign and digits. -/
  | signed {e c : Char} {more : List Char} (negative : Bool) (mark : e = 'e' ∨ e = 'E')
      (all : ∀ d ∈ c :: more, Text.isDigit d = true) :
      IsPower (e :: (if negative then '-' else '+') :: c :: more)
        (if negative then -digitsValue (c :: more) else digitsValue (c :: more))

/-- The sign in front of a number. -/
def minus (negative : Bool) : List Char := if negative then ['-'] else []

/-- A word and the value that it denotes. -/
inductive Word : List Char → Value → Prop where
  /-- A constant. -/
  | constant {name : String} {value : Value} (known : (name, value) ∈ constants) :
      Word name.toList value
  /-- An integer. -/
  | integer (negative : Bool) {digits : List Char} (whole : IsWhole digits)
      (short : digits.length ≤ digitLimit) :
      Word (minus negative ++ digits)
        (.int (if negative then -digitsValue digits else digitsValue digits))
  /-- A number with a fraction or an exponent. -/
  | float (negative : Bool) {digits point fraction tail : List Char} {power : Int}
      (whole : IsWhole digits) (broken : IsFraction point fraction) (raised : IsPower tail power)
      (more : point ≠ [] ∨ tail ≠ []) :
      Word (minus negative ++ (digits ++ (point ++ tail)))
        (.float (.ofDecimal negative (digitsValue (digits ++ fraction)) (power - fraction.length)))

theorem isWhole_of_integerDigits {whole : List Char}
    (found : integerDigits text = some (whole, rest)) : text = whole ++ rest ∧ IsWhole whole := by
  rw [integerDigits.eq_def] at found
  split at found
  · cases found
    exact ⟨rfl, .zero⟩
  · next c rest first =>
      split at found
      · next digit =>
          cases found
          refine ⟨by simp, .digits first ?_⟩
          exact List.forall_mem_cons.mpr ⟨digit, List.all_eq_true.mp List.all_takeWhile⟩
      · cases found
  · cases found

theorem isFraction_of_fractionDigits {fraction : List Char}
    (found : fractionDigits text = some (fraction, rest)) :
    ∃ point, text = point ++ rest ∧ IsFraction point fraction ∧ point ≠ [] := by
  rw [fractionDigits.eq_def] at found
  split at found
  · next c rest =>
      split at found
      · next digit =>
          cases found
          refine ⟨_, ?_, .digits ?_, List.cons_ne_nil _ _⟩
          · simp
          · exact List.forall_mem_cons.mpr ⟨digit, List.all_eq_true.mp List.all_takeWhile⟩
      · cases found
  · cases found

theorem isPower_of_exponent {power : Int} (found : exponent text = some (power, rest)) :
    ∃ tail, text = tail ++ rest ∧ IsPower tail power ∧ tail ≠ [] := by
  rw [exponent.eq_def] at found
  split at found
  · cases found
  · next e more =>
      split at found
      · next mark =>
          split at found
          next negative digits signed =>
            dsimp only at found
            split at found
            · cases found
            · next shown =>
                cases found
                have all : ∀ d ∈ digits.takeWhile Text.isDigit, Text.isDigit d = true :=
                  List.all_eq_true.mp List.all_takeWhile
                cases run : digits.takeWhile Text.isDigit with
                | nil => exact absurd (by rw [run]; rfl) shown
                | cons c others =>
                    rw [run] at all
                    have together : digits = c :: others ++ digits.dropWhile Text.isDigit := by
                      rw [← run, List.takeWhile_append_dropWhile]
                    split at signed
                    · cases signed
                      refine ⟨_, ?_, .signed true mark all, List.cons_ne_nil _ _⟩
                      rw [if_pos rfl, List.cons_append, List.cons_append, ← together]
                    · cases signed
                      refine ⟨_, ?_, .signed false mark all, List.cons_ne_nil _ _⟩
                      rw [if_neg Bool.false_ne_true, List.cons_append, List.cons_append, ← together]
                    · cases signed
                      refine ⟨_, ?_, .unsigned mark all, List.cons_ne_nil _ _⟩
                      rw [List.cons_append, ← together]
      · cases found

theorem word_of_unsigned {negative : Bool} {value : Value}
    (found : unsigned negative text = some (.ok (value, rest))) :
    ∃ letters, text = letters ++ rest ∧ Word (minus negative ++ letters) value := by
  obtain ⟨⟨whole, behind⟩, digits, same⟩ := Option.map_eq_some_iff.mp found
  obtain ⟨rfl, isWhole⟩ := isWhole_of_integerDigits digits
  dsimp only at same
  split at same
  · next fraction behind fractional =>
      obtain ⟨point, rfl, isFraction, broken⟩ := isFraction_of_fractionDigits fractional
      split at same
      · next power rest raised =>
          obtain ⟨tail, rfl, isPower, _⟩ := isPower_of_exponent raised
          cases same
          exact ⟨whole ++ (point ++ tail), by simp,
            .float negative isWhole isFraction isPower (Or.inl broken)⟩
      · cases same
        have float := Word.float negative isWhole isFraction .none (Or.inl broken)
        rw [Int.zero_sub, List.append_nil] at float
        exact ⟨whole ++ point, by simp, float⟩
  · split at same
    · next power rest raised =>
        obtain ⟨tail, rfl, isPower, exponent⟩ := isPower_of_exponent raised
        cases same
        have float := Word.float negative isWhole .none isPower (Or.inr exponent)
        rw [List.append_nil, List.nil_append] at float
        exact ⟨whole ++ tail, by simp, by simpa using float⟩
    · split at same
      · cases same
      · next short =>
          cases same
          exact ⟨whole, rfl, .integer negative isWhole (Nat.le_of_not_lt short)⟩

/-- What the reader takes for a number or a constant is a word. -/
theorem word_of_plain {value : Value} (read : plain text = .ok (value, rest)) :
    ∃ letters, text = letters ++ rest ∧ Word letters value := by
  unfold plain at read
  split at read
  · next found known =>
      cases read
      obtain ⟨⟨name, value⟩, member, matched⟩ := List.exists_of_findSome?_eq_some known
      obtain ⟨behind, dropped, same⟩ := Option.map_eq_some_iff.mp matched
      cases same
      exact ⟨name.toList, Text.eq_append_of_dropLeading? dropped, .constant member⟩
  · dsimp only at read
    split at read
    · next rest _ =>
        cases found : unsigned true rest with
        | none =>
            rw [found] at read
            cases read
        | some result =>
            rw [found, Option.getD_some] at read
            subst read
            obtain ⟨letters, rfl, word⟩ := word_of_unsigned found
            exact ⟨'-' :: letters, rfl, word⟩
    · cases found : unsigned false text with
      | none =>
          rw [found] at read
          cases read
      | some result =>
          rw [found, Option.getD_some] at read
          subst read
          exact word_of_unsigned found

theorem isLetter_of_isDigit {c : Char} (digit : Text.isDigit c = true) : isLetter c = true := by
  have none : ∀ d ∈ '"' :: signs, Text.isDigit d = false := Text.forall_mem_of_all (by decide)
  by_contra other
  have member : c ∈ '"' :: signs := by
    rw [isLetter, Bool.not_eq_true, Bool.not_eq_false', Bool.or_eq_true, beq_iff_eq, isSign,
      List.contains_iff_mem] at other
    exact List.mem_cons.mpr other.symm
  rw [none c member] at digit
  cases digit

theorem IsWhole.all_digits {digits : List Char} (whole : IsWhole digits) :
    ∀ c ∈ digits, Text.isDigit c = true := by
  cases whole with
  | zero => exact Text.forall_mem_of_all rfl
  | digits _ all => exact all

theorem IsWhole.ne_nil {digits : List Char} (whole : IsWhole digits) : digits ≠ [] := by
  cases whole <;> exact List.cons_ne_nil _ _

theorem isLetter_of_mem_minus {negative : Bool} : ∀ c ∈ minus negative, isLetter c = true :=
  Text.forall_mem_of_all (by cases negative <;> rfl)

theorem IsFraction.all_letters {point fraction : List Char} (broken : IsFraction point fraction) :
    ∀ c ∈ point, isLetter c = true := by
  cases broken with
  | none => exact List.forall_mem_nil _
  | digits all =>
      exact List.forall_mem_cons.mpr ⟨rfl, fun c member => isLetter_of_isDigit (all c member)⟩

theorem IsPower.all_letters {tail : List Char} {power : Int} (raised : IsPower tail power) :
    ∀ c ∈ tail, isLetter c = true := by
  have marked : ∀ {e : Char}, e = 'e' ∨ e = 'E' → isLetter e = true := by
    rintro e (rfl | rfl) <;> rfl
  cases raised with
  | none => exact List.forall_mem_nil _
  | unsigned mark all =>
      exact List.forall_mem_cons.mpr
        ⟨marked mark, fun c member => isLetter_of_isDigit (all c member)⟩
  | signed negative mark all =>
      refine List.forall_mem_cons.mpr ⟨marked mark, List.forall_mem_cons.mpr ⟨?_, ?_⟩⟩
      · cases negative <;> rfl
      · exact fun c member => isLetter_of_isDigit (all c member)

/-- A word consists of letters. -/
theorem Word.all_letters {letters : List Char} {value : Value} (word : Word letters value) :
    ∀ c ∈ letters, isLetter c = true := by
  cases word with
  | constant known =>
      have each : ∀ pair ∈ constants, pair.1.toList.all isLetter = true := by decide +kernel
      exact List.all_eq_true.mp (each _ known)
  | integer _ whole _ =>
      simp only [List.forall_mem_append]
      exact ⟨isLetter_of_mem_minus, fun c member => isLetter_of_isDigit (whole.all_digits c member)⟩
  | float _ whole broken raised _ =>
      simp only [List.forall_mem_append]
      exact ⟨isLetter_of_mem_minus, fun c member => isLetter_of_isDigit (whole.all_digits c member),
        broken.all_letters, raised.all_letters⟩

theorem Word.ne_nil {letters : List Char} {value : Value} (word : Word letters value) :
    letters ≠ [] := by
  cases word with
  | constant known =>
      have each : ∀ pair ∈ constants, pair.1.toList ≠ [] := by decide +kernel
      exact each _ known
  | integer _ whole _ => simp [whole.ne_nil]
  | float _ whole _ _ _ => simp [whole.ne_nil]

end ClientGen.Json
