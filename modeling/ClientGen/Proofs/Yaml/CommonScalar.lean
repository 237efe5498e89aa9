import ClientGen.Proofs.Result
import ClientGen.Proofs.Text
import ClientGen.Proofs.Yaml.FlowScanning
import ClientGen.Yaml.Document

/-!
# Common words

A word that JSON and YAML have in common is a plain scalar with the value that JSON gives to it.
-/

namespace ClientGen

/-! ## Decimal digits -/

namespace Text

/-- The decimal digits. -/
def digitChars : List Char := ['0', '1', '2', '3', '4', '5', '6', '7', '8', '9']

theorem mem_digitChars {c : Char} (digit : isDigit c = true) : c ∈ digitChars := by
  simp only [isDigit, Bool.and_eq_true, decide_eq_true_eq, Char.le_def, UInt32.le_iff_toNat_le,
    Char.reduceVal, UInt32.reduceToNat] at digit
  have codes : ∀ n < 58, 48 ≤ n → Char.ofNat n ∈ digitChars := by decide
  have member := codes c.toNat (by rw [Char.toNat]; omega) (by rw [Char.toNat]; omega)
  rwa [Char.ofNat_toNat] at member

/-- A digit has its own value. -/
theorem digitValue_eq {c : Char} (digit : isDigit c = true) :
    digitValue c = some (c.toNat - 0x30) ∧ c.toNat - 0x30 < 10 := by
  have each : ∀ c ∈ digitChars, digitValue c = some (c.toNat - 0x30) ∧ c.toNat - 0x30 < 10 :=
    forall_mem_of_all (by decide +kernel)
  exact each c (mem_digitChars digit)

theorem toLower_digit {c : Char} (digit : isDigit c = true) : c.toLower = c := by
  have each : ∀ c ∈ digitChars, c.toLower = c := forall_mem_of_all (by decide +kernel)
  exact each c (mem_digitChars digit)

/-- Digits have no case. -/
theorem map_toLower_digits {digits : List Char} (all : ∀ c ∈ digits, isDigit c = true) :
    digits.map Char.toLower = digits :=
  (List.map_congr_left fun c member => toLower_digit (all c member)).trans (List.map_id _)

end Text

namespace Numeral

open Text

variable {digits : List Char}

theorem separatesDigits_eq {isDigit : Char → Bool} (some : digits ≠ [])
    (all : ∀ c ∈ digits, isDigit c = true) (unjoined : isDigit '_' = false) :
    separatesDigits isDigit digits = true := by
  fun_induction separatesDigits isDigit digits with
  | case1 => exact absurd rfl some
  | case2 c => exact all c List.mem_cons_self
  | case3 c rest _ =>
      rw [all '_' (by simp)] at unjoined
      cases unjoined
  | case4 c rest more _ ih =>
      rw [List.forall_mem_cons] at all
      rw [all.1, Bool.true_and]
      exact ih (fun none => more none) all.2

theorem digits?_eq {isDigit : Char → Bool} (some : digits ≠ [])
    (all : ∀ c ∈ digits, isDigit c = true) (unjoined : isDigit '_' = false) :
    digits? isDigit digits = .some digits := by
  have kept : digits.filter (· ≠ '_') = digits := by
    rw [List.filter_eq_self]
    intro c member
    rw [decide_eq_true_eq]
    rintro rfl
    rw [all _ member] at unjoined
    cases unjoined
  rw [digits?, separatesDigits_eq some all unjoined, if_pos rfl, kept]

theorem ofDigits_eq (all : ∀ c ∈ digits, isDigit c = true) :
    ofDigits 10 digits = Json.digitsValue digits := by
  have each : ∀ before, digits.foldl (fun n digit => n * 10 + (digitValue digit).getD 0) before =
      digits.foldl (fun n digit => n * 10 + (digit.toNat - 0x30)) before := by
    induction digits with
    | nil => exact fun _ => rfl
    | cons c digits ih =>
        rw [List.forall_mem_cons] at all
        intro before
        rw [List.foldl_cons, List.foldl_cons, (digitValue_eq all.1).1, ih all.2]
        rfl
  exact each 0

/-! ## Numerals without white space -/

/-- The characters of numerals, in lower case. -/
def numeralChars : List Char := digitChars ++ ['.', 'e', '+', '-']

theorem mem_numeralChars {c : Char} (digit : isDigit c = true) : c ∈ numeralChars :=
  List.mem_append_left _ (mem_digitChars digit)

theorem trim_eq {text : List Char} (dense : ∀ c ∈ text, isBlank c = false) : trim text = text := by
  have front : ∀ {text : List Char}, (∀ c ∈ text, isBlank c = false) →
      text.dropWhile isBlank = text := by
    intro text dense
    cases text with
    | nil => rfl
    | cons c rest => exact List.dropWhile_cons_of_neg (by simp [dense c List.mem_cons_self])
  rw [trim, trimWhile, front dense, trimEndWhile, front, List.reverse_reverse]
  exact fun c member => dense c (List.mem_reverse.mp member)

/-- Numerals are read as they stand. -/
theorem plainDigits_trim {text : List Char} (all : ∀ c ∈ text, c ∈ numeralChars) :
    plainDigits (trim text) = text := by
  have each : ∀ c ∈ numeralChars, isBlank c = false ∧
      ((decimalValue? c).map digitChar).getD c = c := forall_mem_of_all (by decide +kernel)
  rw [trim_eq fun c member => (each c (all c member)).1, plainDigits]
  exact (List.map_congr_left fun c member => (each c (all c member)).2).trans (List.map_id _)

theorem cutSign_digit {c : Char} {rest : List Char} (digit : isDigit c = true) :
    cutSign (c :: rest) = (false, c :: rest) := by
  rw [cutSign.eq_def]
  split
  · next shown => cases shown; cases digit
  · next shown => cases shown; cases digit
  · rfl

/-- Decimal digits denote their number. -/
theorem int?_eq (some : digits ≠ []) (all : ∀ c ∈ digits, isDigit c = true)
    (short : digits.length ≤ digitLimit) : int? 10 digits = .some (Json.digitsValue digits) := by
  have unsigned : cutSign (plainDigits (trim digits)) = (false, digits) := by
    rw [plainDigits_trim fun c member => mem_numeralChars (all c member)]
    cases digits with
    | nil => exact absurd rfl some
    | cons c digits => exact cutSign_digit (all c List.mem_cons_self)
  have unannounced : dropAnnouncement 10 digits = digits := by
    rw [dropAnnouncement.eq_def]
    split
    · exact if_neg Bool.false_ne_true
    · rfl
  have decimal : ∀ c ∈ digits, isDigitOf 10 c = true := fun c member => by
    obtain ⟨known, small⟩ := digitValue_eq (all c member)
    rw [isDigitOf, known, Option.any_some, decide_eq_true_eq]
    exact small
  have fits : (decide (digits.length > digitLimit) && !isBinary 10) = false := by
    rw [decide_eq_false (Nat.not_lt.mpr short), Bool.false_and]
  rw [int?, unsigned]
  simp only [unannounced, digits?_eq some decimal rfl, Option.bind_eq_bind, Option.bind_some, fits,
    Bool.false_eq_true, if_false, ofDigits_eq all]

theorem optionalDigits?_eq (all : ∀ c ∈ digits, isDigit c = true) :
    optionalDigits? digits = .some digits := by
  cases digits with
  | nil => rfl
  | cons c digits => exact digits?_eq (List.cons_ne_nil _ _) all rfl

/-! ## Numbers with a point -/

theorem isMark_digit {c : Char} (digit : isDigit c = true) : (c == 'e' || c == 'E') = false := by
  have each : ∀ c ∈ digitChars, (c == 'e' || c == 'E') = false := forall_mem_of_all (by decide)
  exact each c (mem_digitChars digit)

/-- The tail of a number denotes its exponent. -/
theorem exponent?_eq {tail : List Char} {power : Int} (raised : Json.IsSignedPower tail power) :
    exponent? tail = .some power := by
  cases raised with
  | none => rfl
  | @signed e c more negative mark all =>
      have cut :
          cutSign ((if negative then '-' else '+') :: c :: more) = (negative, c :: more) := by
        cases negative <;> rfl
      rw [exponent?, cut]
      simp only [digits?_eq (List.cons_ne_nil c more) all rfl, ofDigits_eq all,
        Option.bind_eq_bind, Option.bind_some]

/-- A mark divides a number from its exponent. -/
theorem divided_eq {front tail : List Char} {power : Int}
    (unmarked : ∀ c ∈ front, (c == 'e' || c == 'E') = false)
    (raised : Json.IsSignedPower tail power) :
    (front ++ tail).takeWhile (fun c => !(c == 'e' || c == 'E')) = front ∧
      (front ++ tail).dropWhile (fun c => !(c == 'e' || c == 'E')) = tail := by
  have passed : ∀ c ∈ front, (!(c == 'e' || c == 'E')) = true := fun c member => by
    rw [unmarked c member, Bool.not_false]
  rw [List.takeWhile_append_of_pos passed, List.dropWhile_append_of_pos passed]
  cases raised with
  | none => exact ⟨List.append_nil _, rfl⟩
  | signed negative mark all =>
      rcases mark with rfl | rfl
      · exact ⟨List.append_nil _, rfl⟩
      · exact ⟨List.append_nil _, rfl⟩

/-- A number with a point, and perhaps with a signed exponent. -/
theorem unsigned?_eq {fraction tail : List Char} {power : Int} (some : digits ≠ [])
    (all : ∀ c ∈ digits, isDigit c = true) (broken : ∀ c ∈ fraction, isDigit c = true)
    (raised : Json.IsSignedPower tail power) :
    unsigned? false (digits ++ '.' :: fraction ++ tail) =
      .some (.ofDecimal false (Json.digitsValue (digits ++ fraction))
        (power - fraction.length)) := by
  have unmarked : ∀ c ∈ digits ++ '.' :: fraction, (c == 'e' || c == 'E') = false := by
    rw [List.forall_mem_append, List.forall_mem_cons]
    exact ⟨fun c member => isMark_digit (all c member), rfl,
      fun c member => isMark_digit (broken c member)⟩
  have pointless : '.' ∉ digits := by
    intro member
    have point := all _ member
    cases point
  have cut : cutAt? '.' (digits ++ '.' :: fraction) = .some (digits, fraction) :=
    cutAt?_eq_some.mpr ⟨rfl, pointless⟩
  have both : ∀ c ∈ digits ++ fraction, isDigit c = true :=
    List.forall_mem_append.mpr ⟨all, broken⟩
  have shown : (digits.isEmpty && fraction.isEmpty) = false := by
    rw [List.isEmpty_eq_false_iff.mpr some, Bool.false_and]
  obtain ⟨mantissa, exponent⟩ := divided_eq unmarked raised
  rw [unsigned?]
  simp only [mantissa, exponent, exponent?_eq raised, cut, Option.getD_some,
    optionalDigits?_eq all, optionalDigits?_eq broken, shown, ofDigits_eq both,
    Option.bind_eq_bind, Option.bind_some, Bool.false_eq_true, if_false]

/-- A number with a point in lower case is read as it stands. -/
theorem double?_eq {fraction tail : List Char} {power : Int} (some : digits ≠ [])
    (all : ∀ c ∈ digits, isDigit c = true) (broken : ∀ c ∈ fraction, isDigit c = true)
    (raised : Json.IsSignedPower tail power) (lower : tail.head? ≠ .some 'E') :
    double? (digits ++ '.' :: fraction ++ tail) =
      .some (.ofDecimal false (Json.digitsValue (digits ++ fraction))
        (power - fraction.length)) := by
  have tailed : ∀ c ∈ tail, c ∈ numeralChars := by
    cases raised with
    | none => exact List.forall_mem_nil _
    | signed negative mark all =>
        rw [List.forall_mem_cons, List.forall_mem_cons]
        refine ⟨?_, ?_, fun c member => mem_numeralChars (all c member)⟩
        · rcases mark with rfl | rfl
          · decide
          · exact absurd rfl lower
        · cases negative <;> decide
  have chars : ∀ c ∈ digits ++ '.' :: fraction ++ tail, c ∈ numeralChars := by
    simp only [List.forall_mem_append, List.forall_mem_cons]
    exact ⟨⟨fun c member => mem_numeralChars (all c member), by decide,
      fun c member => mem_numeralChars (broken c member)⟩, tailed⟩
  obtain ⟨d, more, rfl⟩ := List.exists_cons_of_ne_nil some
  have digit := all d List.mem_cons_self
  have unsigned : cutSign (plainDigits (trim (d :: more ++ '.' :: fraction ++ tail))) =
      (false, d :: more ++ '.' :: fraction ++ tail) := by
    rw [plainDigits_trim chars]
    exact cutSign_digit digit
  -- The names of the other numbers begin with letters.
  have numeral : ∀ name : String, name.toList.head? ≠ .some d →
      String.ofList ((d :: more ++ '.' :: fraction ++ tail).map Char.toLower) ≠ name := by
    rintro _ other rfl
    rw [String.toList_ofList, List.cons_append, List.cons_append, List.map_cons, List.head?_cons,
      toLower_digit digit] at other
    exact other rfl
  rw [double?, unsigned]
  dsimp only
  split
  · next same => exact absurd same (numeral _ (by rintro ⟨⟩; cases digit))
  · next same => exact absurd same (numeral _ (by rintro ⟨⟩; cases digit))
  · next same => exact absurd same (numeral _ (by rintro ⟨⟩; cases digit))
  · exact unsigned?_eq some all broken raised

end Numeral

/-! ## Signs -/

theorem Double.neg_ofRatio (numerator denominator : Nat) :
    (Double.ofRatio false numerator denominator).neg =
      Double.ofRatio true numerator denominator := by
  rw [ofRatio, ofRatio]
  split
  · rfl
  · dsimp only
    rw [apply_ite neg]
    rfl

/-- A minus in front of a decimal number changes the sign only. -/
theorem Double.neg_ofDecimal (digits : Nat) (power : Int) :
    (Double.ofDecimal false digits power).neg = Double.ofDecimal true digits power := by
  rw [ofDecimal, ofDecimal]
  dsimp only
  rw [apply_ite neg, apply_ite neg, apply_ite neg, apply_ite neg, neg_ofRatio, neg_ofRatio]
  rfl

/-- The end of a number in lower case. -/
theorem Json.IsSignedPower.lower {tail : List Char} {power : Int}
    (raised : Json.IsSignedPower tail power) :
    Json.IsSignedPower (tail.map Char.toLower) power ∧
      (tail.map Char.toLower).head? ≠ some 'E' := by
  cases raised with
  | none => exact ⟨.none, nofun⟩
  | @signed e c more negative mark all =>
      have digits := Text.map_toLower_digits all
      have sign : (if negative then '-' else '+').toLower = if negative then '-' else '+' := by
        cases negative <;> rfl
      have small : e.toLower = 'e' := by
        rcases mark with rfl | rfl <;> rfl
      rw [List.map_cons, List.map_cons, digits, sign, small]
      exact ⟨.signed negative (Or.inl rfl) all, by rintro ⟨⟩⟩

namespace Yaml

open Json Text

variable {letters digits fraction tail : List Char} {value : Value} {power : Int}

/-! ## Characters of words -/

theorem isAlphanumeric_of_isDigit {c : Char} (digit : isDigit c = true) :
    isAlphanumeric c = true := by
  rw [isAlphanumeric, digit, Bool.or_true]

theorem isWordChar_of_isDigit {c : Char} (digit : isDigit c = true) :
    Yaml.isWordChar c = true := by
  rw [Yaml.isWordChar, isAlphanumeric_of_isDigit digit]
  rfl

theorem all_isWordChar_minus {negative : Bool} :
    ∀ c ∈ minus negative, Yaml.isWordChar c = true :=
  forall_mem_of_all (by cases negative <;> rfl)

theorem all_isWordChar_tail (raised : IsSignedPower tail power) :
    ∀ c ∈ tail, Yaml.isWordChar c = true := by
  cases raised with
  | none => exact List.forall_mem_nil _
  | signed negative mark all =>
      rw [List.forall_mem_cons, List.forall_mem_cons]
      refine ⟨?_, ?_, fun c member => isWordChar_of_isDigit (all c member)⟩
      · rcases mark with rfl | rfl <;> rfl
      · cases negative <;> rfl

/-- Common words consist of word characters. -/
theorem all_isWordChar (word : CommonWord letters value) :
    ∀ c ∈ letters, Yaml.isWordChar c = true := by
  cases word with
  | constant known =>
      have each : ∀ pair ∈ [("null", Value.null), ("true", .bool true), ("false", .bool false)],
          pair.1.toList.all Yaml.isWordChar = true := by decide +kernel
      exact List.all_eq_true.mp (each _ known)
  | integer _ whole _ =>
      rw [List.forall_mem_append]
      exact ⟨all_isWordChar_minus,
        fun c member => isWordChar_of_isDigit (whole.all_digits c member)⟩
  | decimal _ whole all _ raised =>
      simp only [List.forall_mem_append, List.forall_mem_cons]
      exact ⟨all_isWordChar_minus,
        fun c member => isWordChar_of_isDigit (whole.all_digits c member),
        ⟨rfl, fun c member => isWordChar_of_isDigit (all c member)⟩, all_isWordChar_tail raised⟩

theorem leads_minus (negative : Bool) (whole : IsWhole digits) (more : List Char) :
    Scanner.Leads (minus negative ++ (digits ++ more)) := by
  obtain ⟨d, others, rfl⟩ := List.exists_cons_of_ne_nil whole.ne_nil
  refine ⟨d, others ++ more, ?_, isAlphanumeric_of_isDigit (whole.all_digits d List.mem_cons_self)⟩
  cases negative
  · exact Or.inl rfl
  · exact Or.inr rfl

/-- Common words begin with a letter or a digit, perhaps behind a minus. -/
theorem leads_of_commonWord (word : CommonWord letters value) : Scanner.Leads letters := by
  cases word with
  | constant known =>
      simp only [List.mem_cons, Prod.mk.injEq, List.not_mem_nil, or_false] at known
      rcases known with ⟨rfl, _⟩ | ⟨rfl, _⟩ | ⟨rfl, _⟩
      · exact ⟨'n', _, Or.inl rfl, rfl⟩
      · exact ⟨'t', _, Or.inl rfl, rfl⟩
      · exact ⟨'f', _, Or.inl rfl, rfl⟩
  | integer negative whole _ =>
      have leads := leads_minus negative whole []
      rwa [List.append_nil] at leads
  | decimal negative whole _ _ _ => exact leads_minus negative whole _

/-! ## Tags of words -/

/-- The tag of a word is the tag of its letters. -/
theorem ofPlain?_eq (shown : letters ≠ []) (all : ∀ c ∈ letters, Yaml.isWordChar c = true) :
    Tag.ofPlain? (String.ofList letters) = Tag.ofWord? letters := by
  have text : (String.ofList letters).isEmpty = false := by
    rw [String.isEmpty_eq_false_iff]
    exact fun none => shown (String.ofList_eq_empty_iff.mp none)
  have unbroken : Tag.dropLastBreak letters = letters := by
    refine if_neg fun last => ?_
    have newline := all '\n' (List.mem_of_getLast? last)
    cases newline
  have word : letters.isEmpty = false := List.isEmpty_eq_false_iff.mpr shown
  rw [Tag.ofPlain?, text, String.toList_ofList, unbroken]
  simp only [word, Bool.false_eq_true, if_false]

/-- No truth value is written with a digit. -/
theorem isBoolWord_of_digit {c : Char} (digit : isDigit c = true) (member : c ∈ letters) :
    Tag.isBoolWord (String.ofList letters) = false := by
  have each : ∀ word ∈ ["yes", "Yes", "YES", "no", "No", "NO", "true", "True", "TRUE", "false",
      "False", "FALSE", "on", "On", "ON", "off", "Off", "OFF"], word.toList.any isDigit = false := by
    decide +kernel
  rw [Tag.isBoolWord, ← Bool.not_eq_true, List.contains_iff_mem]
  intro listed
  exact List.any_eq_false.mp (each _ listed) c (by rwa [String.toList_ofList]) digit

theorem unsigned_minus (negative : Bool) (whole : IsWhole digits) (more : List Char) :
    Tag.unsigned (minus negative ++ (digits ++ more)) = digits ++ more := by
  cases negative with
  | true => rfl
  | false =>
      obtain ⟨d, others, rfl⟩ := List.exists_cons_of_ne_nil whole.ne_nil
      have digit := whole.all_digits d List.mem_cons_self
      refine if_neg ?_
      rw [Bool.or_eq_true, decide_eq_true_eq, decide_eq_true_eq]
      rintro (rfl | rfl) <;> cases digit

theorem cutSign_minus (negative : Bool) (whole : IsWhole digits) (more : List Char) :
    Numeral.cutSign (minus negative ++ (digits ++ more)) = (negative, digits ++ more) := by
  cases negative with
  | true => rfl
  | false =>
      obtain ⟨d, others, rfl⟩ := List.exists_cons_of_ne_nil whole.ne_nil
      exact Numeral.cutSign_digit (whole.all_digits d List.mem_cons_self)

/-- The digits of a number have a point in front of them only if it is no JSON. -/
theorem minus_ne_point (negative : Bool) (whole : IsWhole digits) (more rest : List Char) :
    minus negative ++ (digits ++ more) ≠ '.' :: rest := by
  intro same
  cases negative with
  | true => cases same
  | false =>
      obtain ⟨d, others, rfl⟩ := List.exists_cons_of_ne_nil whole.ne_nil
      have digit := whole.all_digits d List.mem_cons_self
      cases same
      cases digit

theorem isDigits_eq (whole : IsWhole digits) : Tag.isDigits digits = true := by
  obtain ⟨d, others, rfl⟩ := List.exists_cons_of_ne_nil whole.ne_nil
  have all := whole.all_digits
  rw [List.forall_mem_cons] at all
  rw [Tag.isDigits, all.1, Bool.true_and, List.all_eq_true]
  intro c member
  rw [Tag.isDigitOrGap, all.2 c member, Bool.true_or]

theorem isFraction_eq (all : ∀ c ∈ fraction, isDigit c = true) (raised : IsSignedPower tail power) :
    Tag.isFraction (fraction ++ tail) = true := by
  have passed : ∀ c ∈ fraction, Tag.isDigitOrGap c = true := fun c member => by
    rw [Tag.isDigitOrGap, all c member, Bool.true_or]
  rw [Tag.isFraction, List.dropWhile_append_of_pos passed]
  cases raised with
  | none => rfl
  | @signed e c more negative mark shown =>
      have run : Tag.isRun isDigit (c :: more) = true := List.all_eq_true.mpr shown
      rcases mark with rfl | rfl <;> cases negative <;>
        exact (Bool.true_and _).trans run

theorem notMem_of_isWhole {c : Char} (whole : IsWhole digits) (other : isDigit c = false) :
    c ∉ digits := by
  intro member
  rw [whole.all_digits c member] at other
  cases other

theorem isFloat_decimal (negative : Bool) (whole : IsWhole digits)
    (all : ∀ c ∈ fraction, isDigit c = true) (raised : IsSignedPower tail power) :
    Tag.isFloat (minus negative ++ (digits ++ ('.' :: fraction ++ tail))) = true := by
  have cut : cutAt? '.' (digits ++ ('.' :: fraction ++ tail)) = some (digits, fraction ++ tail) :=
    cutAt?_eq_some.mpr ⟨rfl, notMem_of_isWhole whole rfl⟩
  rw [Tag.isFloat.eq_def]
  split
  · next same => exact absurd same (minus_ne_point negative whole _ _)
  · rw [unsigned_minus negative whole, cut]
    split
    · next same =>
        obtain ⟨none, _⟩ := Prod.mk.inj (Option.some.inj same)
        exact absurd none whole.ne_nil
    · next same =>
        obtain ⟨rfl, rfl⟩ := Prod.mk.inj (Option.some.inj same)
        rw [isDigits_eq whole, isFraction_eq all raised]
        rfl
    · next same => cases same

theorem isFloat_integer (negative : Bool) (whole : IsWhole digits) :
    Tag.isFloat (minus negative ++ digits) = false := by
  rw [← List.append_nil digits]
  have uncut : cutAt? '.' (digits ++ []) = none := by
    rw [List.append_nil]
    exact cutAt?_eq_none.mpr (notMem_of_isWhole whole rfl)
  rw [Tag.isFloat.eq_def]
  split
  · next same => exact absurd same (minus_ne_point negative whole _ _)
  · rw [unsigned_minus negative whole, uncut]

theorem isInteger_eq (negative : Bool) (whole : IsWhole digits) :
    Tag.isInteger (minus negative ++ digits) = true := by
  have unsigned := unsigned_minus negative whole []
  rw [List.append_nil] at unsigned
  rw [Tag.isInteger.eq_def, unsigned]
  cases whole with
  | zero => rfl
  | digits first all =>
      split
      · rfl
      · next same => exact absurd (List.cons.inj same).1 first
      · next same => exact absurd (List.cons.inj same).1 first
      · next same => exact absurd (List.cons.inj same).1 first
      · rw [isDigits_eq (.digits first all), Bool.true_or]

/-! ## Values of words -/

theorem filter_eq (all : ∀ c ∈ letters, Yaml.isWordChar c = true) :
    letters.filter (· ≠ '_') = letters := by
  rw [List.filter_eq_self]
  intro c member
  rw [decide_eq_true_eq]
  rintro rfl
  have shown := all '_' member
  cases shown

theorem integerSize_eq (whole : IsWhole digits) (short : digits.length ≤ Json.digitLimit) :
    integerSize digits = .ok (digitsValue digits) := by
  have decimal : Numeral.int? 10 digits = some (digitsValue digits : Int) :=
    Numeral.int?_eq whole.ne_nil whole.all_digits short
  have numbers : (places digits).mapM (fun place => orFault .badValue (Numeral.int? 10 place)) =
      .ok [(digitsValue digits : Int)] := by
    rw [places, splitOn_of_notMem (notMem_of_isWhole whole rfl), List.mapM_cons, decimal]
    rfl
  cases whole with
  | zero => rfl
  | digits first all =>
      rw [integerSize.eq_def]
      split
      · next same => cases same
      · next same => exact absurd (List.cons.inj same).1 first
      · next same => exact absurd (List.cons.inj same).1 first
      · next same => exact absurd (List.cons.inj same).1 first
      · next same => exact absurd (List.cons.inj same).1 first
      · rw [numbers, ok_bind, List.foldl_cons, List.foldl_nil, Int.zero_mul, Int.zero_add]

theorem integerValue_eq (negative : Bool) (whole : IsWhole digits)
    (short : digits.length ≤ Json.digitLimit) :
    integerValue (minus negative ++ digits) =
      .ok (.int (if negative then -digitsValue digits else digitsValue digits)) := by
  have cut := cutSign_minus negative whole []
  rw [List.append_nil] at cut
  have kept := filter_eq (all_isWordChar (.integer negative whole short))
  have shown : (minus negative ++ digits).isEmpty = false := by
    rw [List.isEmpty_eq_false_iff, Ne, List.append_eq_nil_iff]
    exact fun none => whole.ne_nil none.2
  rw [integerValue]
  simp only [kept, cut, shown, integerSize_eq whole short, Bool.false_eq_true, if_false]
  rfl

theorem floatSize_eq (whole : IsWhole digits) (all : ∀ c ∈ fraction, isDigit c = true)
    (shown : fraction ≠ []) (raised : IsSignedPower tail power)
    (lower : tail.head? ≠ some 'E') :
    floatSize (digits ++ ('.' :: fraction ++ tail)) =
      .ok (.ofDecimal false (digitsValue (digits ++ fraction)) (power - fraction.length)) := by
  have point : ∀ name : String, name.toList.head? = some '.' →
      String.ofList (digits ++ ('.' :: fraction ++ tail)) ≠ name := by
    rintro _ first rfl
    obtain ⟨d, others, rfl⟩ := List.exists_cons_of_ne_nil whole.ne_nil
    have digit := whole.all_digits d List.mem_cons_self
    rw [String.toList_ofList] at first
    cases first
    cases digit
  have dense : (digits ++ ('.' :: fraction ++ tail)).contains ':' = false := by
    rw [← Bool.not_eq_true, List.contains_iff_mem]
    intro member
    have letter := all_isWordChar (.decimal false whole all shown raised) ':' member
    cases letter
  have number := Numeral.double?_eq whole.ne_nil whole.all_digits all raised lower
  rw [floatSize]
  split
  · next same => exact absurd same (point _ rfl)
  · next same => exact absurd same (point _ rfl)
  · rw [dense, ← List.append_assoc, number]
    rfl

theorem floatValue_eq (negative : Bool) (whole : IsWhole digits)
    (all : ∀ c ∈ fraction, isDigit c = true) (shown : fraction ≠ [])
    (raised : IsSignedPower tail power) :
    floatValue (minus negative ++ (digits ++ ('.' :: fraction ++ tail))) =
      .ok (.float (.ofDecimal negative (digitsValue (digits ++ fraction))
        (power - fraction.length))) := by
  obtain ⟨lowered, lower⟩ := raised.lower
  have kept := filter_eq (all_isWordChar (.decimal negative whole all shown raised))
  have small : (minus negative ++ (digits ++ ('.' :: fraction ++ tail))).map Char.toLower =
      minus negative ++ (digits ++ ('.' :: fraction ++ tail.map Char.toLower)) := by
    have sign : (minus negative).map Char.toLower = minus negative := by cases negative <;> rfl
    have point : '.'.toLower = '.' := rfl
    simp only [List.map_append, List.map_cons, sign, point, map_toLower_digits whole.all_digits,
      map_toLower_digits all]
  have cut := cutSign_minus negative whole ('.' :: fraction ++ tail.map Char.toLower)
  have some : (minus negative ++ (digits ++ ('.' :: fraction ++ tail.map Char.toLower))).isEmpty =
      false := by
    simp
  rw [floatValue]
  simp only [kept, small, cut, some, floatSize_eq whole all shown lowered lower, Bool.false_eq_true,
    if_false]
  rw [Except.map]
  cases negative with
  | true => rw [if_pos rfl, Double.neg_ofDecimal]
  | false => rw [if_neg Bool.false_ne_true]

/-- A common word is a plain scalar with the value that JSON gives to it. -/
theorem value_of_commonWord (word : CommonWord letters value) :
    ∃ tag, Node.scalarTag true (String.ofList letters) none = some tag ∧
      scalarValue tag (String.ofList letters) = .ok value := by
  have shown : letters ≠ [] := by
    rintro rfl
    obtain ⟨_, _, same | same, _⟩ := leads_of_commonWord word <;> cases same
  rw [Node.scalarTag, if_pos rfl, ofPlain?_eq shown (all_isWordChar word)]
  have unnamed : ∀ {c : Char}, isDigit c = true → c ∈ letters →
      Tag.isBoolWord (String.ofList letters) = false := isBoolWord_of_digit
  cases word with
  | constant known =>
      simp only [List.mem_cons, Prod.mk.injEq, List.not_mem_nil, or_false] at known
      rw [String.ofList_toList]
      rcases known with ⟨rfl, rfl⟩ | ⟨rfl, rfl⟩ | ⟨rfl, rfl⟩
      · exact ⟨.null, by decide +kernel, rfl⟩
      · exact ⟨.bool, by decide +kernel, by rfl⟩
      · exact ⟨.bool, by decide +kernel, by rfl⟩
  | integer negative whole short =>
      obtain ⟨d, member⟩ := List.exists_mem_of_ne_nil _ whole.ne_nil
      have wordless := unnamed (whole.all_digits d member) (List.mem_append_right _ member)
      refine ⟨.int, ?_, ?_⟩
      · rw [Tag.ofWord?]
        simp only [wordless, isFloat_integer negative whole, isInteger_eq negative whole,
          Bool.false_eq_true, if_false, if_true]
      · rw [scalarValue, String.toList_ofList, integerValue_eq negative whole short]
  | decimal negative whole all some raised =>
      obtain ⟨d, member⟩ := List.exists_mem_of_ne_nil _ whole.ne_nil
      have wordless := unnamed (whole.all_digits d member)
        (List.mem_append_right _ (List.mem_append_left _ member))
      refine ⟨.float, ?_, ?_⟩
      · rw [Tag.ofWord?]
        simp only [wordless, isFloat_decimal negative whole all raised, Bool.false_eq_true,
          if_false, if_true]
      · rw [scalarValue, String.toList_ofList, floatValue_eq negative whole all some raised]

end Yaml

end ClientGen
