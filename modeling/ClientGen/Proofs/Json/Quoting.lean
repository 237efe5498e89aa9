import ClientGen.Json.Reader
import ClientGen.Json.Writer
import Mathlib.Data.List.Basic

/-!
# Quoted texts

A quoted text reads back as the text that it was written from, so that no two texts are quoted
alike. What the quotation marks hold are the characters of the text itself and the few that escapes
are spelled with.
-/

namespace ClientGen.Json

/-! ## Hexadecimal numerals -/

/-- The number that hexadecimal digits denote, behind a number read before them. -/
def hexValue (before : Nat) (digits : List Char) : Nat :=
  digits.foldl (fun n digit => n * 16 + (Text.digitValue digit).getD 0) before

theorem hexValue_append (before : Nat) (first second : List Char) :
    hexValue before (first ++ second) = hexValue (hexValue before first) second :=
  List.foldl_append

theorem hexDigit_digitChar : ∀ digit < 16,
    Text.isHexDigit (Nat.digitChar digit) = true ∧
      Text.digitValue (Nat.digitChar digit) = some digit := by decide

theorem hexValue_replicate (count : Nat) : hexValue 0 (List.replicate count '0') = 0 := by
  induction count with
  | zero => rfl
  | succ count ih =>
      rw [List.replicate_succ', hexValue_append, ih]
      rfl

theorem hexValue_toDigits (n : Nat) : hexValue 0 (Nat.toDigits 16 n) = n := by
  induction n using Nat.strongRecOn with
  | ind n ih =>
      rw [Nat.toDigits_eq_if (by decide)]
      split
      · next small => simp [hexValue, (hexDigit_digitChar n small).2]
      · next large =>
          have lower : n / 16 < n := Nat.div_lt_self (by omega) (by decide)
          have last := (hexDigit_digitChar (n % 16) (Nat.mod_lt n (by decide))).2
          rw [hexValue_append, ih _ lower]
          simp only [hexValue, List.foldl_cons, List.foldl_nil, last, Option.getD_some]
          omega

theorem isHexDigit_of_mem_toDigits {n : Nat} {c : Char} (member : c ∈ Nat.toDigits 16 n) :
    Text.isHexDigit c = true := by
  induction n using Nat.strongRecOn with
  | ind n ih =>
      rw [Nat.toDigits_eq_if (by decide)] at member
      split at member
      · next small =>
          rw [List.mem_singleton.mp member]
          exact (hexDigit_digitChar n small).1
      · next large =>
          rcases List.mem_append.mp member with front | last
          · exact ih (n / 16) (Nat.div_lt_self (by omega) (by decide)) front
          · rw [List.mem_singleton.mp last]
            exact (hexDigit_digitChar _ (Nat.mod_lt n (by decide))).1

theorem isHexDigit_of_mem_hex {width n : Nat} {c : Char} (member : c ∈ Text.hex width n) :
    Text.isHexDigit c = true := by
  rcases List.mem_append.mp member with filling | shown
  · rw [List.eq_of_mem_replicate filling]
    rfl
  · exact isHexDigit_of_mem_toDigits shown

/-- A code unit takes four digits, and they denote it. -/
theorem hex_four {code : Nat} (small : code < 0x10000) :
    ∃ a b c d, Text.hex 4 code = [a, b, c, d] ∧ unit? a b c d = some code := by
  have short : (Nat.toDigits 16 code).length ≤ 4 :=
    (Nat.length_toDigits_le_iff (by decide) (by decide)).mpr small
  have four : (Text.hex 4 code).length = 4 := by
    simp only [Text.hex, List.length_append, List.length_replicate]
    omega
  have denoted : hexValue 0 (Text.hex 4 code) = code := by
    rw [Text.hex, hexValue_append, hexValue_replicate, hexValue_toDigits]
  match shown : Text.hex 4 code, four with
  | [a, b, c, d], _ =>
      refine ⟨a, b, c, d, rfl, ?_⟩
      have digits : [a, b, c, d].all Text.isHexDigit = true := by
        rw [← shown]
        exact List.all_eq_true.mpr fun _ => isHexDigit_of_mem_hex
      rw [shown] at denoted
      rw [unit?, if_pos digits]
      exact congrArg some denoted

/-! ## Reading one character -/

variable {whole tail rest : List Char}

theorem stringCodes_unitEscape {code : Nat} (small : code < 0x10000) (more : tail ≠ []) :
    stringCodes whole (unitEscape code ++ tail) =
      (stringCodes whole tail).map fun (codes, rest) => (code :: codes, rest) := by
  obtain ⟨a, b, c, d, shown, denoted⟩ := hex_four small
  have left : tail.isEmpty = false := by simpa using more
  simp only [unitEscape, shown, List.cons_append, List.nil_append, stringCodes, denoted, left,
    Bool.false_eq_true, if_false]

/-- The characters with one-letter escapes, each with its letter. -/
def letterEscapes : List (Char × Char) :=
  [('"', '"'), ('\\', '\\'), ('\n', 'n'), ('\r', 'r'), ('\t', 't'), ('\x0c', 'f'), ('\x08', 'b')]

theorem mem_letterEscapes {c letter : Char} (found : escapeLetter? c = some letter) :
    (c, letter) ∈ letterEscapes := by
  rw [letterEscapes]
  grind [escapeLetter?]

theorem stringCodes_letter {c letter : Char} (found : escapeLetter? c = some letter) :
    stringCodes whole ('\\' :: letter :: tail) =
      (stringCodes whole tail).map fun (codes, rest) => (c.toNat :: codes, rest) := by
  have each : ∀ pair ∈ letterEscapes, stringCodes whole ('\\' :: pair.2 :: tail) =
      (stringCodes whole tail).map fun (codes, rest) => (pair.1.toNat :: codes, rest) := by
    simp only [letterEscapes, List.forall_mem_cons, List.not_mem_nil, false_implies, implies_true,
      and_true]
    exact ⟨rfl, rfl, rfl, rfl, rfl, rfl, rfl⟩
  exact each _ (mem_letterEscapes found)

theorem stringCodes_plain {c : Char} (printed : 0x20 ≤ c.toNat) (unquoted : c ≠ '"')
    (unescaped : c ≠ '\\') :
    stringCodes whole (c :: tail) =
      (stringCodes whole tail).map fun (codes, rest) => (c.toNat :: codes, rest) := by
  rw [stringCodes]
  · exact if_neg (by omega)
  all_goals simp_all

/-! ## Code units -/

theorem toNat_lt (c : Char) : c.toNat < 0x110000 := by
  have valid : c.toNat.isValidChar := c.valid
  rcases valid with low | high <;> omega

theorem units_lt {c : Char} {code : Nat} (member : code ∈ units c) : code < 0x10000 := by
  have bound := toNat_lt c
  simp only [units] at member
  split at member
  · next small => rwa [List.mem_singleton.mp member]
  · next large =>
      rcases List.mem_cons.mp member with rfl | second
      · omega
      · rw [List.mem_singleton.mp second]
        omega

theorem stringCodes_unitEscapes {codes : List Nat} (small : ∀ code ∈ codes, code < 0x10000)
    (more : tail ≠ []) :
    stringCodes whole (codes.flatMap unitEscape ++ tail) =
      (stringCodes whole tail).map fun (found, rest) => (codes ++ found, rest) := by
  induction codes with
  | nil => cases found : stringCodes whole tail <;> simp [found, Except.map]
  | cons code others ih =>
      obtain ⟨here, there⟩ := List.forall_mem_cons.mp small
      have later : others.flatMap unitEscape ++ tail ≠ [] := by simp [more]
      rw [List.flatMap_cons, List.append_assoc, stringCodes_unitEscape here later, ih there]
      cases stringCodes whole tail <;> rfl

/-- A quoted character reads as its code units. -/
theorem stringCodes_asciiChar (c : Char) (more : tail ≠ []) :
    stringCodes whole (asciiChar c ++ tail) =
      (stringCodes whole tail).map fun (found, rest) => (units c ++ found, rest) := by
  rw [asciiChar]
  cases found : escapeLetter? c with
  | some letter =>
      have single : units c = [c.toNat] := by
        have small : ∀ pair ∈ letterEscapes, units pair.1 = [pair.1.toNat] := by decide
        exact small _ (mem_letterEscapes found)
      rw [single]
      exact stringCodes_letter found
  | none =>
      dsimp only
      split
      · next shown =>
          rw [Bool.and_eq_true, decide_eq_true_eq, decide_eq_true_eq] at shown
          have single : units c = [c.toNat] := if_pos (by omega)
          rw [single]
          refine stringCodes_plain shown.1 ?_ ?_ <;> rintro rfl <;> cases found
      · exact stringCodes_unitEscapes (fun _ => units_lt) more

/-- A quoted text reads as the code units of its characters, up to the quotation mark. -/
theorem stringCodes_quoted (text rest : List Char) :
    stringCodes whole (text.flatMap asciiChar ++ '"' :: rest) = .ok (text.flatMap units, rest) := by
  induction text with
  | nil => rfl
  | cons c others ih =>
      rw [List.flatMap_cons, List.append_assoc, stringCodes_asciiChar c (by simp), ih]
      rfl

/-- The code units of a character make it up again. -/
theorem ofCodes_units (c : Char) (codes : List Nat) :
    ofCodes (units c ++ codes) = c :: ofCodes codes := by
  have valid : c.toNat < 0xd800 ∨ (0xdfff < c.toNat ∧ c.toNat < 0x110000) := c.valid
  simp only [units]
  split
  · next small =>
      have low : isLowSurrogate c.toNat = false := by simp [isLowSurrogate]; omega
      have high : isHighSurrogate c.toNat = false := by simp [isHighSurrogate]; omega
      have alone : ofCodes.single c.toNat = c := by
        simp [ofCodes.single, low, high]
      cases codes with
      | nil => simp [ofCodes, alone]
      | cons code others => simp [ofCodes, alone, high]
  · next large =>
      have high : isHighSurrogate (0xd800 + (c.toNat - 0x10000) / 0x400) = true := by
        simp [isHighSurrogate]; omega
      have low : isLowSurrogate (0xdc00 + (c.toNat - 0x10000) % 0x400) = true := by
        simp [isLowSurrogate]; omega
      have whole : 0x10000 + (0xd800 + (c.toNat - 0x10000) / 0x400 - 0xd800) * 0x400 +
          (0xdc00 + (c.toNat - 0x10000) % 0x400 - 0xdc00) = c.toNat := by omega
      simp only [List.cons_append, List.nil_append, ofCodes, high, low, Bool.and_self, if_true,
        whole, Char.ofNat_toNat]

theorem ofCodes_flatMap_units (text : List Char) : ofCodes (text.flatMap units) = text := by
  induction text with
  | nil => rfl
  | cons c rest ih => rw [List.flatMap_cons, ofCodes_units, ih]

/-! ## Reading quoted texts -/

/-- A quoted text reads back, whatever follows it. -/
theorem string_quoted (text rest : List Char) :
    string (text.flatMap asciiChar ++ '"' :: rest) = .ok (String.ofList text, rest) := by
  simp only [string, stringCodes_quoted, Except.map, ofCodes_flatMap_units]

theorem toList_quote (text : String) :
    (quote text).toList = '"' :: (text.toList.flatMap asciiChar ++ ['"']) := by
  rw [quote, String.toList_ofList, quoteChars, List.cons_append]

/-- No two texts are quoted alike. -/
theorem quote_injective : Function.Injective quote := by
  intro first second same
  have marked : first.toList.flatMap asciiChar ++ ['"'] =
      second.toList.flatMap asciiChar ++ ['"'] := by
    have lists := congrArg String.toList same
    rw [toList_quote, toList_quote] at lists
    exact (List.cons.inj lists).2
  have read := string_quoted first.toList []
  rw [marked, string_quoted] at read
  simpa using (congrArg Prod.fst (Except.ok.inj read)).symm

/-! ## Characters -/

/-- A character that escapes are spelled with. -/
def spellsEscape (c : Char) : Bool := Text.isAlphanumeric c || c == '\\' || c == '"'

theorem isAlphanumeric_of_isHexDigit {c : Char} (digit : Text.isHexDigit c = true) :
    Text.isAlphanumeric c = true := by
  simp only [Text.isHexDigit, Text.isAlphanumeric, Text.isLetter, Text.isLower, Text.isUpper,
    Bool.or_eq_true, Bool.and_eq_true, decide_eq_true_eq] at digit ⊢
  rcases digit with (number | small) | capital
  · exact Or.inr number
  · exact Or.inl (Or.inl ⟨small.1, Char.le_trans small.2 (by decide)⟩)
  · exact Or.inl (Or.inr ⟨capital.1, Char.le_trans capital.2 (by decide)⟩)

theorem spellsEscape_of_mem_unitEscape {code : Nat} {d : Char} (member : d ∈ unitEscape code) :
    spellsEscape d = true := by
  rcases List.mem_cons.mp member with rfl | member
  · rfl
  rcases List.mem_cons.mp member with rfl | digit
  · rfl
  · rw [spellsEscape, isAlphanumeric_of_isHexDigit (isHexDigit_of_mem_hex digit)]
    rfl

/-- A quoted character has no characters but itself and those of escapes. -/
theorem mem_asciiChar {c d : Char} (member : d ∈ asciiChar c) : d = c ∨ spellsEscape d = true := by
  rw [asciiChar] at member
  cases found : escapeLetter? c with
  | some letter =>
      rw [found] at member
      have spells : letterEscapes.all (fun pair => ['\\', pair.2].all spellsEscape) = true := by
        decide
      have spelled := List.all_eq_true.mp spells _ (mem_letterEscapes found)
      exact Or.inr (List.all_eq_true.mp spelled d member)
  | none =>
      rw [found] at member
      dsimp only at member
      split at member
      · exact Or.inl (List.mem_singleton.mp member)
      · obtain ⟨code, _, inside⟩ := List.mem_flatMap.mp member
        exact Or.inr (spellsEscape_of_mem_unitEscape inside)

/-- A quoted text has no characters but its own and those of escapes. -/
theorem mem_of_mem_quote {text : String} {d : Char} (member : d ∈ (quote text).toList) :
    d ∈ text.toList ∨ spellsEscape d = true := by
  rw [toList_quote] at member
  rcases List.mem_cons.mp member with rfl | member
  · exact Or.inr rfl
  rcases List.mem_append.mp member with inside | last
  · obtain ⟨c, listed, inside⟩ := List.mem_flatMap.mp inside
    rcases mem_asciiChar inside with rfl | spells
    · exact Or.inl listed
    · exact Or.inr spells
  · rw [List.mem_singleton.mp last]
    exact Or.inr rfl

end ClientGen.Json
