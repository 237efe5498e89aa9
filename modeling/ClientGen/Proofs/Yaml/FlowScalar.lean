import ClientGen.Proofs.Yaml.Passage
import ClientGen.Proofs.Yaml.Scanning

/-!
# Scalars of flow collections

A string of JSON is scanned as a quoted scalar with the same characters, as long as none of its
codes form a surrogate pair and its lines are kept. A word of JSON is scanned as a plain scalar
together with the blanks behind it.
-/

namespace ClientGen.Json

/-! ## Codes one by one -/

theorem single_toNat (c : Char) : ofCodes.single c.toNat = c := by
  have valid : c.toNat < 0xd800 ∨ (0xdfff < c.toNat ∧ c.toNat < 0x110000) := c.valid
  have high : isHighSurrogate c.toNat = false := by simp [isHighSurrogate]; omega
  have low : isLowSurrogate c.toNat = false := by simp [isLowSurrogate]; omega
  rw [ofCodes.single, high, low, Bool.or_false, if_neg Bool.false_ne_true, Char.ofNat_toNat]

/-- Codes without a surrogate pair have their characters one by one. -/
theorem ofCodes_eq_map {codes : List Nat} (apart : hasPair codes = false) :
    ofCodes codes = codes.map ofCodes.single := by
  fun_induction ofCodes codes with
  | case1 => rfl
  | case2 code => rfl
  | case3 high low rest pair _ => rw [hasPair, pair, Bool.true_or] at apart; cases apart
  | case4 high low rest _ ih =>
      rw [hasPair, Bool.or_eq_false_iff] at apart
      rw [ih apart.2, ← List.map_cons]

/-- Characters that stand for themselves, and what follows them. -/
theorem CommonBody.run {run body : List Char} {codes : List Nat}
    (common : CommonBody (run ++ body) codes) (plain : ∀ c ∈ run, c ≠ '\\') :
    ∃ others, codes.map ofCodes.single = run ++ others.map ofCodes.single ∧
      CommonBody body others := by
  suffices spelled : ∃ others, codes.map ofCodes.single = run ++ others.map ofCodes.single ∧
      Spells body others by
    obtain ⟨others, same, spells⟩ := spelled
    exact ⟨others, same, common.behind run spells⟩
  have spells := common.spells
  clear common
  induction run generalizing codes with
  | nil => exact ⟨codes, rfl, spells⟩
  | cons c run ih =>
      rw [List.forall_mem_cons] at plain
      rw [List.cons_append] at spells
      generalize together : run ++ body = text at spells
      cases spells with
      | unit => exact absurd rfl plain.1
      | letter => exact absurd rfl plain.1
      | plain _ _ _ later =>
          subst together
          obtain ⟨others, same, spells⟩ := ih plain.2 later
          refine ⟨others, ?_, spells⟩
          rw [List.map_cons, single_toNat, same, List.cons_append]

end ClientGen.Json

namespace ClientGen.Yaml

open Json (Spells CommonBody isCommonChar isSeparator startsMarker startsLine keepsLines isBlank)
open Cursor

variable {here : Cursor} {body rest : List Char} {codes : List Nat}

/-! ## Quoted scalars -/

theorem ofCode_unit {a b c d : Char} {code : Nat} (known : Json.unit? a b c d = some code) :
    ofCode code = .ok (Json.ofCodes.single code) := by
  rw [Json.unit?] at known
  split at known
  · next digits =>
      have bound : Json.hexValue 0 [a, b, c, d] < (0 + 1) * 16 ^ 4 := hexValue_lt digits 0
      have small : code < 0x10000 := by
        have same : Json.hexValue 0 [a, b, c, d] = code := Option.some.inj known
        omega
      have first : ¬ Nat.pow 2 31 ≤ code := by
        have power : Nat.pow 2 31 = 2147483648 := rfl
        omega
      rw [ofCode, if_neg first, if_neg (by omega), Json.ofCodes.single]
      by_cases half : 0xd800 ≤ code ∧ code < 0xe000
      · have halves : (Json.isHighSurrogate code || Json.isLowSurrogate code) = true := by
          simp [Json.isHighSurrogate, Json.isLowSurrogate]
          omega
        rw [if_pos (by simpa using half), if_pos halves]
      · have whole : (Json.isHighSurrogate code || Json.isLowSurrogate code) = false := by
          simp [Json.isHighSurrogate, Json.isLowSurrogate]
          omega
        rw [if_neg (by simpa using half), whole, if_neg Bool.false_ne_true]
  · cases known

theorem escapeChar?_of_short {c d : Char} (known : Json.shortEscape? c = some d) :
    escapeChar? c = some d := by
  rw [Json.shortEscape?.eq_def] at known
  split at known <;> first | exact known | cases known

/-- A code unit by its digits stands for its character. -/
theorem scanEscape_unit {a b c d : Char} {code : Nat} (known : Json.unit? a b c d = some code)
    (shown : here.rest = '\\' :: 'u' :: a :: b :: c :: d :: rest) :
    ∃ there, scanEscape here = .ok ([Json.ofCodes.single code], there) ∧
      here.Passes ['\\', 'u', a, b, c, d] there := by
  have first := passes_next shown
  have second := passes_next (first.rest_eq shown)
  have digits : here.next.next.rest = [a, b, c, d] ++ rest :=
    second.rest_eq (first.rest_eq shown)
  refine ⟨_, ?_, (first.trans second).trans (passes_skip digits)⟩
  have letter : here.next.peek = 'u' := peek_of_rest (first.rest_eq shown)
  have long : escapeChar? 'u' = none := rfl
  have sized : escapeDigits? 'u' = some 4 := rfl
  have taken : here.next.next.rest.take 4 = [a, b, c, d] := by rw [digits]; rfl
  have valid : ([a, b, c, d].length = 4 && [a, b, c, d].all Text.isHexDigit) = true := by
    have hex := Json.isHexDigit_of_unit? known
    simpa using hex
  have denoted : [a, b, c, d].foldl (fun n digit => n * 16 + (Text.digitValue digit).getD 0) 0 =
      code := by
    rw [Json.unit?] at known
    split at known
    · exact Option.some.inj known
    · cases known
  rw [scanEscape]
  simp only [letter, long, sized, taken, valid, if_true, denoted, ofCode_unit known, ok_bind]
  rfl

/-- A one-letter escape stands for its character. -/
theorem scanEscape_letter {c d : Char} (known : Json.shortEscape? c = some d)
    (shown : here.rest = '\\' :: c :: rest) :
    ∃ there, scanEscape here = .ok ([d], there) ∧ here.Passes ['\\', c] there := by
  have first := passes_next shown
  have second := passes_next (first.rest_eq shown)
  have letter : here.next.peek = c := peek_of_rest (first.rest_eq shown)
  refine ⟨_, ?_, first.trans second⟩
  rw [scanEscape]
  simp only [letter, escapeChar?_of_short known]

/-! ### The text of a quoted scalar -/

variable {fuel : Nat}

theorem scanQuotedText_close (shown : here.rest = '"' :: rest) :
    scanQuotedText true (fuel + 1) here = .ok ([], here.next) := by
  rw [scanQuotedText, peek_of_rest shown]
  rfl

theorem scanQuotedText_escape (shown : here.rest = '\\' :: rest) :
    scanQuotedText true (fuel + 1) here = (do
      let (piece, after) ← scanEscape here
      let (text, after) ← scanQuotedText true fuel after
      .ok (piece ++ text, after)) := by
  rw [scanQuotedText, peek_of_rest shown]
  rfl

theorem scanQuotedText_gap {c : Char} (shown : here.rest = c :: rest)
    (gap : c = ' ' ∨ isSeparator c = true) :
    scanQuotedText true (fuel + 1) here = (do
      let (piece, after) ← scanQuotedSpace here
      let (text, after) ← scanQuotedText true fuel after
      .ok (piece ++ text, after)) := by
  rw [isSeparator, Bool.or_eq_true, beq_iff_eq, beq_iff_eq] at gap
  rw [scanQuotedText, peek_of_rest shown]
  rcases gap with rfl | rfl | rfl <;> rfl

theorem scanQuotedText_plain {c : Char} (shown : here.rest = c :: rest) (unquoted : c ≠ '"')
    (unescaped : c ≠ '\\') (dense : isGap c = false) :
    scanQuotedText true (fuel + 1) here = (do
      let (text, after) ← scanQuotedText true fuel here.next
      .ok (c :: text, after)) := by
  rw [scanQuotedText, peek_of_rest shown]
  simp [unquoted, unescaped, dense]

/-- A character of a string is no gap unless it is a space or a separator. -/
theorem isGap_of_common {c : Char} (common : isCommonChar c = true) (printed : 0x20 ≤ c.toNat)
    (dense : c ≠ ' ') (whole : isSeparator c = false) : isGap c = false := by
  by_contra gap
  simp only [isGap, isSpaceOrEnd, isLineEnd, isBreak, Bool.not_eq_false, Bool.or_eq_true,
    beq_iff_eq] at gap
  rcases gap with rfl | rfl | rfl | (((rfl | rfl) | rfl) | rfl) | rfl
  · cases common
  · exact dense rfl
  · exact absurd printed (by decide)
  · exact absurd printed (by decide)
  · exact absurd printed (by decide)
  · cases common
  · cases whole
  · cases whole

theorem printed_of_isHexDigit {c : Char} (digit : Text.isHexDigit c = true) : 0x20 ≤ c.toNat := by
  simp only [Text.isHexDigit, Text.isDigit, Bool.or_eq_true, Bool.and_eq_true, decide_eq_true_eq,
    Char.le_def, UInt32.le_iff_toNat_le, Char.reduceVal, UInt32.reduceToNat] at digit
  rw [Char.toNat]
  omega

/-- No character of a string is a control character. -/
theorem printed_of_spells (spells : Spells body codes) : ∀ c ∈ body, 0x20 ≤ c.toNat := by
  induction spells with
  | nil => exact List.forall_mem_nil _
  | unit known _ ih =>
      have hex := Json.isHexDigit_of_unit? known
      simp only [List.forall_mem_cons, List.not_mem_nil, false_implies, implies_true, and_true]
        at hex ⊢
      exact ⟨by decide, by decide, printed_of_isHexDigit hex.1, printed_of_isHexDigit hex.2.1,
        printed_of_isHexDigit hex.2.2.1, printed_of_isHexDigit hex.2.2.2, ih⟩
  | letter known _ ih =>
      simp only [List.forall_mem_cons]
      refine ⟨by decide, ?_, ih⟩
      rw [Json.shortEscape?.eq_def] at known
      split at known <;> first | decide | cases known
  | plain _ _ printed _ ih => exact List.forall_mem_cons.mpr ⟨printed, ih⟩

/-- No line ends inside of a string without separators. -/
theorem unbroken_of_common (common : CommonBody body codes)
    (whole : ∀ c ∈ body, isSeparator c = false) : ∀ c ∈ body, isBreak c = false := by
  intro c member
  have printed := printed_of_spells common.spells c member
  by_cases space : c = ' '
  · rw [space]
    rfl
  · have dense := isGap_of_common (common.chars c member) printed space (whole c member)
    exact (isGap_eq_false_iff.mp dense).2.2.2

/-- A string goes on with its closing quote or with a character that is no gap, behind gaps. -/
theorem dense_of_common (common : CommonBody body codes)
    (dense : ∀ c ∈ body.head?, c ≠ ' ' ∧ isSeparator c = false) :
    ∀ c ∈ (body ++ '"' :: rest).head?, isGap c = false := by
  intro c first
  cases body with
  | nil => obtain rfl := Option.some.inj first; rfl
  | cons d body =>
      obtain rfl := Option.some.inj first
      exact isGap_of_common (common.chars _ List.mem_cons_self)
        (printed_of_spells common.spells _ List.mem_cons_self) (dense _ rfl).1 (dense _ rfl).2

/-! ### White space of a string -/

/-- A string begins with as many characters of a class as it can. -/
theorem exists_run (p : Char → Bool) {c : Char} (first : p c = true) (body : List Char) :
    ∃ run later, c :: body = c :: run ++ later ∧ (∀ d ∈ c :: run, p d = true) ∧
      (∀ d ∈ later.head?, p d = false) ∧ later.length ≤ body.length := by
  refine ⟨body.takeWhile p, body.dropWhile p, ?_, ?_, fun d head => ?_,
    (List.dropWhile_suffix _).length_le⟩
  · rw [List.cons_append, List.takeWhile_append_dropWhile]
  · exact List.forall_mem_cons.mpr ⟨first, List.all_eq_true.mp List.all_takeWhile⟩
  · have stopped := List.head?_dropWhile_not p body
    rw [Option.mem_def.mp head] at stopped
    simpa using stopped

theorem keepsLines_last {run : List Char} (some : run ≠ [])
    (keeps : keepsLines (run ++ body) = true) : ∃ last ∈ run, keepsLines (last :: body) = true := by
  rw [← List.dropLast_append_getLast some, List.append_assoc] at keeps
  exact ⟨_, List.getLast_mem some, Json.keepsLines_append keeps⟩

/-- A run of spaces in a string is scanned as it stands. -/
theorem scanQuotedSpace_eq {run : List Char} (spaces : ∀ c ∈ run, c = ' ')
    (shown : here.rest = run ++ rest) (dense : ∀ c ∈ rest.head?, isGap c = false)
    (more : rest ≠ []) :
    ∃ there, scanQuotedSpace here = .ok (run, there) ∧ here.Passes run there := by
  have white : ∀ c ∈ run, (c == ' ' || c == '\t') = true := fun c member => by
    rw [spaces c member]
    rfl
  have ends : ∀ c ∈ rest.head?, (c == ' ' || c == '\t') = false := by
    intro c first
    obtain ⟨tabless, spaceless, _⟩ := isGap_eq_false_iff.mp (dense c first)
    rw [tabless, spaceless]
    rfl
  obtain ⟨there, taken, passes⟩ := takeWhile_eq shown white ends
  refine ⟨there, ?_, passes⟩
  cases rest with
  | nil => exact absurd rfl more
  | cons d rest =>
      rw [scanQuotedSpace, taken]
      simp only [peek_of_rest (passes.rest_eq shown), isGap_eq_false_iff.mp (dense d rfl),
        Bool.false_eq_true, if_false]

/-! ### Lines of a string -/

/-- A document marker in front of a closing quote stands all in front of it. -/
theorem atDocumentMarker_eq (shown : here.rest = body ++ '"' :: rest) :
    here.atDocumentMarker = startsMarker body := by
  have quote : isGap '"' = false := rfl
  rw [atDocumentMarker, atMarker, atMarker, peek, peekAt, peekAt, peekAt, shown]
  rcases body with _ | ⟨a, _ | ⟨b, _ | ⟨c, _ | ⟨d, more⟩⟩⟩⟩
  · rfl
  · simp [startsMarker]
  · simp [startsMarker]
  · simp [startsMarker, quote]
  · by_cases dashes : a = '-'
    · simp [startsMarker, dashes]
    · by_cases dots : a = '.'
      · simp [startsMarker, dots]
      · have plain : (a == '-') = false ∧ (a == '.') = false := by simp [dashes, dots]
        simp [startsMarker, plain]

/-- What YAML keeps at the start of a line does not begin with white space. -/
theorem solid_of_startsLine (starts : startsLine body = true)
    (common : ∀ c ∈ body, isCommonChar c = true) :
    ∀ c ∈ (body ++ '"' :: rest).head?, (c == ' ' || c == '\t') = false := by
  intro c first
  cases body with
  | nil => obtain rfl := Option.some.inj first; rfl
  | cons d body =>
      obtain rfl := Option.some.inj first
      have char := common d List.mem_cons_self
      have spaceless : d ≠ ' ' := by
        rintro rfl
        cases starts
      have tabless : d ≠ '\t' := by
        rintro rfl
        cases char
      simp [spaceless, tabless]

theorem eq_of_isSeparator {c : Char} (separator : isSeparator c = true) :
    c = '\u2028' ∨ c = '\u2029' := by
  simpa [isSeparator] using separator

theorem isBreak_of_separator {c : Char} (separator : isSeparator c = true) : isBreak c = true := by
  rcases eq_of_isSeparator separator with rfl | rfl <;> rfl

theorem lineBreak_separator {c : Char} (separator : isSeparator c = true)
    (shown : here.rest = c :: rest) : here.lineBreak = ([c], here.next) := by
  rw [lineBreak.eq_def, shown]
  rcases eq_of_isSeparator separator with rfl | rfl <;> rfl

theorem isBreak_peek (ends : ∀ c ∈ here.rest.head?, isBreak c = false) :
    isBreak here.peek = false := by
  rw [peek]
  cases shown : here.rest with
  | nil => rfl
  | cons c rest => exact ends c (by rw [shown]; rfl)

/-- Separators that follow each other in a string are the ends of lines, and stay in it. -/
theorem quotedBreaks_eq {run : List Char} (separators : ∀ c ∈ run, isSeparator c = true)
    (chars : ∀ c ∈ run ++ body, isCommonChar c = true) (keeps : keepsLines (run ++ body) = true)
    (starts : startsLine (run ++ body) = true)
    (ends : ∀ c ∈ (body ++ '"' :: rest).head?, isBreak c = false)
    (shown : here.rest = run ++ body ++ '"' :: rest) (enough : run.length < fuel) :
    ∃ there, quotedBreaks fuel here = .ok (run.map ([·]), there) ∧ here.Passes run there := by
  induction fuel generalizing here run with
  | zero => cases enough
  | succ fuel ih =>
      have unmarked : here.atDocumentMarker = false := by
        rw [startsLine, Bool.and_eq_true, Bool.not_eq_true'] at starts
        rw [atDocumentMarker_eq shown, starts.2]
      have still : here.skipWhile (fun c => c == ' ' || c == '\t') = here := by
        rw [skipWhile, takeWhile_none (by rw [shown]; exact solid_of_startsLine starts chars)]
      rw [quotedBreaks, unmarked, still, if_neg Bool.false_ne_true]
      cases run with
      | nil =>
          have unbroken := isBreak_peek (by rw [shown]; exact ends)
          refine ⟨here, ?_, .refl here⟩
          simp only [unbroken, Bool.false_eq_true, if_false, List.map_nil]
      | cons c run =>
          rw [List.forall_mem_cons] at separators
          have first := passes_next shown
          rw [List.cons_append, keepsLines, Bool.and_eq_true, Bool.and_eq_true, separators.1] at keeps
          obtain ⟨there, found, second⟩ := ih separators.2
            (fun d member => chars d (List.mem_cons_of_mem _ member)) keeps.2
            (by simpa using keeps.1.1) (first.rest_eq shown) (by simpa using enough)
          refine ⟨there, ?_, first.trans second⟩
          simp only [peek_of_rest shown, isBreak_of_separator separators.1, if_true,
            lineBreak_separator separators.1 shown, found, ok_bind]
          rfl

/-- A run of separators in a string is scanned as it stands. -/
theorem scanQuotedSpace_separators {c : Char} {run : List Char}
    (separators : ∀ d ∈ c :: run, isSeparator d = true)
    (chars : ∀ d ∈ c :: run ++ body, isCommonChar d = true)
    (keeps : keepsLines (c :: run ++ body) = true)
    (ends : ∀ d ∈ (body ++ '"' :: rest).head?, isBreak d = false)
    (counted : here.left = here.rest.length) (shown : here.rest = c :: run ++ body ++ '"' :: rest) :
    ∃ there, scanQuotedSpace here = .ok (c :: run, there) ∧ here.Passes (c :: run) there := by
  rw [List.forall_mem_cons] at separators
  rw [List.cons_append, keepsLines, Bool.and_eq_true, Bool.and_eq_true, separators.1] at keeps
  have first := passes_next shown
  have behind : here.next.rest = run ++ body ++ '"' :: rest := first.rest_eq shown
  have enough : run.length < here.next.left + 1 := by
    rw [first.left counted, behind, List.append_assoc, List.length_append]
    omega
  obtain ⟨there, found, second⟩ := quotedBreaks_eq separators.2
    (fun d member => chars d (List.mem_cons_of_mem _ member)) keeps.2 (by simpa using keeps.1.1)
    ends behind enough
  refine ⟨there, ?_, first.trans second⟩
  have white : ∀ d ∈ here.rest.head?, (d == ' ' || d == '\t') = false := by
    rw [shown]
    rintro _ ⟨⟩
    rcases eq_of_isSeparator separators.1 with rfl | rfl <;> rfl
  have apart : (c == '\x00') = false ∧ ([c] != ['\n']) = true := by
    rcases eq_of_isSeparator separators.1 with rfl | rfl <;> decide
  rw [scanQuotedSpace, takeWhile_none white]
  simp only [peek_of_rest shown, apart, isBreak_of_separator separators.1,
    lineBreak_separator separators.1 shown, found, ok_bind, Bool.false_eq_true, if_true, if_false]
  rw [← List.flatMap_def, List.flatMap_singleton', List.singleton_append]

/-- Where spaces end, and where separators do, a string goes on with neither. -/
theorem dense_of_last {last : Char} (keeps : keepsLines (last :: body) = true)
    (common : CommonBody body codes)
    (ends : last = ' ' ∧ (∀ c ∈ body.head?, (c == ' ') = false) ∨
      isSeparator last = true ∧ ∀ c ∈ body.head?, isSeparator c = false) :
    ∀ c ∈ (body ++ '"' :: rest).head?, isGap c = false := by
  rw [keepsLines, Bool.and_eq_true, Bool.and_eq_true] at keeps
  refine dense_of_common common fun c first => ?_
  rcases ends with ⟨rfl, spaceless⟩ | ⟨separator, whole⟩
  · refine ⟨by simpa using spaceless c first, ?_⟩
    have kept := keeps.1.2
    rw [Option.mem_def.mp first] at kept
    simpa using kept
  · refine ⟨?_, whole c first⟩
    have kept := keeps.1.1
    rw [separator, startsLine, Option.mem_def.mp first] at kept
    rintro rfl
    cases kept

/-- White space in front of a string that JSON and YAML have in common is scanned as it stands. -/
theorem scanQuotedSpace_common {c : Char} (common : CommonBody (c :: body) codes)
    (gap : c = ' ' ∨ isSeparator c = true) (counted : here.left = here.rest.length)
    (shown : here.rest = c :: body ++ '"' :: rest) :
    ∃ run later, c :: body = run ++ later ∧ ∃ there,
      scanQuotedSpace here = .ok (run, there) ∧ here.Passes run there ∧
        (∀ d ∈ run, d ≠ '\\') ∧ later.length ≤ body.length := by
  rcases gap with rfl | separator
  · obtain ⟨run, later, together, spaces, ends, short⟩ :=
      exists_run (· == ' ') (beq_self_eq_true ' ') body
    have same : ∀ d ∈ ' ' :: run, d = ' ' := by simpa using spaces
    have plain : ∀ d ∈ ' ' :: run, d ≠ '\\' := fun d member => by rw [same d member]; decide
    rw [together] at shown common
    obtain ⟨others, _, behind⟩ := common.run plain
    obtain ⟨last, member, keeps⟩ := keepsLines_last (List.cons_ne_nil _ _) common.lines
    obtain ⟨there, piece, passes⟩ := scanQuotedSpace_eq same (by rw [shown, List.append_assoc])
      (dense_of_last keeps behind (.inl ⟨same last member, ends⟩)) (by simp)
    exact ⟨_, later, together, there, piece, passes, plain, short⟩
  · obtain ⟨run, later, together, separators, ends, short⟩ :=
      exists_run isSeparator separator body
    have plain : ∀ d ∈ c :: run, d ≠ '\\' := fun d member => by
      rcases eq_of_isSeparator (separators d member) with rfl | rfl <;> decide
    rw [together] at shown common
    obtain ⟨others, _, behind⟩ := common.run plain
    obtain ⟨last, member, keeps⟩ := keepsLines_last (List.cons_ne_nil _ _) common.lines
    have unbroken : ∀ d ∈ (later ++ '"' :: rest).head?, isBreak d = false := by
      intro d first
      have dense := dense_of_last keeps behind (.inr ⟨separators last member, ends⟩) d first
      exact (isGap_eq_false_iff.mp dense).2.2.2
    obtain ⟨there, piece, passes⟩ :=
      scanQuotedSpace_separators separators common.chars common.lines unbroken counted shown
    exact ⟨_, later, together, there, piece, passes, plain, short⟩

/-- The text of a string is scanned up to its closing quote. -/
theorem scanQuotedText_eq (common : CommonBody body codes) (counted : here.left = here.rest.length)
    (shown : here.rest = body ++ '"' :: rest) (enough : body.length < fuel) :
    ∃ there, scanQuotedText true fuel here = .ok (codes.map Json.ofCodes.single, there) ∧
      here.Passes (body ++ ['"']) there := by
  -- Each turn takes a piece off the front: an escape, a run of gaps or one other character.
  induction fuel generalizing here body codes with
  | zero => cases enough
  | succ fuel ih =>
      cases common.spells with
      | nil => exact ⟨_, scanQuotedText_close shown, passes_next shown⟩
      | @unit a b c d code body codes known others =>
          obtain ⟨between, piece, first⟩ := scanEscape_unit known shown
          have later := common.behind ['\\', 'u', a, b, c, d] others
          obtain ⟨there, text, second⟩ := ih later (first.left counted) (first.rest_eq shown)
            (by simp at enough; omega)
          refine ⟨there, ?_, first.trans second⟩
          rw [scanQuotedText_escape shown, piece, ok_bind]
          simp only [text, ok_bind]
          rfl
      | @letter c d body codes known others =>
          obtain ⟨between, piece, first⟩ := scanEscape_letter known shown
          have later := common.behind ['\\', c] others
          obtain ⟨there, text, second⟩ := ih later (first.left counted) (first.rest_eq shown)
            (by simp at enough; omega)
          refine ⟨there, ?_, first.trans second⟩
          rw [scanQuotedText_escape shown, piece, ok_bind]
          simp only [text, ok_bind, List.map_cons, Json.single_toNat]
          rfl
      | @plain c body codes unquoted unescaped printed others =>
          by_cases gap : c = ' ' ∨ isSeparator c = true
          · obtain ⟨run, later, together, between, piece, first, plain, short⟩ :
                ∃ run later, c :: body = run ++ later ∧ ∃ between,
                  scanQuotedSpace here = .ok (run, between) ∧ here.Passes run between ∧
                    (∀ d ∈ run, d ≠ '\\') ∧ later.length ≤ body.length :=
              scanQuotedSpace_common common gap counted shown
            have step : scanQuotedText true (fuel + 1) here = _ := scanQuotedText_gap shown gap
            rw [together] at shown common ⊢
            obtain ⟨others, same, rest⟩ := common.run plain
            obtain ⟨there, text, second⟩ := ih rest (first.left counted)
              (first.rest_eq (by rw [shown, List.append_assoc])) (by simp at enough; omega)
            refine ⟨there, ?_, ?_⟩
            · rw [step, piece, ok_bind]
              simp only [text, ok_bind, same]
            · rw [List.append_assoc]
              exact first.trans second
          · rw [not_or, Bool.not_eq_true] at gap
            have dense := isGap_of_common (common.chars c List.mem_cons_self) printed gap.1 gap.2
            have first := passes_next shown
            obtain ⟨there, text, second⟩ := ih (common.behind [c] others) (first.left counted)
              (first.rest_eq shown) (by simp at enough; omega)
            refine ⟨there, ?_, first.trans second⟩
            rw [scanQuotedText_plain shown unquoted unescaped dense]
            simp only [text, ok_bind, List.map_cons, Json.single_toNat]

/-- A string is scanned as a scalar with its characters. -/
theorem scanQuoted_eq (common : CommonBody body codes) (apart : Json.hasPair codes = false)
    (counted : here.left = here.rest.length) (shown : here.rest = '"' :: (body ++ '"' :: rest)) :
    ∃ there, scanQuoted here = .ok (.scalar (String.ofList (Json.ofCodes codes)) false, there) ∧
      here.Passes ('"' :: (body ++ ['"'])) there := by
  have first := passes_next shown
  have enough : body.length < here.left + 1 := by
    rw [counted, shown]
    simp
    omega
  obtain ⟨there, text, second⟩ :=
    scanQuotedText_eq common (first.left counted) (first.rest_eq shown) enough
  refine ⟨there, ?_, first.trans second⟩
  have quoted : (here.peek == '"') = true := by rw [peek_of_rest shown]; rfl
  rw [scanQuoted, quoted, text, Json.ofCodes_eq_map apart]
  rfl

/-! ## Plain scalars -/

/-- A text that begins with a mark of a flow collection. -/
def Closes (text : List Char) : Prop := ∃ d more, text = d :: more ∧ isFlowMark d = true

theorem Closes.ends_or_blank {gap : List Char} (closes : Closes rest)
    (blank : ∀ c ∈ gap, isBlank c = true) :
    ∃ c more, gap ++ rest = c :: more ∧ (isBlank c = true ∨ isFlowMark c = true) := by
  cases gap with
  | nil =>
      obtain ⟨d, more, rfl, mark⟩ := closes
      exact ⟨d, more, rfl, Or.inr mark⟩
  | cons c gap => exact ⟨c, gap ++ rest, rfl, Or.inl (blank c List.mem_cons_self)⟩

theorem eq_of_isBlank {c : Char} (blank : isBlank c = true) : c = ' ' ∨ c = '\n' ∨ c = '\r' := by
  simpa [isBlank, or_assoc] using blank

theorem isFlowMark_cases {c : Char} (mark : isFlowMark c = true) :
    c = ',' ∨ c = '[' ∨ c = ']' ∨ c = '{' ∨ c = '}' := by
  simpa [isFlowMark, or_assoc] using mark

theorem solid_of_isFlowMark {c : Char} (mark : isFlowMark c = true) :
    (c == ' ') = false ∧ isBreak c = false := by
  rcases isFlowMark_cases mark with rfl | rfl | rfl | rfl | rfl <;> decide

/-- No document marker stands in front of a blank or a mark. -/
theorem atDocumentMarker_eq_false {gap : List Char} (closes : Closes rest)
    (blank : ∀ c ∈ gap, isBlank c = true) (shown : here.rest = gap ++ rest) :
    here.atDocumentMarker = false := by
  obtain ⟨c, more, same, either⟩ := closes.ends_or_blank blank
  rw [atDocumentMarker, atMarker, atMarker, peek_of_rest (shown.trans same)]
  rcases either with blank | mark
  · rcases eq_of_isBlank blank with rfl | rfl | rfl <;> rfl
  · rcases isFlowMark_cases mark with rfl | rfl | rfl | rfl | rfl <;> rfl

theorem Closes.begins (closes : Closes rest) : Begins rest := by
  obtain ⟨d, more, rfl, mark⟩ := closes
  intro c first
  obtain rfl := Option.some.inj first
  rcases isFlowMark_cases mark with rfl | rfl | rfl | rfl | rfl <;> decide

theorem plainBreaks_eq {gap : List Char} {fuel : Nat} (closes : Closes rest)
    (blank : ∀ c ∈ gap, isBlank c = true) (shown : here.rest = gap ++ rest)
    (enough : gap.length < fuel) :
    ∃ breaks there, plainBreaks fuel here = (some breaks, there) ∧ here.Passes gap there := by
  induction fuel generalizing here gap with
  | zero => cases enough
  | succ fuel ih =>
      rw [plainBreaks]
      cases gap with
      | nil =>
          obtain ⟨d, more, rfl, mark⟩ := closes
          have solid := solid_of_isFlowMark mark
          rw [peek_of_rest shown, solid.1, solid.2]
          exact ⟨[], here, rfl, .refl here⟩
      | cons c gap =>
          have shorter : gap.length < fuel := by simpa using enough
          rcases eq_of_isBlank (blank c List.mem_cons_self) with space | broken
          · subst space
            have first := passes_next shown
            obtain ⟨breaks, there, found, second⟩ :=
              ih (fun d member => blank d (List.mem_cons_of_mem _ member)) (first.rest_eq shown)
                shorter
            rw [peek_of_rest shown]
            exact ⟨breaks, there, found, first.trans second⟩
          · obtain ⟨between, run, later, line, divided, first, behind, short⟩ :=
              lineBreak_eq shown broken closes.begins
            rw [divided, List.forall_mem_append] at blank
            obtain ⟨breaks, there, found, second⟩ := ih blank.2 behind (by omega)
            have solid : (c == ' ') = false ∧ isBreak c = true := by
              rcases broken with rfl | rfl <;> decide
            rw [peek_of_rest shown, solid.1, solid.2, line, divided]
            refine ⟨['\n'] :: breaks, there, ?_, first.trans second⟩
            simp only [Bool.false_eq_true, if_false, if_true,
              atDocumentMarker_eq_false closes blank.2 behind, found, Option.map_some]

/-- The blanks behind a plain scalar are gone over together. -/
theorem plainSpace_eq {gap : List Char} (closes : Closes rest)
    (blank : ∀ c ∈ gap, isBlank c = true) (counted : here.left = here.rest.length)
    (shown : here.rest = gap ++ rest) :
    ∃ text ended there, plainSpace here = (text, ended, there) ∧ here.Passes gap there := by
  obtain ⟨spaces, others, rfl, white, broken, ends⟩ := exists_spaces blank closes.begins
  rw [List.forall_mem_append] at blank
  rw [List.append_assoc] at shown
  obtain ⟨between, taken, first⟩ := takeWhile_eq shown white fun c first => (ends c first).1
  have behind := first.rest_eq shown
  rw [plainSpace, taken]
  cases others with
  | nil =>
      obtain ⟨d, more, rfl, mark⟩ := closes
      refine ⟨spaces, false, between, ?_, by rwa [List.append_nil]⟩
      simp only [peek_of_rest behind, (solid_of_isFlowMark mark).2, Bool.false_eq_true, if_false]
  | cons c others =>
      have newline := broken c rfl
      have line : isBreak c = true := by rcases newline with rfl | rfl <;> rfl
      obtain ⟨next, run, later, found, divided, second, left, short⟩ :=
        lineBreak_eq behind newline closes.begins
      rw [divided, List.forall_mem_append] at blank
      have size : next.left = next.rest.length := second.left (first.left counted)
      have enough : later.length < next.left + 1 := by
        rw [size, left, List.length_append]
        omega
      obtain ⟨breaks, there, skipped, third⟩ := plainBreaks_eq closes blank.2.2 left enough
      refine ⟨(if breaks.isEmpty then [' '] else []) ++ breaks.flatten, true, there, ?_, ?_⟩
      · simp only [peek_of_rest behind, line, if_true, found,
          atDocumentMarker_eq_false closes blank.2.2 left, skipped, Bool.false_eq_true, if_false,
          bne_self_eq_false]
      · rw [divided]
        exact first.trans (second.trans third)

/-- A character of a number or a constant. -/
def isWordChar (c : Char) : Bool := Text.isAlphanumeric c || c == '-' || c == '+' || c == '.'

/-- The characters that end a plain scalar, or keep it from starting. -/
def endings : List Char :=
  [' ', '\t', '\x00', '\n', '\r', '\x85', '\u2028', '\u2029', ':', '?', '#', ',', '[', ']', '{',
    '}']

theorem notMem_endings {c : Char} (letter : isWordChar c = true) : c ∉ endings := by
  have none : ∀ d ∈ endings, isWordChar d = false := Text.forall_mem_of_all (by decide)
  intro member
  rw [none c member] at letter
  cases letter

/-- A plain scalar goes on with the characters of a word. -/
theorem endsPlain_eq_false {c next : Char} (letter : isWordChar c = true) :
    endsPlain true c next = false := by
  have apart := notMem_endings letter
  simp only [endings, List.mem_cons, not_or] at apart
  simp [endsPlain, isGap, isSpaceOrEnd, isLineEnd, isBreak, isFlowMark, apart]

theorem plainLength_eq {letters : List Char} (all : ∀ c ∈ letters, isWordChar c = true)
    (ends : ∃ c more, rest = c :: more ∧ (isBlank c = true ∨ isFlowMark c = true)) :
    plainLength true (letters ++ rest) = letters.length := by
  induction letters with
  | nil =>
      obtain ⟨c, more, rfl, either⟩ := ends
      have ended : ∀ next, endsPlain true c next = true := fun next => by
        rcases either with blank | mark
        · rcases eq_of_isBlank blank with rfl | rfl | rfl <;> rfl
        · simp [endsPlain, mark]
      rw [List.nil_append, plainLength, ended, if_pos rfl, List.length_nil]
  | cons c letters ih =>
      rw [List.forall_mem_cons] at all
      rw [List.cons_append, plainLength, endsPlain_eq_false all.1, if_neg Bool.false_ne_true,
        ih all.2, List.length_cons]

/-- A word is scanned as a plain scalar, together with the blanks behind it. -/
theorem scanPlain_eq {letters gap : List Char} (indent : Int) (some : letters ≠ [])
    (all : ∀ c ∈ letters, isWordChar c = true) (closes : Closes rest)
    (blank : ∀ c ∈ gap, isBlank c = true) (counted : here.left = here.rest.length)
    (shown : here.rest = letters ++ (gap ++ rest)) :
    ∃ ended there,
      scanPlain true indent here = (.scalar (String.ofList letters) true, ended, there) ∧
      here.Passes (letters ++ gap) there := by
  have first := passes_skip shown
  obtain ⟨text, ended, there, space, second⟩ :=
    plainSpace_eq closes blank (first.left counted) (first.rest_eq shown)
  have behind : there.rest = rest := second.rest_eq (first.rest_eq shown)
  have last : ∀ fuel, plainParts true indent (fuel + 1) text ended there = ([], ended, there) := by
    have stopped : plainLength true there.rest = 0 := by
      rw [behind]
      exact plainLength_eq (List.forall_mem_nil _) (closes.ends_or_blank (List.forall_mem_nil _))
    intro fuel
    rw [plainParts, stopped]
    simp
  refine ⟨ended, there, ?_, first.trans second⟩
  have length : (if here.peek == '#' then 0 else plainLength true here.rest) = letters.length := by
    cases letters with
    | nil => exact absurd rfl some
    | cons c letters =>
        have apart := notMem_endings (all c List.mem_cons_self)
        simp only [endings, List.mem_cons, not_or] at apart
        have uncommented : (c == '#') = false := by simp [apart]
        rw [peek_of_rest shown, uncommented, if_neg Bool.false_ne_true, shown,
          plainLength_eq all (closes.ends_or_blank blank)]
  obtain ⟨fuel, enough⟩ : ∃ fuel, here.left = fuel + 1 := by
    refine Nat.exists_eq_add_one.mpr ?_
    rw [counted, shown, List.length_append]
    exact Nat.add_pos_left (List.length_pos_of_ne_nil some) _
  have taken : here.rest.take letters.length = letters := by rw [shown, List.take_left]
  have positive : letters.length ≠ 0 := fun none => some (List.length_eq_zero_iff.mp none)
  have parts : plainParts true indent (here.left + 1) [] false here = (letters, ended, there) := by
    rw [enough, plainParts, length]
    simp only [positive, if_false, space, taken, last]
    split <;> simp
  rw [scanPlain, parts]

end ClientGen.Yaml
