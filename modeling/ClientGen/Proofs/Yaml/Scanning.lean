import ClientGen.Proofs.Json.Quoting
import ClientGen.Proofs.Result
import ClientGen.Yaml.TokenStream
import Mathlib.Algebra.Group.Nat.Defs

/-!
# Where scanners end

A scanner only moves forward in its text. The one thing in a text that it cannot take although no
rule is broken is an escape by eight digits for a code point beyond the last plane.
-/

namespace ClientGen.Yaml

variable {α β : Type} {text : List Char} {cursor after : Cursor}

/-! ## Places -/

/-- A place of a text. -/
def Cursor.On (text : List Char) (cursor : Cursor) : Prop := cursor.rest <:+ text

namespace Cursor

theorem on_start (text : List Char) : (start text).On text := List.suffix_refl text

theorem on_next (here : cursor.On text) : cursor.next.On text := by
  rw [next]
  split
  · exact here
  · next c rest shown =>
      have behind : rest <:+ text := (List.suffix_cons c rest).trans (shown ▸ here)
      split <;> exact behind

theorem on_skip (here : cursor.On text) (distance : Nat) : (cursor.skip distance).On text := by
  induction distance generalizing cursor with
  | zero => exact here
  | succ distance ih => exact ih (on_next here)

theorem on_takeWhile (here : cursor.On text) (p : Char → Bool) : (cursor.takeWhile p).2.On text :=
  on_skip here _

theorem on_skipWhile (here : cursor.On text) (p : Char → Bool) : (cursor.skipWhile p).On text :=
  on_takeWhile here p

theorem on_skipSpaces (here : cursor.On text) : cursor.skipSpaces.On text := on_skipWhile here _

theorem on_skipComment (here : cursor.On text) : cursor.skipComment.On text := by
  rw [skipComment]
  split
  · exact on_skipWhile here _
  · exact here

theorem on_lineBreak (here : cursor.On text) : cursor.lineBreak.2.On text := by
  rw [lineBreak.eq_def]
  split
  · exact on_skip here 2
  · split
    · exact on_next here
    · split
      · exact on_next here
      · exact here
  · exact here

end Cursor

open Cursor

/-! ## Escapes -/

/-- A text with an escape by eight digits for a code that is no code point, and the fault of
converting the code. -/
def HasEscape (text : List Char) (fault : Fault) : Prop :=
  ∃ digits, '\\' :: 'U' :: digits <:+: text ∧ digits.length = 8 ∧
    digits.all Text.isHexDigit = true ∧ ofCode (Json.hexValue 0 digits) = .error (.impossible fault)

/-- A reason to give a text up: a broken rule or an escape in it. -/
def IsReason (text : List Char) : YamlFault → Prop
  | .malformed _ => True
  | .impossible fault => HasEscape text fault

/-- A scanner that stays on its text and gives it up only for what is in it. -/
abbrev Scans (text : List Char) (result : Except YamlFault (α × Cursor)) : Prop :=
  Yields (fun found => found.2.On text) (IsReason text) result

/-- A token that is no reason to give the text up, or one that is in it. -/
def IsSound (text : List Char) (token : Token) : Prop :=
  ∀ reason, token = .broken reason → IsReason text reason

/-- A scanner of tokens. -/
abbrev ScansToken (text : List Char) (result : Except YamlFault (Token × Cursor)) : Prop :=
  Yields (fun found => IsSound text found.1 ∧ found.2.On text) (IsReason text) result

section

variable {results : α → Prop}

theorem yields_refuse (rule : String) : Yields results (IsReason text) (refuse rule) :=
  yields_error trivial

theorem yields_ok_or_refuse {condition : Prop} [Decidable condition] {value : α}
    (holds : results value) (rule : String) :
    Yields results (IsReason text) (if condition then .ok value else refuse rule) := by
  split
  · exact yields_ok holds
  · exact yields_refuse rule

theorem yields_refuse_or_ok {condition : Prop} [Decidable condition] {value : α}
    (holds : results value) (rule : String) :
    Yields results (IsReason text) (if condition then refuse rule else .ok value) := by
  split
  · exact yields_refuse rule
  · exact yields_ok holds

end

theorem scans_ok_or_refuse {condition : Prop} [Decidable condition] (found : α)
    (behind : after.On text) (rule : String) :
    Scans text (if condition then .ok (found, after) else refuse rule) := by
  refine yields_ok_or_refuse ?_ rule
  exact behind

theorem scans_refuse_or_ok {condition : Prop} [Decidable condition] (found : α)
    (behind : after.On text) (rule : String) :
    Scans text (if condition then refuse rule else .ok (found, after)) := by
  refine yields_refuse_or_ok ?_ rule
  exact behind

theorem Scans.bind {results : β → Prop} {first : Except YamlFault (α × Cursor)}
    {next : α × Cursor → Except YamlFault β} (scans : Scans text first)
    (later : ∀ found after, Cursor.On text after →
      Yields results (IsReason text) (next (found, after))) :
    Yields results (IsReason text) (first >>= next) :=
  Yields.bind scans fun found => later found.1 found.2

/-! ## Names and tags -/

theorem scans_name (here : cursor.On text) : Scans text (scanName cursor) := by
  have behind := on_takeWhile (on_next here) isNameChar
  rw [scanName]
  dsimp only
  split
  · exact yields_refuse _
  · exact scans_ok_or_refuse _ behind _

theorem scansToken_named {token : String → Token} (sound : ∀ name, IsSound text (token name))
    (here : cursor.On text) : ScansToken text (scanNamed token cursor) := by
  rw [scanNamed]
  exact (scans_name here).map fun found behind => ⟨sound found.1, behind⟩

theorem yields_percentOctets (text escaped : List Char) :
    Yields (fun _ => True) (IsReason text) (percentOctets escaped) := by
  fun_induction percentOctets escaped with
  | case1 high low rest octet known ih => exact ih.map fun _ _ => trivial
  | case2 => exact yields_refuse _
  | case3 => exact yields_refuse _
  | case4 => exact yields_ok trivial

theorem scans_addressPieces (fuel : Nat) (here : cursor.On text) :
    Scans text (scanAddressPieces fuel cursor) := by
  induction fuel generalizing cursor with
  | zero => exact yields_ok here
  | succ fuel ih =>
      rw [scanAddressPieces]
      dsimp only
      split
      · refine (yields_percentOctets text cursor.rest).bind fun octets _ => ?_
        split
        · exact yields_refuse _
        · exact Scans.bind (ih (on_skip here _)) fun pieces after behind => yields_ok behind
      · split
        · exact yields_ok here
        · exact Scans.bind (ih (on_takeWhile here _)) fun pieces after behind => yields_ok behind

theorem scans_address (here : cursor.On text) : Scans text (scanAddress cursor) :=
  Scans.bind (scans_addressPieces _ here) fun _ _ behind => scans_refuse_or_ok _ behind _

theorem scans_handle (here : cursor.On text) : Scans text (scanHandle cursor) := by
  rw [scanHandle]
  dsimp only
  split
  · exact yields_refuse _
  · split
    · exact yields_ok (on_next here)
    · exact scans_ok_or_refuse _ (on_next (on_takeWhile (on_next here) _)) _

theorem scansToken_tag (here : cursor.On text) : ScansToken text (scanTag cursor) := by
  rw [scanTag]
  dsimp only
  split
  · refine Scans.bind (scans_address (on_skip here 2)) fun suffix after behind => ?_
    split
    · exact yields_ok_or_refuse ⟨nofun, on_next behind⟩ _
    · exact yields_refuse _
  · split
    · exact yields_ok_or_refuse ⟨nofun, on_next here⟩ _
    · split
      · refine Scans.bind (scans_handle here) fun handle after behind => ?_
        refine Scans.bind (scans_address behind) fun suffix after behind => ?_
        exact yields_ok_or_refuse ⟨nofun, behind⟩ _
      · rw [ok_bind]
        refine Scans.bind (scans_address (on_next here)) fun suffix after behind => ?_
        exact yields_ok_or_refuse ⟨nofun, behind⟩ _

/-! ## Directives -/

theorem scans_lineRest (here : cursor.On text) : Scans text (scanLineRest cursor) :=
  scans_ok_or_refuse _ (on_lineBreak (on_skipComment (on_skipSpaces here))) _

theorem scans_versionNumber (here : cursor.On text) : Scans text (scanVersionNumber cursor) :=
  scans_refuse_or_ok _ (on_takeWhile here _) _

theorem scansToken_version (here : cursor.On text) : ScansToken text (scanVersion cursor) := by
  rw [scanVersion]
  dsimp only
  refine Scans.bind (scans_versionNumber (on_skipSpaces here)) fun major after behind => ?_
  split
  · exact yields_refuse _
  · refine Scans.bind (scans_versionNumber (on_next behind)) fun minor after behind => ?_
    exact yields_ok_or_refuse ⟨nofun, behind⟩ _

theorem scansToken_tagDirective (here : cursor.On text) :
    ScansToken text (scanTagDirective cursor) := by
  rw [scanTagDirective]
  dsimp only
  refine Scans.bind (scans_handle (on_skipSpaces here)) fun handle after behind => ?_
  split
  · exact yields_refuse _
  · refine Scans.bind (scans_address (on_skipSpaces behind)) fun lead after behind => ?_
    exact yields_ok_or_refuse ⟨nofun, behind⟩ _

/-- The end of the line of a directive. -/
theorem ScansToken.line {first : Except YamlFault (Token × Cursor)}
    (scans : ScansToken text first) :
    ScansToken text (first >>= fun found =>
      scanLineRest found.2 >>= fun line => .ok (found.1, line.2)) :=
  scans.bind fun _ found => Scans.bind (scans_lineRest found.2) fun _ _ behind =>
    yields_ok ⟨found.1, behind⟩

theorem scansToken_directive (here : cursor.On text) : ScansToken text (scanDirective cursor) := by
  have behind := on_takeWhile (on_next here) isNameChar
  rw [scanDirective]
  dsimp only
  split
  · exact yields_refuse _
  · split
    · exact yields_refuse _
    · split
      · exact (scansToken_version behind).line
      · exact (scansToken_tagDirective behind).line
      · exact ScansToken.line (yields_ok ⟨nofun, on_skipWhile behind _⟩)

/-! ## Block scalars -/

theorem on_blockIndicators (here : cursor.On text) : (blockIndicators cursor).2.2.On text := by
  rw [blockIndicators]
  split
  · split
    · exact on_skip here 2
    · exact on_next here
  · split
    · split
      · exact on_skip here 2
      · exact on_next here
    · exact here

theorem on_skipIndent (column fuel : Nat) (here : cursor.On text) :
    (skipIndent column fuel cursor).On text := by
  induction fuel generalizing cursor with
  | zero => exact here
  | succ fuel ih =>
      rw [skipIndent]
      split
      · exact ih (on_next here)
      · exact here

theorem on_blockBreaks (column fuel : Nat) (here : cursor.On text) :
    (blockBreaks column fuel cursor).2.On text := by
  induction fuel generalizing cursor with
  | zero => exact here
  | succ fuel ih =>
      have indented := on_skipIndent column column here
      rw [blockBreaks]
      dsimp only
      split
      · exact ih (on_lineBreak indented)
      · exact indented

theorem on_leadingBreaks (greatest fuel : Nat) (here : cursor.On text) :
    (leadingBreaks greatest fuel cursor).2.2.On text := by
  induction fuel generalizing greatest cursor with
  | zero => exact here
  | succ fuel ih =>
      rw [leadingBreaks]
      dsimp only
      split
      · exact ih _ (on_next here)
      · split
        · exact ih _ (on_lineBreak here)
        · exact here

theorem on_blockLines (folded : Bool) (column fuel : Nat) (breaks : List (List Char))
    (here : cursor.On text) : (blockLines folded column fuel breaks cursor).2.2.2.On text := by
  induction fuel generalizing breaks cursor with
  | zero => exact here
  | succ fuel ih =>
      have ended := on_lineBreak (on_takeWhile here fun c => !isBreak c)
      have next := fun fuel => on_blockBreaks column fuel ended
      rw [blockLines]
      dsimp only
      split
      · split
        · exact ih _ (next _)
        · exact next _
      · exact here

theorem scansToken_blockScalar (indent : Int) (here : cursor.On text) :
    ScansToken text (scanBlockScalar indent cursor) := by
  have indicated := on_blockIndicators (on_next here)
  rw [scanBlockScalar]
  dsimp only
  split
  · exact yields_refuse _
  · split
    · exact yields_refuse _
    · refine Scans.bind (scans_lineRest indicated) fun _ after behind => ?_
      refine yields_ok ⟨nofun, on_blockLines _ _ _ _ ?_⟩
      split
      · exact on_blockBreaks _ _ behind
      · exact on_leadingBreaks _ _ behind

/-! ## Quoted scalars -/

theorem scans_quotedBreaks (fuel : Nat) (here : cursor.On text) :
    Scans text (quotedBreaks fuel cursor) := by
  induction fuel generalizing cursor with
  | zero => exact yields_ok here
  | succ fuel ih =>
      have behind := on_skipWhile here fun c => c == ' ' || c == '\t'
      rw [quotedBreaks]
      dsimp only
      split
      · exact yields_refuse _
      · split
        · exact Scans.bind (ih (on_lineBreak behind)) fun breaks after behind => yields_ok behind
        · exact yields_ok behind

theorem digitValue_lt {c : Char} (hex : Text.isHexDigit c = true) :
    (Text.digitValue c).getD 0 < 16 := by
  simp only [Text.isHexDigit, Text.isDigit, Bool.or_eq_true, Bool.and_eq_true, decide_eq_true_eq,
    Char.le_def, UInt32.le_iff_toNat_le, Char.reduceVal, UInt32.reduceToNat] at hex
  simp only [Text.digitValue, Text.isDigit, Text.isLower, Text.isUpper, Bool.and_eq_true,
    decide_eq_true_eq, Char.le_def, UInt32.le_iff_toNat_le, Char.reduceVal, UInt32.reduceToNat,
    Char.toNat]
  split
  · rw [Option.getD_some]
    omega
  · split
    · rw [Option.getD_some]
      omega
    · split
      · rw [Option.getD_some]
        omega
      · exact Nat.zero_lt_succ 15

theorem hexValue_lt {digits : List Char} (hex : digits.all Text.isHexDigit = true) (before : Nat) :
    Json.hexValue before digits < (before + 1) * 16 ^ digits.length := by
  induction digits generalizing before with
  | nil => simp [Json.hexValue]
  | cons digit rest ih =>
      rw [List.all_cons, Bool.and_eq_true] at hex
      have small := digitValue_lt hex.1
      calc Json.hexValue before (digit :: rest)
          = Json.hexValue (before * 16 + (Text.digitValue digit).getD 0) rest := rfl
        _ < (before * 16 + (Text.digitValue digit).getD 0 + 1) * 16 ^ rest.length := ih hex.2 _
        _ ≤ (before + 1) * 16 * 16 ^ rest.length := Nat.mul_le_mul_right _ (by omega)
        _ = (before + 1) * 16 ^ (digit :: rest).length := by
            rw [List.length_cons, pow_succ']
            ac_rfl

theorem impossible_of_ofCode {code : Nat} {reason : YamlFault}
    (failed : ofCode code = .error reason) :
    0x110000 ≤ code ∧ ∃ fault, reason = .impossible fault := by
  rw [ofCode] at failed
  split at failed
  · next huge =>
      exact ⟨Nat.le_trans (by decide) huge, _, (Except.error.inj failed).symm⟩
  · split at failed
    · next large => exact ⟨large, _, (Except.error.inj failed).symm⟩
    · split at failed <;> cases failed

/-- Only the escape with the most digits can spell a code that is no code point. -/
theorem digits_of_ofCode {letter : Char} {count : Nat} {digits : List Char} {reason : YamlFault}
    (sized : escapeDigits? letter = some count) (length : digits.length = count)
    (hex : digits.all Text.isHexDigit = true)
    (failed : ofCode (Json.hexValue 0 digits) = .error reason) : letter = 'U' ∧ count = 8 := by
  have large := (impossible_of_ofCode failed).1
  have small := hexValue_lt hex 0
  rw [escapeDigits?.eq_def] at sized
  split at sized
  · obtain rfl := Option.some.inj sized
    rw [length] at small
    omega
  · obtain rfl := Option.some.inj sized
    rw [length] at small
    omega
  · exact ⟨rfl, (Option.some.inj sized).symm⟩
  · cases sized

theorem rest_next (cursor : Cursor) : cursor.next.rest = cursor.rest.tail := by
  rw [next]
  split
  · next empty => rw [empty, List.tail_nil]
  · next shown =>
      rw [shown]
      split <;> rfl

/-- A character that can be seen is the first one of what is left. -/
theorem rest_of_peek {c : Char} (seen : cursor.peek = c) (shown : c ≠ '\x00') :
    cursor.rest = c :: cursor.next.rest := by
  rw [rest_next]
  rw [peek] at seen
  cases left : cursor.rest with
  | nil =>
      rw [left] at seen
      exact (shown seen.symm).elim
  | cons first rest =>
      rw [left] at seen
      rw [← seen]
      rfl

/-- The digits of an escape are behind its backslash and its letter. -/
theorem yields_ofCode {count : Nat} (here : cursor.On text) (opened : cursor.peek = '\\')
    (sized : escapeDigits? cursor.next.peek = some count)
    (length : (cursor.next.next.rest.take count).length = count)
    (hex : (cursor.next.next.rest.take count).all Text.isHexDigit = true) :
    Yields (fun _ => True) (IsReason text)
      (ofCode (Json.hexValue 0 (cursor.next.next.rest.take count))) where
  result := fun _ _ => trivial
  reason := by
    intro reason failed
    obtain ⟨fault, rfl⟩ := (impossible_of_ofCode failed).2
    obtain ⟨letter, rfl⟩ := digits_of_ofCode sized length hex failed
    have spelled : cursor.rest = '\\' :: 'U' :: cursor.next.next.rest := by
      rw [rest_of_peek opened (by decide), rest_of_peek letter (by decide)]
    refine ⟨cursor.next.next.rest.take 8, ?_, length, hex, failed⟩
    refine List.IsInfix.trans ?_ here.isInfix
    rw [spelled]
    exact (List.take_prefix 10 ('\\' :: 'U' :: cursor.next.next.rest)).isInfix

theorem scans_escape (here : cursor.On text) (opened : cursor.peek = '\\') :
    Scans text (scanEscape cursor) := by
  rw [scanEscape]
  dsimp only
  split
  · exact yields_ok (on_next (on_next here))
  · next count _ sized =>
      split
      · next valid =>
          rw [Bool.and_eq_true, decide_eq_true_eq] at valid
          refine (yields_ofCode here opened sized valid.1 valid.2).bind fun c _ => ?_
          exact yields_ok (on_skip (on_next (on_next here)) count)
      · exact yields_refuse _
  · split
    · exact Scans.bind (scans_quotedBreaks _ (on_lineBreak (on_next here)))
        fun breaks after behind => yields_ok behind
    · exact yields_refuse _

theorem scans_quotedSpace (here : cursor.On text) : Scans text (scanQuotedSpace cursor) := by
  have spaced := on_takeWhile here fun c => c == ' ' || c == '\t'
  rw [scanQuotedSpace]
  dsimp only
  split
  · exact yields_refuse _
  · split
    · refine Scans.bind (scans_quotedBreaks _ (on_lineBreak spaced)) fun breaks after behind => ?_
      exact yields_ok behind
    · exact yields_ok spaced

theorem scans_quotedText (double : Bool) (fuel : Nat) (here : cursor.On text) :
    Scans text (scanQuotedText double fuel cursor) := by
  induction fuel generalizing cursor with
  | zero => exact yields_refuse _
  | succ fuel ih =>
      rw [scanQuotedText]
      dsimp only
      generalize (if double = true then '"' else '\'') = quote
      split
      · exact Scans.bind (ih (on_skip here 2)) fun _ _ behind => yields_ok behind
      · split
        · exact yields_ok (on_next here)
        · split
          · next escape =>
              rw [Bool.and_eq_true, beq_iff_eq] at escape
              refine Scans.bind (scans_escape here escape.2) fun piece after behind => ?_
              exact Scans.bind (ih behind) fun _ _ behind => yields_ok behind
          · split
            · refine Scans.bind (scans_quotedSpace here) fun piece after behind => ?_
              exact Scans.bind (ih behind) fun _ _ behind => yields_ok behind
            · exact Scans.bind (ih (on_next here)) fun _ _ behind => yields_ok behind

theorem scansToken_quoted (here : cursor.On text) : ScansToken text (scanQuoted cursor) :=
  Scans.bind (scans_quotedText _ _ (on_next here)) fun _ _ behind => yields_ok ⟨nofun, behind⟩

/-! ## Plain scalars -/

theorem on_plainBreaks (fuel : Nat) (here : cursor.On text) :
    (plainBreaks fuel cursor).2.On text := by
  induction fuel generalizing cursor with
  | zero => exact here
  | succ fuel ih =>
      rw [plainBreaks]
      dsimp only
      split
      · exact ih (on_next here)
      · split
        · split
          · exact on_lineBreak here
          · exact ih (on_lineBreak here)
        · exact here

theorem on_plainSpace (here : cursor.On text) : (plainSpace cursor).2.2.On text := by
  have spaced := on_takeWhile here (· == ' ')
  rw [plainSpace]
  dsimp only
  split
  · split
    · exact on_lineBreak spaced
    · have ended := on_lineBreak spaced
      have behind := on_plainBreaks ((cursor.takeWhile (· == ' ')).2.lineBreak.2.left + 1) ended
      split
      · next broken =>
          rw [broken] at behind
          exact behind
      · next broken =>
          rw [broken] at behind
          exact behind
  · exact spaced

theorem on_plainParts (flow : Bool) (indent : Int) (fuel : Nat) (spaces : List Char)
    (lineEnded : Bool) (here : cursor.On text) :
    (plainParts flow indent fuel spaces lineEnded cursor).2.2.On text := by
  induction fuel generalizing spaces lineEnded cursor with
  | zero => exact here
  | succ fuel ih =>
      rw [plainParts]
      dsimp only
      generalize (if (cursor.peek == '#') = true then 0 else plainLength flow cursor.rest) = length
      split
      · exact here
      · split
        · exact on_plainSpace (on_skip here _)
        · exact ih _ _ (on_plainSpace (on_skip here _))

theorem on_scanPlain (flow : Bool) (indent : Int) (here : cursor.On text) :
    (scanPlain flow indent cursor).2.2.On text := by
  rw [scanPlain]
  exact on_plainParts flow indent _ [] false here

end ClientGen.Yaml
