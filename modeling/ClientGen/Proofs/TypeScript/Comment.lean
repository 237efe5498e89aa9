import ClientGen.Proofs.TypeScript.Enclosed

/-!
# Comments

A reader goes through TypeScript text character by character and leaves its comments out. It knows
strings and template literals, where nothing is a comment, and the placeholders of templates, which
are code again. A block comment ends at the first asterisk with a slash behind it, whatever the text
around it. Regular expression literals are read like divisions.
-/

namespace ClientGen.TypeScript

/-! ## The reader -/

namespace Reader

/-- What a reader is in. -/
inductive Mode where
  /-- Code. -/
  | code
  /-- Code, behind a slash that may start a comment. -/
  | slash
  /-- A string that ends at a quotation mark. -/
  | string (mark : Char)
  /-- A string, behind a backslash. -/
  | escape (mark : Char)
  /-- A template literal. -/
  | template
  /-- A template literal, behind a backslash. -/
  | templateEscape
  /-- A template literal, behind a dollar sign that may start a placeholder. -/
  | dollar
  /-- A comment up to the end of the line. -/
  | line
  /-- A block comment. -/
  | block
  /-- A block comment, behind an asterisk that may end it. -/
  | star
  deriving DecidableEq, Repr

end Reader

/-- A reader of TypeScript text. -/
structure Reader where
  /-- What the reader is in. -/
  mode : Reader.Mode
  /-- The number of braces that are open in each placeholder around, the innermost first. -/
  levels : List Nat
  deriving DecidableEq, Repr

namespace Reader

/-- A reader in front of a text. -/
def start : Reader := ⟨.code, []⟩

/-- The reader behind an opening brace. -/
def openBrace : (levels : List Nat) → Reader
  | [] => ⟨.code, []⟩
  | level :: outer => ⟨.code, (level + 1) :: outer⟩

/-- The reader behind a closing brace, which may be the end of a placeholder. -/
def closeBrace : (levels : List Nat) → Reader
  | [] => ⟨.code, []⟩
  | 0 :: outer => ⟨.template, outer⟩
  | (level + 1) :: outer => ⟨.code, level :: outer⟩

/-- The reader behind a character of code. -/
def nextInCode (levels : List Nat) (c : Char) : Reader :=
  if c = '/' then ⟨.slash, levels⟩
  else if c = '"' ∨ c = '\'' then ⟨.string c, levels⟩
  else if c = graveAccent then ⟨.template, levels⟩
  else if c = '\x7b' then openBrace levels
  else if c = '\x7d' then closeBrace levels
  else ⟨.code, levels⟩

/-- The reader behind a character of a template literal. -/
def nextInTemplate (levels : List Nat) (c : Char) : Reader :=
  if c = '\\' then ⟨.templateEscape, levels⟩
  else if c = '$' then ⟨.dollar, levels⟩
  else if c = graveAccent then ⟨.code, levels⟩
  else ⟨.template, levels⟩

/-- The reader behind a character. -/
def next (reader : Reader) (c : Char) : Reader :=
  match reader.mode with
  | .code => nextInCode reader.levels c
  | .slash =>
      if c = '/' then ⟨.line, reader.levels⟩
      else if c = '*' then ⟨.block, reader.levels⟩
      else nextInCode reader.levels c
  | .string mark =>
      if c = mark ∨ c = '\n' ∨ c = '\r' then ⟨.code, reader.levels⟩
      else if c = '\\' then ⟨.escape mark, reader.levels⟩
      else reader
  | .escape mark => ⟨.string mark, reader.levels⟩
  | .template => nextInTemplate reader.levels c
  | .templateEscape => ⟨.template, reader.levels⟩
  | .dollar =>
      if c = '\x7b' then ⟨.code, 0 :: reader.levels⟩ else nextInTemplate reader.levels c
  | .line => if isLineBreak c then ⟨.code, reader.levels⟩ else reader
  | .block => if c = '*' then ⟨.star, reader.levels⟩ else reader
  | .star =>
      if c = '/' then ⟨.code, reader.levels⟩
      else if c = '*' then reader
      else ⟨.block, reader.levels⟩

/-- What the reader gives at a character. A slash in code is held back until the next one. -/
def shown (reader : Reader) (c : Char) : List Char :=
  match reader.mode with
  | .code => if c = '/' then [] else [c]
  | .slash => if c = '/' ∨ c = '*' then [] else ['/', c]
  | .line => if isLineBreak c then [c] else []
  | .block | .star => []
  | _ => [c]

/-- What the reader gives at the end of a text. -/
def held (reader : Reader) : List Char := if reader.mode = .slash then ['/'] else []

/-- What the reader gives of a text. -/
def kept (reader : Reader) : List Char → List Char
  | [] => reader.held
  | c :: rest => reader.shown c ++ kept (reader.next c) rest

end Reader

open Reader

/-- A text without its comments. -/
def withoutComments (text : String) : String := String.ofList (kept start text.toList)

/-! ## Enclosed texts -/

theorem kept_stringBody {body : List Char} (inside : StringBody body) (levels : List Nat)
    (rest : List Char) :
    kept ⟨.string '"', levels⟩ (body ++ '"' :: rest) =
      body ++ '"' :: kept ⟨.code, levels⟩ rest := by
  induction inside with
  | nil => rfl
  | @char c more unquoted unescaped inLine _ ih =>
      have continues := ne_of_contains_eq_false inLine
      have stays : next ⟨.string '"', levels⟩ c = ⟨.string '"', levels⟩ := by
        simp only [next, unquoted, unescaped, continues '\n' (by decide),
          continues '\r' (by decide), or_self, if_false]
      rw [List.cons_append, kept, stays, ih]
      rfl
  | escaped _ _ ih =>
      rw [List.cons_append, List.cons_append, kept, kept]
      exact congrArg (_ :: _ :: ·) ih

/-- A character of code outside of placeholders that is given as it is and changes nothing. -/
def isPassed (c : Char) : Bool := next start c == start && shown start c == [c]

theorem kept_of_isPassed {c : Char} (passed : isPassed c = true) (rest : List Char) :
    kept start (c :: rest) = c :: kept start rest := by
  rw [isPassed, Bool.and_eq_true, beq_iff_eq, beq_iff_eq] at passed
  rw [kept, passed.1, passed.2]
  rfl

/-- A character without a meaning of its own is given as it is. -/
theorem isPassed_of_isPlain {c : Char} (plain : isPlain c = true) : isPassed c = true := by
  have differs := ne_of_isPlain plain
  have stays : next start c = start := by
    simp only [next, start, nextInCode, differs '/' (by decide), differs '"' (by decide),
      differs '\'' (by decide), differs graveAccent (by decide), differs '\x7b' (by decide),
      differs '\x7d' (by decide), or_self, if_false]
  have given : shown start c = [c] := by
    simp only [shown, start, differs '/' (by decide), if_false]
  rw [isPassed, stays, given, beq_self_eq_true, beq_self_eq_true]
  rfl

/-- Brackets outside of placeholders are given as they are. -/
theorem isPassed_of_closing? {opening closing : Char} (pair : closing? opening = some closing) :
    isPassed opening = true ∧ isPassed closing = true := by
  obtain ⟨rfl, rfl⟩ | ⟨rfl, rfl⟩ | ⟨rfl, rfl⟩ := closing?_eq_some pair <;> decide

/-- An enclosed text has no comments, and what follows it is read as if it stood alone. -/
theorem kept_append_of_enclosed {text : List Char} (whole : Enclosed text) (rest : List Char) :
    kept start (text ++ rest) = text ++ kept start rest := by
  induction whole generalizing rest with
  | @plain text all =>
      induction text with
      | nil => rfl
      | cons c more ih =>
          obtain ⟨here, there⟩ := List.forall_mem_cons.mp all
          rw [List.cons_append, kept_of_isPassed (isPassed_of_isPlain here), ih there]
          rfl
  | @quoted body inside =>
      have opens : kept start ('"' :: (body ++ '"' :: rest)) =
          '"' :: kept ⟨.string '"', []⟩ (body ++ '"' :: rest) := rfl
      rw [List.cons_append, List.append_assoc, List.singleton_append, opens,
        kept_stringBody inside, List.cons_append, List.append_assoc]
      rfl
  | @bracketed opening closing inner pair _ ih =>
      obtain ⟨first, last⟩ := isPassed_of_closing? pair
      rw [List.cons_append, List.append_assoc, kept_of_isPassed first, ih, List.singleton_append,
        kept_of_isPassed last, List.cons_append, List.append_assoc]
      rfl
  | append _ _ first second =>
      rw [List.append_assoc, first, second, List.append_assoc]

theorem withoutComments_append {before : String} (whole : Enclosed before.toList)
    (rest : String) : withoutComments (before ++ rest) = before ++ withoutComments rest := by
  rw [withoutComments, String.toList_append, kept_append_of_enclosed whole, String.ofList_append,
    String.ofList_toList, withoutComments]

/-! ## Block comments -/

/-- What follows the first end of a block comment in a text, if there is one. -/
def afterClose? : List Char → Option (List Char)
  | [] => none
  | c :: rest => if c = '*' ∧ rest.head? = some '/' then some rest.tail else afterClose? rest

theorem afterClose?_eq_none_iff {text : List Char} :
    afterClose? text = none ↔ ¬ ['*', '/'] <:+: text := by
  induction text with
  | nil => simp [afterClose?]
  | cons c rest ih =>
      have front : ['*', '/'] <+: c :: rest ↔ c = '*' ∧ rest.head? = some '/' := by
        cases rest <;> simp [List.cons_prefix_cons, eq_comm]
      rw [afterClose?, List.infix_cons_iff, front]
      split
      · next closes => simp [closes]
      · next open_ => simp [open_, ih]

/-- More text behind the end of a block comment leaves the end where it is. -/
theorem afterClose?_append {text rest : List Char} (closes : afterClose? text = some rest)
    (more : List Char) : afterClose? (text ++ more) = some (rest ++ more) := by
  induction text with
  | nil => cases closes
  | cons c tail ih =>
      rw [afterClose?] at closes
      rw [List.cons_append, afterClose?]
      split at closes
      · next here =>
          obtain ⟨star, slash⟩ := here
          obtain ⟨others, rfl⟩ := List.head?_eq_some_iff.mp slash
          cases closes
          simp [star]
      · next elsewhere =>
          have later : ¬ (c = '*' ∧ (tail ++ more).head? = some '/') := by
            cases tail with
            | nil => cases closes
            | cons d others => exact elsewhere
          rw [if_neg later]
          exact ih closes

/-- Behind a text without the end of a block comment, a space keeps the next end apart. -/
theorem afterClose?_append_close {text : List Char} (unclosed : afterClose? text = none)
    (rest : List Char) : afterClose? (text ++ ' ' :: '*' :: '/' :: rest) = some rest := by
  induction text with
  | nil => rfl
  | cons c tail ih =>
      rw [afterClose?] at unclosed
      split at unclosed
      · cases unclosed
      · next elsewhere =>
          have later : ¬ (c = '*' ∧ (tail ++ ' ' :: '*' :: '/' :: rest).head? = some '/') := by
            cases tail with
            | nil => simp
            | cons d others => exact elsewhere
          rw [List.cons_append, afterClose?, if_neg later]
          exact ih unclosed

theorem kept_star {text : List Char} (open_ : text.head? ≠ some '/') (levels : List Nat) :
    kept ⟨.star, levels⟩ text = kept ⟨.block, levels⟩ text := by
  cases text with
  | nil => rfl
  | cons c rest =>
      have unclosed : c ≠ '/' := by
        rintro rfl
        exact open_ rfl
      have same : next ⟨.star, levels⟩ c = next ⟨.block, levels⟩ c := by
        simp only [next, unclosed, if_false]
      rw [kept, kept, same]
      rfl

/-- In a block comment nothing is given up to its end, and code follows. -/
theorem kept_block {text rest : List Char} (closes : afterClose? text = some rest)
    (levels : List Nat) : kept ⟨.block, levels⟩ text = kept ⟨.code, levels⟩ rest := by
  induction text with
  | nil => cases closes
  | cons c tail ih =>
      rw [afterClose?] at closes
      split at closes
      · next here =>
          obtain ⟨rfl, slash⟩ := here
          obtain ⟨others, rfl⟩ := List.head?_eq_some_iff.mp slash
          cases closes
          rfl
      · next elsewhere =>
          rw [← ih closes]
          by_cases star : c = '*'
          · subst star
            exact kept_star (fun slash => elsewhere ⟨rfl, slash⟩) levels
          · have stays : next ⟨.block, levels⟩ c = ⟨.block, levels⟩ := by
              simp only [next, star, if_false]
            rw [kept, stays]
            rfl

/-! ## Documentation comments -/

/-- A text in a documentation comment on a line of its own. -/
def documented (text : String) : String := "/** " ++ text ++ " */\n"

/-- The part of the line of a documentation comment that is behind the comment. -/
def overflow (text : String) : String :=
  match afterClose? text.toList with
  | none => "\n"
  | some rest => String.ofList rest ++ " */\n"

/-- Only the end of the line is behind the comment exactly if the comment does not end in the
text. -/
theorem overflow_eq_newline_iff {text : String} :
    overflow text = "\n" ↔ ¬ ['*', '/'] <:+: text.toList := by
  rw [overflow, ← afterClose?_eq_none_iff]
  cases afterClose? text.toList with
  | none => exact iff_of_true rfl rfl
  | some rest =>
      refine iff_of_false (fun same => ?_) nofun
      have lengths := congrArg String.length same
      rw [String.length_append] at lengths
      have short : " */\n".length = 4 ∧ "\n".length = 1 := by decide
      omega

/-- A documentation comment is left out up to the first end in it; what is behind is code. -/
theorem withoutComments_documented (text after : String) :
    withoutComments (documented text ++ after) = withoutComments (overflow text ++ after) := by
  have opens : ∀ more : List Char,
      kept start ("/** ".toList ++ more) = kept ⟨.block, []⟩ more := fun _ => rfl
  have closes : afterClose? (text.toList ++ (" */\n".toList ++ after.toList)) =
      some ((overflow text).toList ++ after.toList) := by
    rw [overflow]
    cases found : afterClose? text.toList with
    | none => exact afterClose?_append_close found _
    | some rest =>
        rw [afterClose?_append found]
        simp only [String.toList_append, String.toList_ofList, List.append_assoc]
  rw [withoutComments, withoutComments, documented]
  simp only [String.toList_append, List.append_assoc]
  rw [opens, kept_block closes]
  rfl

end ClientGen.TypeScript
