import ClientGen.Proofs.TypeScript.Enclosed

/-!
# Nesting of strings and brackets

A scan reads a text character by character and keeps track of the string that it stands in and of
the brackets that are still to be closed. It stops at a bracket that closes none or another one, and
at a line break inside of a string. Type expressions are scanned to their end and leave nothing
open.
-/

namespace ClientGen.TypeScript

/-! ## The scan -/

namespace Scan

/-- Where a scan stands. -/
inductive Place where
  /-- Outside of strings. -/
  | outside
  /-- In a string. -/
  | inside
  /-- In a string, behind a backslash. -/
  | escaped
  deriving DecidableEq, Repr

end Scan

/-- What a scan keeps track of. -/
structure Scan where
  /-- Where the scan stands. -/
  place : Scan.Place
  /-- The closing brackets that are due, the next one first. -/
  due : List Char
  deriving DecidableEq, Repr

/-- A bracket that closes another one. -/
def isClosing (c : Char) : Bool := c == '\x7d' || c == '>' || c == ']'

namespace Scan

/-- The brackets that are due after a character outside of strings, if the character is allowed. -/
def takeBracket (due : List Char) (c : Char) : Option (List Char) :=
  match closing? c with
  | some partner => some (partner :: due)
  | none =>
      if isClosing c then
        match due with
        | [] => none
        | next :: rest => if c = next then some rest else none
      else some due

/-- The scan after a character, if the character is allowed where the scan stands. -/
def take (scan : Scan) (c : Char) : Option Scan :=
  match scan.place with
  | .outside =>
      if c = '"' then some { scan with place := .inside }
      else (takeBracket scan.due c).map fun due => { scan with due }
  | .inside =>
      if isLineBreak c then none
      else if c = '"' then some { scan with place := .outside }
      else if c = '\\' then some { scan with place := .escaped }
      else some scan
  | .escaped => if isLineBreak c then none else some { scan with place := .inside }

/-- The scan after a text, if all of it is allowed. -/
def run (scan : Scan) (text : List Char) : Option Scan := text.foldlM take scan

/-- A scan that has nothing open. -/
def clear : Scan := ⟨.outside, []⟩

end Scan

open Scan

/-- A text that is scanned to its end and leaves nothing open. -/
structure Nested (text : List Char) : Prop where
  /-- No string and no bracket is open at the end. -/
  closed : run clear text = some clear
  /-- Every bracket up to any place closes the last one that is open, and no string has a line
  break. -/
  allowed : ∀ front, front <+: text → (run clear front).isSome

theorem run_cons (scan : Scan) (c : Char) (rest : List Char) :
    run scan (c :: rest) = (take scan c).bind fun next => run next rest :=
  List.foldlM_cons

theorem run_append (scan : Scan) (first second : List Char) :
    run scan (first ++ second) = (run scan first).bind fun next => run next second :=
  List.foldlM_append

/-- A text that is scanned to its end is scanned to any place. -/
theorem isSome_run_of_prefix {scan last : Scan} {front text : List Char}
    (done : run scan text = some last) (start : front <+: text) :
    (run scan front).isSome := by
  obtain ⟨rest, rfl⟩ := start
  rw [run_append] at done
  obtain ⟨next, reached, _⟩ := Option.bind_eq_some_iff.mp done
  rw [reached]
  rfl

/-! ## Enclosed texts -/

variable (due : List Char)

theorem run_of_stringBody {body : List Char} (inside : StringBody body) :
    run ⟨.inside, due⟩ body = some ⟨.inside, due⟩ := by
  induction inside with
  | nil => rfl
  | @char c rest unquoted unescaped inLine _ ih =>
      have stays : take ⟨.inside, due⟩ c = some ⟨.inside, due⟩ := by
        simp only [take, inLine, unquoted, unescaped, Bool.false_eq_true, if_false]
      rw [run_cons, stays]
      exact ih
  | @escaped c rest inLine _ ih =>
      have behind : take ⟨.escaped, due⟩ c = some ⟨.inside, due⟩ := by
        simp only [take, inLine, Bool.false_eq_true, if_false]
      have backslash : take ⟨.inside, due⟩ '\\' = some ⟨.escaped, due⟩ := rfl
      rw [run_cons, backslash, Option.bind_some, run_cons, behind]
      exact ih

/-- A character without a meaning of its own leaves the scan as it is. -/
theorem take_of_isPlain {c : Char} (plain : isPlain c = true) :
    take ⟨.outside, due⟩ c = some ⟨.outside, due⟩ := by
  have differs := ne_of_isPlain plain
  have opens : closing? c = none := by
    unfold closing?
    split
    · exact absurd rfl (differs _ (by decide))
    · exact absurd rfl (differs _ (by decide))
    · exact absurd rfl (differs _ (by decide))
    · rfl
  have closes : isClosing c = false := by
    simp only [isClosing, Bool.or_eq_false_iff, beq_eq_false_iff_ne]
    exact ⟨⟨differs _ (by decide), differs _ (by decide)⟩, differs _ (by decide)⟩
  simp only [take, takeBracket, opens, closes, differs '"' (by decide), Bool.false_eq_true,
    if_false, Option.map_some]

/-- An opening bracket makes its partner due. -/
theorem take_opening {opening closing : Char} (pair : closing? opening = some closing) :
    take ⟨.outside, due⟩ opening = some ⟨.outside, closing :: due⟩ := by
  have unquoted : opening ≠ '"' := by
    rintro rfl
    cases pair
  simp only [take, takeBracket, pair, unquoted, if_false, Option.map_some]

/-- A closing bracket is taken where it is due. -/
theorem take_closing {opening closing : Char} (pair : closing? opening = some closing) :
    take ⟨.outside, closing :: due⟩ closing = some ⟨.outside, due⟩ := by
  obtain ⟨rfl, rfl⟩ | ⟨rfl, rfl⟩ | ⟨rfl, rfl⟩ := closing?_eq_some pair <;> rfl

/-- An enclosed text leaves the scan as it is, whatever is due. -/
theorem run_of_enclosed {text : List Char} (whole : Enclosed text) :
    run ⟨.outside, due⟩ text = some ⟨.outside, due⟩ := by
  induction whole generalizing due with
  | plain all =>
      rename_i text
      induction text with
      | nil => rfl
      | cons c rest ih =>
          obtain ⟨here, there⟩ := List.forall_mem_cons.mp all
          rw [run_cons, take_of_isPlain due here]
          exact ih there
  | quoted inside =>
      have opens : take ⟨.outside, due⟩ '"' = some ⟨.inside, due⟩ := rfl
      have closes : run ⟨.inside, due⟩ ['"'] = some ⟨.outside, due⟩ := rfl
      rw [run_cons, opens, Option.bind_some, run_append, run_of_stringBody due inside]
      exact closes
  | @bracketed opening closing inner pair _ ih =>
      have closes : run ⟨.outside, closing :: due⟩ [closing] = some ⟨.outside, due⟩ := by
        rw [run_cons, take_closing due pair]
        rfl
      rw [run_cons, take_opening due pair, Option.bind_some, run_append,
        ih (closing :: due)]
      exact closes
  | append _ _ first second =>
      rw [run_append, first due]
      exact second due

theorem nested_of_enclosed {text : List Char} (whole : Enclosed text) : Nested text where
  closed := run_of_enclosed [] whole
  allowed _ start := isSome_run_of_prefix (run_of_enclosed [] whole) start

/-! ## Type expressions -/

/-- The expression of a node is nested, whatever names and literals the node has. -/
theorem nested_expression {convention : Name.Convention} {level : Int} {node : TypeNode}
    {text : String} (written : expression convention "any" level node = .ok text) :
    Nested text.toList :=
  nested_of_enclosed (enclosed_expression convention (.of_all (by decide)) level node written)

/-- An object whose names and literals have quotation marks, backslashes and brackets. -/
def hostileNode : TypeNode :=
  .object true
    [("a\"]\\", .scalar true .string (some [.text "\"\x7d>", .list [.text "\n\\", .null]])),
      ("b", .array false (.reference true "<x\x7d"))]
    ["Base>\""]

/-- The expression of `hostileNode`. -/
def hostileText : String :=
  "Base__ & \x7b\n  \"a\\\"]\\\\\": \"\\\"\x7d>\" | [\"\\n\\\\\", null];\n  b?: Array<_x_>;\n\x7d"

theorem hostileNode_nested :
    expression .preserve "any" 0 hostileNode = .ok hostileText ∧ Nested hostileText.toList := by
  have written : expression .preserve "any" 0 hostileNode = .ok hostileText := by decide +kernel
  exact ⟨written, nested_expression written⟩

end ClientGen.TypeScript
