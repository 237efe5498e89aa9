import ClientGen.Text.Case

/-!
# Name casing

Conversions between the usual spellings of names in several words, and the naming conventions that
are applied to property and parameter names.
-/

namespace ClientGen.Name

/-! ## Pascal case -/

/-- A word with its first letter as a capital; words hold ASCII letters and digits only. -/
def capitalized : List Char → List Char
  | [] => []
  | c :: rest => c.toUpper :: rest

/-- The alphanumeric words of a text, each with a capital, without anything between them. -/
def pascalChars (text : List Char) : List Char :=
  (Text.runs Text.isAlphanumeric text).flatMap capitalized

/-- Pascal case of a text. -/
def pascal (text : String) : String := String.ofList (pascalChars text.toList)

/-! ## Camel case -/

/-- The underscores that a text begins with. -/
def leadingUnderscores (text : List Char) : List Char := text.takeWhile (· = '_')

/-- Camel case: words after the first one take a capital, only leading underscores stay. -/
def camelChars (text : List Char) : List Char :=
  match Text.splitOn '_' (text.dropWhile (· = '_')) with
  | [] => leadingUnderscores text
  | head :: rest => leadingUnderscores text ++ head ++ rest.flatMap Text.upperFirst

/-- Camel case of a text. -/
def camel (text : String) : String := String.ofList (camelChars text.toList)

/-! ## Snake case -/

/-- An underscore between a small letter or digit and a capital after it. -/
def breakBeforeCapitals : List Char → List Char
  | c :: d :: rest =>
      if (Text.isLower c || Text.isDigit c) && Text.isUpper d then
        c :: '_' :: breakBeforeCapitals (d :: rest)
      else c :: breakBeforeCapitals (d :: rest)
  | text => text

/-- An underscore before the last of several capitals when a small letter follows it. -/
def breakAfterAcronyms : List Char → List Char
  | c :: d :: e :: rest =>
      if Text.isUpper c && Text.isUpper d && Text.isLower e then
        c :: '_' :: breakAfterAcronyms (d :: e :: rest)
      else c :: breakAfterAcronyms (d :: e :: rest)
  | text => text

/-- Snake case: words are divided at changes of case and written in lower case. -/
def snakeChars (text : List Char) : List Char :=
  Text.lower (breakAfterAcronyms (breakBeforeCapitals text))

/-- Snake case of a text. -/
def snake (text : String) : String := String.ofList (snakeChars text.toList)

/-! ## Conventions -/

/-- How property and parameter names are spelled in generated code. -/
inductive Convention where
  /-- Names stay as the document has them. -/
  | preserve
  /-- Names take camel case. -/
  | camel
  /-- Names take snake case. -/
  | snake
  deriving DecidableEq, Repr, Inhabited

namespace Convention

/-- All conventions. -/
def all : List Convention := [.preserve, .camel, .snake]

/-- The name of a convention in options. -/
def name : Convention → String
  | .preserve => "preserve"
  | .camel => "camel"
  | .snake => "snake"

/-- The convention with a name. -/
def ofName? (text : String) : Option Convention := all.find? (·.name = text)

/-- Spell a name according to the convention. -/
def applyChars : Convention → List Char → List Char
  | .preserve, text => text
  | .camel, text => camelChars text
  | .snake, text => snakeChars text

/-- Spell a name according to the convention. -/
def apply (convention : Convention) (text : String) : String :=
  String.ofList (convention.applyChars text.toList)

@[simp] theorem apply_preserve (text : String) : preserve.apply text = text := by
  simp [apply, applyChars]

@[simp] theorem ofName?_name (convention : Convention) :
    ofName? convention.name = some convention := by
  cases convention <;> rfl

end Convention

end ClientGen.Name
