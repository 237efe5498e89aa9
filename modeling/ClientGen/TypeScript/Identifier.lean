import ClientGen.Json.Writer
import ClientGen.Name.Case

/-!
# TypeScript identifiers and property keys

Any text becomes an identifier by putting an underscore for each character that cannot stand in
one, and another one in front where the result would still not be a name. Property keys keep their
text and are quoted when they are not bare identifiers.
-/

namespace ClientGen.TypeScript

/-! ## Identifiers -/

/-- A character that can stand anywhere but at the start of an identifier. -/
def isIdentifierChar (c : Char) : Bool := Text.isAlphanumeric c || c == '_' || c == '$'

/-- A character that can stand at the start of an identifier. -/
def isIdentifierStart (c : Char) : Bool := Text.isLetter c || c == '_' || c == '$'

/-- Reserved words, and the built-in type names that no declaration may take. -/
def reservedWords : List String :=
  ["break", "case", "catch", "class", "const", "continue", "debugger", "default", "delete", "do",
    "else", "enum", "export", "extends", "false", "finally", "for", "function", "if", "implements",
    "import", "in", "instanceof", "interface", "let", "new", "null", "package", "private",
    "protected", "public", "return", "static", "super", "switch", "this", "throw", "true", "try",
    "typeof", "var", "void", "while", "with", "yield", "any", "bigint", "boolean", "never",
    "number", "object", "string", "symbol", "undefined", "unknown"]

/-- A character of an identifier, or an underscore in its place. -/
def cleanChar (c : Char) : Char := if isIdentifierChar c then c else '_'

/-- Clean every character; empty text becomes an underscore. -/
def cleaned : List Char → List Char
  | [] => ['_']
  | text => text.map cleanChar

/-- Whether a text cannot be a name although its characters could. -/
def needsUnderscore (text : List Char) : Bool :=
  text.head?.any Text.isDigit || reservedWords.contains (String.ofList text)

/-- The characters of the identifier that a name turns into. -/
def identifierChars (name : List Char) : List Char :=
  let text := cleaned name
  if needsUnderscore text then '_' :: text else text

/-- The identifier that a name turns into. -/
def identifier (name : String) : String := String.ofList (identifierChars name.toList)

/-! ## Property keys -/

/-- Whether a text is an identifier from end to end. -/
def isIdentifier : List Char → Bool
  | [] => false
  | c :: rest => isIdentifierStart c && rest.all isIdentifierChar

/-- Whether a key is written without quotes: an identifier, with or without a line feed after it. -/
def isBareKey (key : List Char) : Bool :=
  isIdentifier key || (key.getLast? == some '\n' && isIdentifier key.dropLast)

/-- A key as it is declared. -/
def declaredKey (key : String) : String :=
  if isBareKey key.toList then key else Json.quote key

/-- An expression that reads a key of an object. -/
def readKey (target key : String) : String :=
  if isBareKey key.toList then target ++ "." ++ key else target ++ "[" ++ Json.quote key ++ "]"

/-- The declared key of a property under a naming convention. -/
def propertyKey (name : String) (convention : Name.Convention) : String :=
  declaredKey (convention.apply name)

/-- An expression that reads a property under a naming convention. -/
def propertyAccess (target name : String) (convention : Name.Convention) : String :=
  readKey target (convention.apply name)

end ClientGen.TypeScript
