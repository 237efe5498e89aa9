import ClientGen.Yaml.Timestamp

/-!
# Tags

The tags that give a node its type, and the tag that a plain scalar has without one.
-/

namespace ClientGen.Yaml

/-- A tag with a meaning. -/
inductive Tag where
  /-- The absent value. -/
  | null
  /-- A truth value. -/
  | bool
  /-- An integer. -/
  | int
  /-- A floating-point number. -/
  | float
  /-- Binary data. -/
  | binary
  /-- A day or a moment. -/
  | timestamp
  /-- Text. -/
  | str
  /-- A sequence. -/
  | seq
  /-- A mapping. -/
  | map
  /-- A mapping whose order counts. -/
  | omap
  /-- A list of pairs. -/
  | pairs
  /-- A set. -/
  | set
  /-- The key of mappings whose entries are taken over. -/
  | merge
  /-- The key of the value that stands for a whole mapping. -/
  | default
  deriving DecidableEq, Repr

namespace Tag

/-- The address that the addresses of these tags begin with. -/
def family : String := "tag:yaml.org,2002:"

/-- The tags by the last part of their address. -/
def names : List (String × Tag) :=
  [("null", .null), ("bool", .bool), ("int", .int), ("float", .float), ("binary", .binary),
    ("timestamp", .timestamp), ("str", .str), ("seq", .seq), ("map", .map), ("omap", .omap),
    ("pairs", .pairs), ("set", .set), ("merge", .merge), ("value", .default)]

/-- The tag at an address; other addresses have no meaning. -/
def ofAddress? (address : String) : Option Tag :=
  (names.find? fun (name, _) => family ++ name = address).map (·.2)

/-! ## Words -/

/-- The words for truth values. -/
def isBoolWord (text : String) : Bool :=
  ["yes", "Yes", "YES", "no", "No", "NO", "true", "True", "TRUE", "false", "False", "FALSE", "on",
    "On", "ON", "off", "Off", "OFF"].contains text

/-- The words for the absent value. -/
def isNullWord (text : String) : Bool := ["~", "null", "Null", "NULL"].contains text

/-! ## Numbers -/

/-- The text after a sign. -/
def unsigned : List Char → List Char
  | c :: rest => if c = '-' || c = '+' then rest else c :: rest
  | [] => []

/-- A decimal digit or an underscore. -/
def isDigitOrGap (c : Char) : Bool := Text.isDigit c || c == '_'

/-- A non-empty text of a class of characters. -/
def isRun (p : Char → Bool) (text : List Char) : Bool := !text.isEmpty && text.all p

/-- A digit followed by digits and underscores. -/
def isDigits : List Char → Bool
  | c :: rest => Text.isDigit c && rest.all isDigitOrGap
  | [] => false

/-- A place of a number to base sixty after the first one. -/
def isSixtieth : List Char → Bool
  | [c] => Text.isDigit c
  | [c, d] => '0' ≤ c && c ≤ '5' && Text.isDigit d
  | _ => false

/-- A number to base sixty, of two or more places. -/
def isSexagesimal (text : List Char) : Bool :=
  match Text.splitOn ':' text with
  | first :: second :: rest => isDigits first && (second :: rest).all isSixtieth
  | _ => false

/-- An octal digit or an underscore. -/
def isOctalOrGap (c : Char) : Bool := ('0' ≤ c && c ≤ '7') || c == '_'

/-- An integer. -/
def isInteger (text : List Char) : Bool :=
  match unsigned text with
  | ['0'] => true
  | '0' :: 'b' :: rest => isRun (fun c => c == '0' || c == '1' || c == '_') rest
  | '0' :: 'x' :: rest => isRun (fun c => Text.isHexDigit c || c == '_') rest
  | '0' :: rest => isRun isOctalOrGap rest
  | text => isDigits text || isSexagesimal text

/-- An exponent with its sign, or nothing. -/
def isExponent : List Char → Bool
  | [] => true
  | e :: sign :: rest =>
      (e == 'e' || e == 'E') && (sign == '-' || sign == '+') && isRun Text.isDigit rest
  | [_] => false

/-- Digits and underscores followed by an exponent or nothing. -/
def isFraction (text : List Char) : Bool := isExponent (text.dropWhile isDigitOrGap)

/-- A floating-point number. -/
def isFloat (text : List Char) : Bool :=
  match text with
  | '.' :: c :: rest =>
      (Text.isDigit c && isFraction rest) || isSpecial (c :: rest) ||
        ["nan", "NaN", "NAN"].contains (String.ofList (c :: rest))
  | _ =>
      match Text.cutAt? '.' (unsigned text) with
      | some ([], rest) => isSpecial rest
      | some (whole, rest) =>
          (isDigits whole && isFraction rest) || (isSexagesimal whole && rest.all isDigitOrGap)
      | none => false
where
  /-- The words for infinity, after their point. -/
  isSpecial (text : List Char) : Bool := ["inf", "Inf", "INF"].contains (String.ofList text)

/-! ## Plain scalars -/

/-- A text without one line feed at its end. -/
def dropLastBreak (text : List Char) : List Char :=
  if text.getLast? = some '\n' then text.dropLast else text

/-- The tag of a non-empty plain scalar. -/
def ofWord? (text : List Char) : Option Tag :=
  let word := String.ofList text
  if isBoolWord word then some .bool
  else if isFloat text then some .float
  else if isInteger text then some .int
  else if word = "<<" then some .merge
  else if isNullWord word then some .null
  else if Timestamp.isImplicit text then some .timestamp
  else if word = "=" then some .default
  else if ["!", "&", "*"].contains word then none
  else some .str

/-- The tag of a scalar that is written without one. -/
def ofPlain? (text : String) : Option Tag :=
  if text.isEmpty then some .null
  else
    let word := dropLastBreak text.toList
    if word.isEmpty then some .str else ofWord? word

end Tag

end ClientGen.Yaml
