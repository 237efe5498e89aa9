import ClientGen.Number.Double
import ClientGen.Value.Calendar

/-!
# Document values

The values that a JSON or YAML document denotes. A mapping keeps its entries in order, and its keys
may be any values. Equality is decided by recursion through the nested lists.
-/

namespace ClientGen

/-- A value of a document. -/
inductive Value where
  /-- The absent value. -/
  | null
  /-- A truth value. -/
  | bool (value : Bool)
  /-- An integer of any size. -/
  | int (value : Int)
  /-- A floating-point number. -/
  | float (value : Double)
  /-- Text. -/
  | text (value : String)
  /-- Binary data. -/
  | bytes (octets : List UInt8)
  /-- A calendar day. -/
  | day (value : Day)
  /-- A moment. -/
  | moment (value : Moment)
  /-- A sequence. -/
  | list (items : List Value)
  /-- An entry of an ordered mapping or of a list of pairs. -/
  | pair (key value : Value)
  /-- A set, in order of first mention. -/
  | set (items : List Value)
  /-- A mapping, in order of first mention of each key. -/
  | map (entries : List (Value × Value))
  /-- A sequence or mapping that this place is inside of. It is written out once more; where that
  copy comes to the place again it has nothing in it. -/
  | recurring (content : Value)
  deriving Repr, Inhabited

namespace Value

/-! ## Equality -/

mutual

/-- Decide equality of two values. -/
def decEq : (a b : Value) → Decidable (a = b)
  | .null, .null => .isTrue rfl
  | .bool a, .bool b => if h : a = b then .isTrue (h ▸ rfl) else .isFalse (by simp [h])
  | .int a, .int b => if h : a = b then .isTrue (h ▸ rfl) else .isFalse (by simp [h])
  | .float a, .float b => if h : a = b then .isTrue (h ▸ rfl) else .isFalse (by simp [h])
  | .text a, .text b => if h : a = b then .isTrue (h ▸ rfl) else .isFalse (by simp [h])
  | .bytes a, .bytes b => if h : a = b then .isTrue (h ▸ rfl) else .isFalse (by simp [h])
  | .day a, .day b => if h : a = b then .isTrue (h ▸ rfl) else .isFalse (by simp [h])
  | .moment a, .moment b => if h : a = b then .isTrue (h ▸ rfl) else .isFalse (by simp [h])
  | .list xs, .list ys =>
      match decEqList xs ys with
      | .isTrue h => .isTrue (h ▸ rfl)
      | .isFalse h => .isFalse (by simp [h])
  | .pair a b, .pair c d =>
      match decEq a c, decEq b d with
      | .isTrue h, .isTrue g => .isTrue (h ▸ g ▸ rfl)
      | .isFalse h, _ => .isFalse (by simp [h])
      | _, .isFalse h => .isFalse (by simp [h])
  | .set xs, .set ys =>
      match decEqList xs ys with
      | .isTrue h => .isTrue (h ▸ rfl)
      | .isFalse h => .isFalse (by simp [h])
  | .map xs, .map ys =>
      match decEqEntries xs ys with
      | .isTrue h => .isTrue (h ▸ rfl)
      | .isFalse h => .isFalse (by simp [h])
  | .recurring a, .recurring b =>
      match decEq a b with
      | .isTrue h => .isTrue (h ▸ rfl)
      | .isFalse h => .isFalse (by simp [h])
  | .null, .bool .. | .null, .int .. | .null, .float .. | .null, .text .. | .null, .bytes ..
  | .null, .day .. | .null, .moment .. | .null, .list .. | .null, .pair .. | .null, .set ..
  | .null, .map .. | .null, .recurring .. => .isFalse nofun
  | .bool .., .null | .bool .., .int .. | .bool .., .float .. | .bool .., .text ..
  | .bool .., .bytes .. | .bool .., .day .. | .bool .., .moment .. | .bool .., .list ..
  | .bool .., .pair .. | .bool .., .set .. | .bool .., .map ..
  | .bool .., .recurring .. => .isFalse nofun
  | .int .., .null | .int .., .bool .. | .int .., .float .. | .int .., .text ..
  | .int .., .bytes .. | .int .., .day .. | .int .., .moment .. | .int .., .list ..
  | .int .., .pair .. | .int .., .set .. | .int .., .map ..
  | .int .., .recurring .. => .isFalse nofun
  | .float .., .null | .float .., .bool .. | .float .., .int .. | .float .., .text ..
  | .float .., .bytes .. | .float .., .day .. | .float .., .moment .. | .float .., .list ..
  | .float .., .pair .. | .float .., .set .. | .float .., .map ..
  | .float .., .recurring .. => .isFalse nofun
  | .text .., .null | .text .., .bool .. | .text .., .int .. | .text .., .float ..
  | .text .., .bytes .. | .text .., .day .. | .text .., .moment .. | .text .., .list ..
  | .text .., .pair .. | .text .., .set .. | .text .., .map ..
  | .text .., .recurring .. => .isFalse nofun
  | .bytes .., .null | .bytes .., .bool .. | .bytes .., .int .. | .bytes .., .float ..
  | .bytes .., .text .. | .bytes .., .day .. | .bytes .., .moment .. | .bytes .., .list ..
  | .bytes .., .pair .. | .bytes .., .set .. | .bytes .., .map ..
  | .bytes .., .recurring .. => .isFalse nofun
  | .day .., .null | .day .., .bool .. | .day .., .int .. | .day .., .float ..
  | .day .., .text .. | .day .., .bytes .. | .day .., .moment .. | .day .., .list ..
  | .day .., .pair .. | .day .., .set .. | .day .., .map ..
  | .day .., .recurring .. => .isFalse nofun
  | .moment .., .null | .moment .., .bool .. | .moment .., .int .. | .moment .., .float ..
  | .moment .., .text .. | .moment .., .bytes .. | .moment .., .day .. | .moment .., .list ..
  | .moment .., .pair .. | .moment .., .set .. | .moment .., .map ..
  | .moment .., .recurring .. => .isFalse nofun
  | .list .., .null | .list .., .bool .. | .list .., .int .. | .list .., .float ..
  | .list .., .text .. | .list .., .bytes .. | .list .., .day .. | .list .., .moment ..
  | .list .., .pair .. | .list .., .set .. | .list .., .map ..
  | .list .., .recurring .. => .isFalse nofun
  | .pair .., .null | .pair .., .bool .. | .pair .., .int .. | .pair .., .float ..
  | .pair .., .text .. | .pair .., .bytes .. | .pair .., .day .. | .pair .., .moment ..
  | .pair .., .list .. | .pair .., .set .. | .pair .., .map ..
  | .pair .., .recurring .. => .isFalse nofun
  | .set .., .null | .set .., .bool .. | .set .., .int .. | .set .., .float ..
  | .set .., .text .. | .set .., .bytes .. | .set .., .day .. | .set .., .moment ..
  | .set .., .list .. | .set .., .pair .. | .set .., .map ..
  | .set .., .recurring .. => .isFalse nofun
  | .map .., .null | .map .., .bool .. | .map .., .int .. | .map .., .float ..
  | .map .., .text .. | .map .., .bytes .. | .map .., .day .. | .map .., .moment ..
  | .map .., .list .. | .map .., .pair .. | .map .., .set ..
  | .map .., .recurring .. => .isFalse nofun
  | .recurring .., .null | .recurring .., .bool .. | .recurring .., .int ..
  | .recurring .., .float .. | .recurring .., .text .. | .recurring .., .bytes ..
  | .recurring .., .day .. | .recurring .., .moment .. | .recurring .., .list ..
  | .recurring .., .pair .. | .recurring .., .set .. | .recurring .., .map .. => .isFalse nofun

/-- Decide equality of two sequences of values. -/
def decEqList : (xs ys : List Value) → Decidable (xs = ys)
  | [], [] => .isTrue rfl
  | [], _ :: _ | _ :: _, [] => .isFalse nofun
  | a :: xs, b :: ys =>
      match decEq a b, decEqList xs ys with
      | .isTrue h, .isTrue g => .isTrue (h ▸ g ▸ rfl)
      | .isFalse h, _ => .isFalse (by simp [h])
      | _, .isFalse h => .isFalse (by simp [h])

/-- Decide equality of two sequences of entries. -/
def decEqEntries : (xs ys : List (Value × Value)) → Decidable (xs = ys)
  | [], [] => .isTrue rfl
  | [], _ :: _ | _ :: _, [] => .isFalse nofun
  | (a, c) :: xs, (b, d) :: ys =>
      match decEq a b, decEq c d, decEqEntries xs ys with
      | .isTrue h, .isTrue i, .isTrue g => .isTrue (h ▸ i ▸ g ▸ rfl)
      | .isFalse h, _, _ => .isFalse (by simp [h])
      | _, .isFalse h, _ => .isFalse (by simp [h])
      | _, _, .isFalse h => .isFalse (by simp [h])

end

instance : DecidableEq Value := decEq

/-! ## Keys -/

/-- The integer that a truth value counts as. -/
def ofBool (value : Bool) : Int := if value then 1 else 0

/-- Whether two values are one key. Truth values, integers and floats are compared as numbers, and
moments by the point in time. -/
def sameKey : Value → Value → Bool
  | .bool a, .bool b => a == b
  | .bool a, .int b | .int b, .bool a => ofBool a == b
  | .bool a, .float b | .float b, .bool a => Double.compareInt? (ofBool a) b == some .eq
  | .int a, .int b => a == b
  | .int a, .float b | .float b, .int a => Double.compareInt? a b == some .eq
  | .float a, .float b => a == b || a.same b
  | .moment a, .moment b => a.same b
  | a, b => a == b

/-- A value that can be a key: everything but sequences, sets and mappings. -/
def isKey : Value → Bool
  | .list _ | .set _ | .map _ | .recurring _ => false
  | .pair a b => a.isKey && b.isKey
  | _ => true

/-- The value at a key. -/
def lookup (key : Value) : List (Value × Value) → Option Value
  | [] => none
  | (k, v) :: rest => if sameKey k key then some v else lookup key rest

/-- Set the value at a key; a new key goes to the end, a known one keeps its place. -/
def put (key value : Value) : List (Value × Value) → List (Value × Value)
  | [] => [(key, value)]
  | (k, v) :: rest =>
      if sameKey k key then (k, value) :: rest else (k, v) :: put key value rest

/-- The entries in order of first mention, each with the last value given to its key. -/
def ofEntries (entries : List (Value × Value)) : List (Value × Value) :=
  entries.foldl (fun done entry => put entry.1 entry.2 done) []

/-- The distinct members in order of first mention. -/
def ofMembers (members : List Value) : List Value :=
  (ofEntries (members.map fun member => (member, .null))).map Prod.fst

/-! ## Fields -/

/-- The value at a text key. -/
def fieldOf (name : String) : List (Value × Value) → Option Value
  | [] => none
  | (.text k, v) :: rest => if k = name then some v else fieldOf name rest
  | _ :: rest => fieldOf name rest

/-- What a value is when it is looked at on its own: a collection is no longer inside of itself. -/
def opened : Value → Value
  | .recurring content => content
  | value => value

/-- The value at a text key of a mapping. -/
def field? (name : String) : Value → Option Value
  | .map entries => (fieldOf name entries).map opened
  | _ => none

/-- The entries of a mapping. -/
def entries? : Value → Option (List (Value × Value))
  | .map entries => some (entries.map fun (key, value) => (key, value.opened))
  | _ => none

/-- The items of a sequence. -/
def items? : Value → Option (List Value)
  | .list items => some (items.map opened)
  | _ => none

/-- An optional text, null when it is absent. -/
def ofOptional : Option String → Value
  | none => .null
  | some s => .text s

/-- Text, when the value is text. -/
def text? : Value → Option String
  | .text s => some s
  | _ => none

/-- The value, unless it is absent or null. -/
def given? : Option Value → Option Value
  | none | some .null => none
  | some value => some value

/-- The value of a field, unless it is absent or null. -/
def givenField? (name : String) (value : Value) : Option Value := given? (value.field? name)

/-- Whether a value counts as true: not null, false, zero or empty. -/
def isTruthy : Value → Bool
  | .null => false
  | .bool b => b
  | .int n => n != 0
  | .float x => !x.isZero
  | .text s => !s.isEmpty
  | .bytes octets => !octets.isEmpty
  | .list items => !items.isEmpty
  | .set items => !items.isEmpty
  | .map entries => !entries.isEmpty
  | .day _ | .moment _ | .pair _ _ | .recurring _ => true

/-- Whether a flag is present and counts as true. -/
def flag (name : String) (value : Value) : Bool := (value.field? name).any isTruthy

/-- The name of a value's kind, as messages give it. -/
def kindName : Value → String
  | .null => "NoneType"
  | .bool _ => "bool"
  | .int _ => "int"
  | .float _ => "float"
  | .text _ => "str"
  | .bytes _ => "bytes"
  | .day _ => "date"
  | .moment _ => "datetime"
  | .list _ => "list"
  | .pair _ _ => "tuple"
  | .set _ => "set"
  | .map _ => "dict"
  | .recurring content => kindName content

/-! ## Lookup after insertion -/

@[simp] theorem fieldOf_nil (name : String) : fieldOf name [] = none := rfl

theorem fieldOf_cons_text (name key : String) (value : Value) (rest : List (Value × Value)) :
    fieldOf name ((.text key, value) :: rest) =
      if key = name then some value else fieldOf name rest := rfl

end Value

end ClientGen
