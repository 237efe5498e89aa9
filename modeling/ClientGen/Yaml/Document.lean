import ClientGen.Number.Numeral
import ClientGen.Text.Base64
import ClientGen.Text.Case
import ClientGen.Value.Basic
import ClientGen.Yaml.Node

/-!
# The value of a YAML document

Each node denotes a value by its tag. Of several flaws the one nearest to the root is reported,
and among equals the first in the text.
-/

namespace ClientGen.Yaml

/-! ## Flaws -/

/-- A node without a value. -/
structure Flaw where
  /-- Its distance from the root. -/
  depth : Nat
  /-- What is wrong with it. -/
  fault : YamlFault

/-- A value, or the flaw to report in its place. -/
abbrev Built (α : Type) := Except Flaw α

namespace Built

/-- Two parts of one whole: of two flaws the shallower one counts, and the first of equals. -/
def both {α β γ : Type} (f : α → β → γ) : Built α → Built β → Built γ
  | .ok a, .ok b => .ok (f a b)
  | .error flaw, .ok _ => .error flaw
  | .ok _, .error flaw => .error flaw
  | .error first, .error second =>
      .error (if second.depth < first.depth then second else first)

/-- The parts of a sequence. -/
def all {α : Type} : List (Built α) → Built (List α)
  | [] => .ok []
  | first :: rest => both List.cons first (all rest)

end Built

/-- A malformed node. -/
def flawed {α : Type} (depth : Nat) (rule : String) : Built α := .error ⟨depth, .malformed rule⟩

/-! ## Scalars -/

/-- Report a fault when there is no value. -/
def orFault {α : Type} (fault : Fault) (value : Option α) : Except YamlFault α :=
  match value with
  | some a => .ok a
  | none => .error (.impossible fault)

/-- A numeral to base sixty: the numbers between its colons. -/
def places (text : List Char) : List (List Char) := Text.splitOn ':' text

/-- The size of an integer. -/
def integerSize (text : List Char) : Except YamlFault Int :=
  match text with
  | [] => .error (.impossible .missingPosition)
  | ['0'] => .ok 0
  | '0' :: 'b' :: rest => orFault .badValue (Numeral.int? 2 rest)
  | '0' :: 'x' :: rest => orFault .badValue (Numeral.int? 16 rest)
  | '0' :: _ => orFault .badValue (Numeral.int? 8 text)
  | _ => do
      let numbers ← (places text).mapM fun place => orFault .badValue (Numeral.int? 10 place)
      .ok (numbers.foldl (fun n number => n * 60 + number) 0)

/-- The value of an integer scalar. -/
def integerValue (text : List Char) : Except YamlFault Value :=
  let shown := text.filter (· ≠ '_')
  let (negative, size) := Numeral.cutSign shown
  if shown.isEmpty then .error (.impossible .missingPosition)
  else (integerSize size).map fun n => .int (if negative then -n else n)

/-- The sum of the places of a number to base sixty, given from the last one on. -/
def sumPlaces (base : Nat) (sum : Double) : List Double → Double
  | [] => sum
  | number :: rest =>
      sumPlaces (base * 60) (sum.add (number.mul (.ofInt base))) rest

/-- The size of a floating-point number. -/
def floatSize (text : List Char) : Except YamlFault Double :=
  match String.ofList text with
  | ".inf" => .ok (.infinite false)
  | ".nan" => .ok .nan
  | _ =>
      if text.contains ':' then do
        let numbers ← (places text).mapM fun place => orFault .badValue (Numeral.double? place)
        .ok (sumPlaces 1 (.zero false) numbers.reverse)
      else orFault .badValue (Numeral.double? text)

/-- The value of a floating-point scalar. -/
def floatValue (text : List Char) : Except YamlFault Value :=
  let shown := (text.filter (· ≠ '_')).map Char.toLower
  let (negative, size) := Numeral.cutSign shown
  if shown.isEmpty then .error (.impossible .missingPosition)
  else (floatSize size).map fun x => .float (if negative then x.neg else x)

/-- The value of a word for a truth value. -/
def boolValue (text : String) : Except YamlFault Value :=
  match Text.lowerString text with
  | "yes" | "true" | "on" => .ok (.bool true)
  | "no" | "false" | "off" => .ok (.bool false)
  | _ => .error (.impossible .missingKey)

/-- The value of a timestamp. -/
def timestampValue (text : List Char) : Except YamlFault Value :=
  match Timestamp.read? (Tag.dropLastBreak text) with
  | none => .error (.impossible .missingMember)
  | some (.day d) => if d.isValid then .ok (.day d) else .error (.impossible .badValue)
  | some (.moment m) => if m.isValid then .ok (.moment m) else .error (.impossible .badValue)

/-- The value of binary data. -/
def binaryValue (text : List Char) : Except YamlFault Value :=
  if text.all fun c => c.toNat < 0x80 then
    match Text.Base64.decode? text with
    | some octets => .ok (.bytes octets)
    | none => refuse "binary data is malformed"
  else refuse "binary data is not in ASCII"

/-- Whether a tag belongs to collections. -/
def Tag.isCollection : Tag → Bool
  | .seq | .map | .omap | .pairs | .set => true
  | _ => false

/-- The value of a scalar. -/
def scalarValue (tag : Tag) (text : String) : Except YamlFault Value :=
  match tag with
  | .null => .ok .null
  | .bool => boolValue text
  | .int => integerValue text.toList
  | .float => floatValue text.toList
  | .binary => binaryValue text.toList
  | .timestamp => timestampValue text.toList
  | .str => .ok (.text text)
  | .seq | .map | .omap | .pairs | .set => refuse "a collection is expected"
  | .merge | .default => refuse "a tag without a value"

/-- A scalar at a depth. A collection tag on it is noticed only when its items are asked for. -/
def builtScalar (depth : Nat) (tag : Option Tag) (text : String) : Built Value :=
  match tag with
  | none => flawed depth "a tag without a meaning"
  | some tag =>
      (scalarValue tag text).mapError fun fault =>
        ⟨if tag.isCollection then depth + 1 else depth, fault⟩

/-! ## Mappings -/

namespace Node

/-- Whether a node has a tag. -/
def hasTag (tag : Tag) : Node → Bool
  | .scalar found _ | .sequence found _ | .mapping found _ => found = some tag
  | .within _ | .recurring _ => false

mutual

/-- The text that stands for a node where a scalar is asked for: its own, or the one at the
default key of a mapping. -/
def text? : Node → Option String
  | .scalar _ text => some text
  | .mapping _ entries => defaultText? entries
  | _ => none

/-- The text at the default key. -/
def defaultText? : List (Node × Node) → Option String
  | [] => none
  | (key, value) :: rest => if key.hasTag .default then value.text? else defaultText? rest

end

end Node

/-- The entries of a mapping, with those that are taken over from other mappings in front. -/
structure Entries where
  /-- Entries taken over. -/
  taken : List (Built Value × Built Value)
  /-- Entries of its own. -/
  own : List (Built Value × Built Value)
  /-- Why the entries to take over are none. -/
  refusal : Option String

namespace Entries

/-- All entries in order. -/
def toList (entries : Entries) : List (Built Value × Built Value) := entries.taken ++ entries.own

/-- No entries. -/
def none : Entries := ⟨[], [], .none⟩

/-- No entries, for a reason. -/
def refused (rule : String) : Entries := ⟨[], [], some rule⟩

/-- Take over all entries of another mapping. -/
def takeOver (other entries : Entries) : Entries :=
  ⟨other.toList ++ entries.taken, entries.own, other.refusal <|> entries.refusal⟩

/-- A key that is no sequence, set or mapping. -/
def checkedKey (depth : Nat) (key : Built Value) : Built Value :=
  key.bind fun found => if found.isKey then .ok found else flawed depth "a collection as a key"

/-- The entries of the value. -/
def build (depth : Nat) (entries : Entries) : Built (List (Value × Value)) :=
  match entries.refusal with
  | some rule => flawed depth rule
  | .none =>
      (Built.all (entries.toList.map fun (key, value) =>
        Built.both Prod.mk (checkedKey depth key) value)).map Value.ofEntries

end Entries

/-! ## Nodes -/

mutual

/-- The value of a node at a depth. -/
def build (depth : Nat) : Node → Built Value
  | .scalar tag text => builtScalar depth tag text
  | .recurring content => (build depth content).map .recurring
  | .within _ => .error ⟨depth, .impossible .endless⟩
  | .sequence tag items =>
      match tag with
      | some .seq => (Built.all (buildAll (depth + 1) items)).map .list
      | some .omap | some .pairs => (Built.all (buildPairs (depth + 1) items)).map .list
      | some .map | some .set => flawed (depth + 1) "a mapping is expected"
      | _ => flawed depth "a scalar is expected"
  | .mapping tag entries =>
      match tag with
      | some .map => ((buildEntries (depth + 1) entries).build (depth + 1)).map .map
      | some .set =>
          ((buildEntries (depth + 1) entries).build (depth + 1)).map fun found =>
            .set (found.map (·.1))
      | some .seq | some .omap | some .pairs => flawed (depth + 1) "a sequence is expected"
      | tag =>
          match Node.defaultText? entries with
          | none => flawed depth "a scalar is expected"
          | some text =>
              if tag = some .timestamp then .error ⟨depth, .impossible .badKind⟩
              else builtScalar depth tag text

/-- The values of nodes. -/
def buildAll (depth : Nat) : List Node → List (Built Value)
  | [] => []
  | node :: rest => build depth node :: buildAll depth rest

/-- The pairs of mappings with one entry each. -/
def buildPairs (depth : Nat) : List Node → List (Built Value)
  | [] => []
  | node :: rest =>
      (match node with
        | .mapping _ [(key, value)] => Built.both .pair (build depth key) (build depth value)
        | _ => flawed depth "a mapping of one entry is expected") :: buildPairs depth rest

/-- The entries of a mapping. -/
def buildEntries (depth : Nat) : List (Node × Node) → Entries
  | [] => .none
  | (key, value) :: rest =>
      let entries := buildEntries depth rest
      if key.hasTag .merge then
        match value with
        | .mapping _ inner => (buildEntries depth inner).takeOver entries
        | .recurring _ => entries
        | .sequence _ items => (buildMerged depth items).takeOver entries
        | _ => (Entries.refused "a mapping to take over is expected").takeOver entries
      else
        let found := match key with
          | .scalar (some .default) text => .ok (.text text)
          | key => build depth key
        { entries with own := (found, build depth value) :: entries.own }

/-- The entries of several mappings; those of the last one come first. -/
def buildMerged (depth : Nat) : List Node → Entries
  | [] => .none
  | node :: rest =>
      let later := buildMerged depth rest
      match node with
      | .mapping _ inner =>
          let found := buildEntries depth inner
          ⟨later.taken ++ found.toList, [], found.refusal <|> later.refusal⟩
      | .recurring (.mapping ..) => later
      | _ => .refused "a mapping to take over is expected"

end

/-- The value of a text. A text without a document denotes the absent value. -/
def read (text : List Char) : Except YamlFault Value := do
  match ← Node.ofTokens (tokens text) with
  | none => .ok .null
  | some node => (build 0 node).mapError (·.fault)

end ClientGen.Yaml
