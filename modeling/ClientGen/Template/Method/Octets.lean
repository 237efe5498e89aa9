import ClientGen.Template.Method.Text

/-!
# Operations of octets

What can be asked of octets. Most operations are those of texts, with the characters of ASCII as
they are and private characters in place of all other octets, so that only ASCII has letters, case
and white space.
-/

namespace ClientGen.Template

namespace Run

open Datum hiding none

/-! ## Stand-ins -/

/-- The first of the private characters that stand for octets. -/
def firstPrivate : Nat := 0xe000

/-- Whether an octet stands for itself: control characters that no rule of octets takes for white
space do not. -/
def isPlainOctet (endsLines : Bool) (octet : UInt8) : Bool :=
  octet < 0x80 && !(0x1c ≤ octet && octet ≤ 0x1f) &&
    !(endsLines && (octet == 0x0b || octet == 0x0c))

/-- The character that stands for an octet. -/
def standIn (endsLines : Bool) (octet : UInt8) : Char :=
  Char.ofNat (if isPlainOctet endsLines octet then octet.toNat else firstPrivate + octet.toNat)

/-- The octet that a character stands for. -/
def octetOf (c : Char) : UInt8 :=
  UInt8.ofNat (if c.toNat < firstPrivate then c.toNat else c.toNat - firstPrivate)

/-- The text that stands for octets. -/
def standIns (endsLines : Bool) (octets : List UInt8) : String :=
  String.ofList (octets.map (standIn endsLines))

/-- An argument with texts in place of octets; an argument that is a text does not fit. -/
def withStandIns (machine : Machine) (datum : Datum) : Run Datum := do
  let single (item : Datum) : Run Datum := do
    match item, item.text? with
    | .bytes octets, _ => pure (.text (standIns false octets))
    | _, some _ => unsupported
    | _, .none => pure item
  match datum with
  | .tuple found => do pure (.tuple (← found.mapM single))
  | .list _ => do newList (← (← items machine datum).mapM single)
  | _ => single datum

/-- The octets that a text stands for; what is no text stays. -/
def withOctets (datum : Datum) : Datum :=
  match datum with
  | .text s => .bytes (s.toList.map octetOf)
  | _ => datum

/-! ## Operations -/

/-- Hexadecimal digits of octets with separators between groups; the groups are counted from the
end, or from the start if their size is negative. -/
def groupedHex (separator : List Char) (size : Int) (octets : List UInt8) : List Char :=
  let pairs := octets.map fun octet => Text.hex 2 octet.toNat
  let count := pairs.length
  (pairs.zipIdx.flatMap fun (pair, i) =>
    let place := if size < 0 then i else count - i
    if i ≠ 0 && size ≠ 0 && place % size.natAbs = 0 then separator ++ pair else pair)

/-- The operation of octets. -/
def octetsMethod (machine : Machine) (octets : List UInt8) (name : String)
    (arguments : Supplied) : Run Datum := do
  match name with
  | "hex" => do
      match ← arguments.fit [("sep", some .none), ("bytes_per_sep", some (.int 1))] with
      | [.none, _] => pure (.ofChars (groupedHex [] 0 octets))
      | [separator, size] => do
          let separator ← match separator with
            | .bytes found => pure (standIns false found).toList
            | _ => textArgument separator
          if separator.length = 1 then
            pure (.ofChars (groupedHex separator (← intArgument size) octets))
          else fault .badValue
      | _ => unsupported
  | "decode" => do
      match ← arguments.fit [("encoding", some (.text "utf-8")), ("errors", some (.text "strict"))]
        with
      | [charset, remedy] => do
          decoded octets (← textArgument charset) (← textArgument remedy)
      | _ => unsupported
  | "isascii" => do
      arguments.finish
      pure (.bool (octets.all (· < 0x80)))
  | "count" | "find" | "index" | "rfind" | "rindex" => do
      let first ← match arguments.positional.head? with
        | some (.int n) =>
            if 0 ≤ n && n < 256 then pure (Datum.bytes [UInt8.ofNat n.toNat]) else fault .badValue
        | some other => pure other
        | .none => pure .none
      let positional ← (first :: arguments.positional.drop 1).mapM (withStandIns machine)
      textMethod machine (.text "") (standIns false octets).toList name
        ⟨if arguments.positional.isEmpty then [] else positional, arguments.named⟩
  | _ => do
      let shown := standIns (name == "splitlines") octets
      let positional ← arguments.positional.mapM (withStandIns machine)
      let named ← arguments.named.mapM fun (key, value) => do
        pure (key, ← withStandIns machine value)
      match ← textMethod machine (.text shown) shown.toList name ⟨positional, named⟩ with
      | .tuple found => pure (.tuple (found.map withOctets))
      | .list place => do
          write place (.list ((← listAt place).map withOctets))
          pure (.list place)
      | found => pure (withOctets found)

end Run

end ClientGen.Template
