import ClientGen.Text.CharacterName
import ClientGen.Text.Charset

/-!
# Texts as octets

A text is written in a charset and read from it. A remedy says what becomes of a character that the
charset lacks, and of octets that are malformed.
-/

namespace ClientGen.Text.Charset

/-- What becomes of a part that cannot be written or read. -/
inductive Remedy where
  /-- The part is a fault. -/
  | refuse
  /-- The part is left out. -/
  | skip
  /-- A mark replaces the part. -/
  | mark
  /-- A reference by number replaces a character. -/
  | number
  /-- The code behind a backslash replaces the part. -/
  | code
  /-- The name behind a backslash replaces a character. -/
  | name
  /-- There is no such remedy. -/
  | unknown
  deriving DecidableEq, Repr

namespace Remedy

/-- The remedy with a name; the surrogates that some remedies are about occur in no text. -/
def ofName (name : String) : Remedy :=
  match name with
  | "strict" | "surrogateescape" | "surrogatepass" => .refuse
  | "ignore" => .skip
  | "replace" => .mark
  | "xmlcharrefreplace" => .number
  | "backslashreplace" => .code
  | "namereplace" => .name
  | _ => .unknown

/-- What replaces a character that a charset lacks. -/
def forMissing (remedy : Remedy) (c : Char) : Except Fault (List Char) :=
  match remedy with
  | .refuse => .error .unencodable
  | .skip => .ok []
  | .mark => .ok ['?']
  | .number => .ok ('&' :: '#' :: decimal c.toNat ++ [';'])
  | .code => .ok (charCode c)
  | .name =>
      .ok (match nameOf? c with
        | some found => "\\N\x7b".toList ++ found ++ ['\x7d']
        | none => charCode c)
  | .unknown => .error .unknownCharset

end Remedy

/-! ## Writing -/

/-- The fault of a name that is no charset, for a text. -/
def faultOf : Fault → Fault
  | .unmarked => .unmarked
  | _ => .unknownCharset

/-- The octets in front of every text. -/
def lead : Charset → List UInt8
  | .utf8 true => [0xef, 0xbb, 0xbf]
  | .utf16 none => OctetOrder.little.octets 2 0xfeff
  | .utf32 none => OctetOrder.little.octets 4 0xfeff
  | _ => []

/-- The octets of a character; none if the charset lacks it. -/
def encodeChar? : Charset → Char → Option (List UInt8)
  | .utf8 _, c => some (Utf8.encodeChar c)
  | .utf16 order, c => some (encodeChar16 (order.getD .little) c)
  | .utf32 order, c => some (encodeChar32 (order.getD .little) c)
  | .utf7, c => if c.toNat < 0x80 then some [UInt8.ofNat c.toNat] else none
  | .page found, c => found.encodeChar? c
  | .paired found, c => found.encodeChar? c
  | .other _, _ => none

/-- The octets of a text without what stands in front. -/
def encodeFrom (charset : Charset) (remedy : Remedy) : List Char → Except Fault (List UInt8)
  | [] => .ok []
  | c :: rest => do
      let octets ← match charset.encodeChar? c with
        | some octets => .ok octets
        | none => do
            let other ← remedy.forMissing c
            match other.mapM charset.encodeChar? with
            | some octets => .ok octets.flatten
            | none => .error .unencodable
      .ok (octets ++ (← charset.encodeFrom remedy rest))

/-- The octets of a text. -/
def encode (charset : Charset) (remedy : Remedy) (text : List Char) :
    Except Fault (List UInt8) := do
  match charset with
  | .other fault => .error (faultOf fault)
  | _ => .ok (charset.lead ++ (← charset.encodeFrom remedy text))

/-! ## Reading -/

/-- The character in front of some octets, with the number of its octets. -/
def leading? (octets : List UInt8) : Option (Char × Nat) :=
  [1, 2, 3, 4].findSome? fun size =>
    match Utf8.decode? (octets.take size) with
    | some [c] => some (c, size)
    | _ => none

/-- The text of octets, with the code of each malformed octet in its place. -/
def decodeCoded : (fuel : Nat) → List UInt8 → List Char
  | 0, _ | _, [] => []
  | fuel + 1, octet :: rest =>
      match leading? (octet :: rest) with
      | some (c, size) => c :: decodeCoded fuel (rest.drop (size - 1))
      | none => charCode (Char.ofNat octet.toNat) ++ decodeCoded fuel rest

/-- Whether octets are malformed, given what a lenient reading makes of them. -/
def isMalformed (charset : Charset) (octets : List UInt8) (found : List Char) : Bool :=
  match charset with
  | .utf8 _ => (Utf8.decode? octets).isNone
  | _ => found.contains replacement

/-- Units without a mark of their order start with the least significant octet. -/
def settled (charset : Charset) (octets : List UInt8) : Charset :=
  let begins (size : Nat) : Bool :=
    [OctetOrder.little, .big].any fun order => order.octets size 0xfeff = octets.take size
  match charset with
  | .utf16 none => if begins 2 then charset else .utf16 (some .little)
  | .utf32 none => if begins 4 then charset else .utf32 (some .little)
  | _ => charset

/-- The text of octets, with a remedy for malformed ones. -/
def decodeWith (charset : Charset) (remedy : Remedy) (octets : List UInt8) :
    Except Fault (List Char) := do
  match charset with
  | .other fault => .error (faultOf fault)
  | _ =>
      let found ← (charset.settled octets).decode octets
      if !charset.isMalformed octets found then .ok found
      else match remedy with
        | .refuse => .error .undecodable
        | .skip => .ok (found.filter (· != replacement))
        | .mark => .ok found
        | .code => .ok (decodeCoded octets.length octets)
        | .number | .name => .error .badKind
        | .unknown => .error .unknownCharset

end ClientGen.Text.Charset
