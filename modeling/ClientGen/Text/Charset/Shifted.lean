import ClientGen.Text.Base64
import ClientGen.Text.Charset.Page

/-!
# Text in seven bits

A charset whose octets are all ASCII. Most characters stand for themselves; between a plus sign and
a minus sign stand the units of all others, six bits to a letter.
-/

namespace ClientGen.Text.Charset

/-!
## Units of several octets

Charsets that cut text into units of two or four octets, in either order of the octets. Two units of
two octets make one character beyond the first plane.
-/

/-- The order of the octets of a unit. -/
inductive OctetOrder where
  /-- The least significant octet comes first. -/
  | little
  /-- The most significant octet comes first. -/
  | big
  deriving DecidableEq, Repr

namespace OctetOrder

/-- The number that the octets of a unit denote. -/
def number (order : OctetOrder) (octets : List UInt8) : Nat :=
  let octets := match order with
    | .big => octets
    | .little => octets.reverse
  octets.foldl (fun n octet => n * 256 + octet.toNat) 0

/-- The octets of a unit of a size. -/
def octets (order : OctetOrder) (size n : Nat) : List UInt8 :=
  let ascending := (List.range size).map fun i => UInt8.ofNat (n / Nat.pow 256 i % 256)
  match order with
  | .little => ascending
  | .big => ascending.reverse

end OctetOrder

/-! ## Two octets -/

/-- Whether a unit is the first half of a character. -/
def isHigh (unit : Nat) : Bool := 0xd800 ≤ unit && unit < 0xdc00

/-- Whether a unit is the second half of a character. -/
def isLow (unit : Nat) : Bool := 0xdc00 ≤ unit && unit < 0xe000

/-- The character of two halves. -/
def joined (high low : Nat) : Char :=
  Char.ofNat (0x10000 + (high - 0xd800) * 0x400 + (low - 0xdc00))

/-- The text of octets in units of two. -/
def decode16 (order : OctetOrder) : List UInt8 → List Char
  | [] => []
  | [_] => [replacement]
  | a :: b :: rest =>
      let unit := order.number [a, b]
      if isHigh unit then
        match rest with
        | c :: d :: others =>
            let next := order.number [c, d]
            if isLow next then joined unit next :: decode16 order others
            else replacement :: decode16 order (c :: d :: others)
        | _ => [replacement]
      else if isLow unit then replacement :: decode16 order rest
      else Char.ofNat unit :: decode16 order rest

/-- The octets of a character in units of two. -/
def encodeChar16 (order : OctetOrder) (c : Char) : List UInt8 :=
  let n := c.toNat
  if n < 0x10000 then order.octets 2 n
  else
    order.octets 2 (0xd800 + (n - 0x10000) / 0x400) ++ order.octets 2 (0xdc00 + (n - 0x10000) % 0x400)

/-! ## Four octets -/

/-- The character of a number, if there is one. -/
def charOf (n : Nat) : Char :=
  if n < 0xd800 || (0xe000 ≤ n && n < 0x110000) then Char.ofNat n else replacement

/-- The text of octets in units of four. -/
def decode32 (order : OctetOrder) : List UInt8 → List Char
  | [] => []
  | a :: b :: c :: d :: rest => charOf (order.number [a, b, c, d]) :: decode32 order rest
  | _ => [replacement]

/-- The octets of a character in units of four. -/
def encodeChar32 (order : OctetOrder) (c : Char) : List UInt8 := order.octets 4 c.toNat

/-! ## Shifted runs -/

/-- What a reader inside of a shifted run has collected. -/
structure Shift where
  /-- Bits that make no unit yet. -/
  buffer : Nat
  /-- The number of those bits. -/
  bits : Nat
  /-- The first half of a character, when that is the last unit. -/
  high : Option Nat

namespace Shift

/-- The start of a run. -/
def start : Shift := ⟨0, 0, none⟩

/-- Take a unit; the characters that are complete with it. -/
def take (shift : Shift) (unit : Nat) : List Char × Option Nat :=
  match shift.high with
  | some high =>
      if isLow unit then ([joined high unit], none)
      else if isHigh unit then ([replacement], some unit)
      else ([replacement, Char.ofNat unit], none)
  | none =>
      if isHigh unit then ([], some unit)
      else if isLow unit then ([replacement], none)
      else ([Char.ofNat unit], none)

/-- Take six bits; the characters that are complete with them. -/
def push (shift : Shift) (six : Nat) : List Char × Shift :=
  let buffer := shift.buffer * 64 + six
  let bits := shift.bits + 6
  if bits < 16 then ([], { shift with buffer, bits })
  else
    let rest := bits - 16
    let (found, high) := shift.take (buffer / Nat.pow 2 rest)
    (found, ⟨buffer % Nat.pow 2 rest, rest, high⟩)

/-- Whether the bits that are left make a run malformed. -/
def isBroken (shift : Shift) : Bool := 6 ≤ shift.bits || shift.buffer != 0

/-- What is left of a first half whose second half is missing. -/
def leftover (shift : Shift) : List Char := if shift.high.isSome then [replacement] else []

end Shift

/-- The text of octets in seven bits. The state is that of the run that the octets are in. -/
def decode7 : Option Shift → List UInt8 → List Char
  | none, [] => []
  | some shift, [] => if shift.high.isSome || shift.isBroken then [replacement] else []
  | none, octet :: rest =>
      let c := Char.ofNat octet.toNat
      if c = '+' then
        match rest with
        | [] => []
        | next :: others =>
            let d := Char.ofNat next.toNat
            if d = '-' then '+' :: decode7 none others
            else if (Base64.sextet? d).isSome then decode7 (some .start) (next :: others)
            else replacement :: decode7 none others
      else (if octet < 0x80 then c else replacement) :: decode7 none rest
  | some shift, octet :: rest =>
      let c := Char.ofNat octet.toNat
      match Base64.sextet? c with
      | some six =>
          let (found, next) := shift.push six
          found ++ decode7 (some next) rest
      | none =>
          if shift.isBroken then replacement :: decode7 none rest
          else
            let left := if octet < 0x80 then shift.leftover else []
            if c = '-' then left ++ decode7 none rest
            else left ++ (if octet < 0x80 then c else replacement) :: decode7 none rest

end ClientGen.Text.Charset
