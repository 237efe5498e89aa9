/-!
# Octets of text

Decoding and encoding of UTF-8. A strict reading refuses a malformed sequence; a lenient one puts
the replacement character for each maximal part of it.
-/

namespace ClientGen.Text.Utf8

/-- An octet that continues a character. -/
def isTail (octet : UInt8) : Bool := 0x80 ≤ octet && octet ≤ 0xbf

/-- How many octets follow a first octet, and the range of the second one. -/
def following (octet : UInt8) : Option (Nat × UInt8 × UInt8) :=
  if 0xc2 ≤ octet && octet ≤ 0xdf then some (1, 0x80, 0xbf)
  else if octet = 0xe0 then some (2, 0xa0, 0xbf)
  else if octet = 0xed then some (2, 0x80, 0x9f)
  else if 0xe1 ≤ octet && octet ≤ 0xef then some (2, 0x80, 0xbf)
  else if octet = 0xf0 then some (3, 0x90, 0xbf)
  else if octet = 0xf4 then some (3, 0x80, 0x8f)
  else if 0xf1 ≤ octet && octet ≤ 0xf3 then some (3, 0x80, 0xbf)
  else none

/-- The bits that a first octet gives to the code point. -/
def leadBits (octet : UInt8) : Nat :=
  let n := octet.toNat
  if n < 0xe0 then n % 0x20 else if n < 0xf0 then n % 0x10 else n % 0x08

/-- A character begun by earlier octets. -/
structure Pending where
  /-- Octets still owed. -/
  owed : Nat
  /-- Bits collected so far. -/
  code : Nat
  /-- Least octet that may come next. -/
  least : UInt8
  /-- Greatest octet that may come next. -/
  greatest : UInt8

/-- What one octet does between characters: a character, the start of one, or a fault. -/
def start (octet : UInt8) : Option (Sum Char Pending) :=
  if octet < 0x80 then some (.inl (Char.ofNat octet.toNat))
  else (following octet).map fun (owed, least, greatest) =>
    .inr ⟨owed, leadBits octet, least, greatest⟩

/-- What one octet does inside a character. -/
def Pending.take (pending : Pending) (octet : UInt8) : Option (Sum Char Pending) :=
  if pending.least ≤ octet && octet ≤ pending.greatest then
    let code := pending.code * 64 + octet.toNat % 64
    if pending.owed ≤ 1 then some (.inl (Char.ofNat code))
    else some (.inr ⟨pending.owed - 1, code, 0x80, 0xbf⟩)
  else none

/-- Decode octets, reporting each malformed part through `fault`. -/
def decodeWith (fault : Option Char) : Option Pending → List UInt8 → Option (List Char)
  | none, [] => some []
  | some _, [] => fault.map ([·])
  | none, octet :: rest =>
      match start octet with
      | some (.inl c) => (decodeWith fault none rest).map (c :: ·)
      | some (.inr pending) => decodeWith fault (some pending) rest
      | none => fault.bind fun mark => (decodeWith fault none rest).map (mark :: ·)
  | some pending, octet :: rest =>
      match pending.take octet with
      | some (.inl c) => (decodeWith fault none rest).map (c :: ·)
      | some (.inr next) => decodeWith fault (some next) rest
      | none =>
          fault.bind fun mark =>
            match start octet with
            | some (.inl c) => (decodeWith fault none rest).map (mark :: c :: ·)
            | some (.inr next) => (decodeWith fault (some next) rest).map (mark :: ·)
            | none => (decodeWith fault none rest).map (mark :: mark :: ·)

/-- The text of well-formed octets. -/
def decode? (octets : List UInt8) : Option (List Char) := decodeWith none none octets

/-- The text of any octets, with replacement characters for the malformed parts. -/
def decodeLenient (octets : List UInt8) : List Char :=
  (decodeWith (some (Char.ofNat 0xfffd)) none octets).getD []

/-- The octets of one character. -/
def encodeChar (c : Char) : List UInt8 :=
  let n := c.toNat
  let tail (shift : Nat) : UInt8 := UInt8.ofNat (0x80 + n / shift % 64)
  if n < 0x80 then [UInt8.ofNat n]
  else if n < 0x800 then [UInt8.ofNat (0xc0 + n / 64), tail 1]
  else if n < 0x10000 then [UInt8.ofNat (0xe0 + n / 4096), tail 64, tail 1]
  else [UInt8.ofNat (0xf0 + n / 262144), tail 4096, tail 64, tail 1]

/-- The octets of a text. -/
def encode (text : List Char) : List UInt8 := text.flatMap encodeChar

end ClientGen.Text.Utf8
