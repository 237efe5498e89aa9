import ClientGen.Text.Basic

/-!
# Octets in base 64

Decoding of base 64. Characters outside the alphabet are skipped, and padding that completes a
group ends the data.
-/

namespace ClientGen.Text.Base64

/-- The six bits of a character of the alphabet. -/
def sextet? (c : Char) : Option Nat :=
  if isUpper c then some (c.toNat - 0x41)
  else if isLower c then some (c.toNat - 0x61 + 26)
  else if isDigit c then some (c.toNat - 0x30 + 52)
  else if c = '+' then some 62
  else if c = '/' then some 63
  else none

/-- The low eight bits of a number as an octet. -/
def octet (n : Nat) : UInt8 := UInt8.ofNat (n % 256)

/-- The octets of a text. The group so far has `filled` characters with the value `bits`, and
`pads` padding characters came after the last of them. -/
def decodeFrom (filled bits pads : Nat) : List Char → Option (List UInt8)
  | [] => if filled = 0 then some [] else none
  | c :: rest =>
      if c = '=' then
        if 2 ≤ filled then
          if 4 ≤ filled + pads + 1 then some [] else decodeFrom filled bits (pads + 1) rest
        else decodeFrom filled bits pads rest
      else match sextet? c with
        | none => decodeFrom filled bits pads rest
        | some six =>
            match filled with
            | 0 => decodeFrom 1 six 0 rest
            | 1 => (decodeFrom 2 (six % 16) 0 rest).map (octet (bits * 4 + six / 16) :: ·)
            | 2 => (decodeFrom 3 (six % 4) 0 rest).map (octet (bits * 16 + six / 4) :: ·)
            | _ => (decodeFrom 0 0 0 rest).map (octet (bits * 64 + six) :: ·)

/-- The octets of a text; none when the last group is incomplete. -/
def decode? (text : List Char) : Option (List UInt8) := decodeFrom 0 0 0 text

end ClientGen.Text.Base64
