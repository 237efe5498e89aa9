import ClientGen.Text.Basic

/-!
# Pages

A charset with one octet for each character is a page of 256 places. Most places hold the character
with the number of the octet; a page lists the others.
-/

namespace ClientGen.Text.Charset

/-- Stands for octets without a character. -/
def replacement : Char := '\ufffd'

/-- Runs of octets, given by the first one, with their characters. All other octets stand for the
characters with their numbers. -/
abbrev Page := List (Nat × String)

namespace Page

/-- The character of an octet in a run, if it is in the run. -/
def inRun? (octet : Nat) (run : Nat × String) : Option Char :=
  if run.1 ≤ octet then run.2.toList[octet - run.1]? else none

/-- The character of an octet. -/
def charAt (page : Page) (octet : Nat) : Char :=
  (page.findSome? (inRun? octet)).getD (Char.ofNat octet)

/-- The text of octets. -/
def decode (page : Page) (octets : List UInt8) : List Char :=
  octets.map fun octet => page.charAt octet.toNat

/-- The octets of a character; none if the page does not have it. -/
def encodeChar? (page : Page) (c : Char) : Option (List UInt8) :=
  if c = replacement then none
  else ((List.range 256).find? fun octet => page.charAt octet == c).map fun octet =>
    [UInt8.ofNat octet]

end Page

/-!
## Sheets

A charset with more characters than octets gives some of them to pairs of octets. Sheets list those
pairs; single octets beyond ASCII can have characters as well.
-/

/-- Runs of pairs: the first octet, the second octet of the first pair, and the characters. -/
abbrev Sheet := List (Nat × Nat × String)

/-- The character that a sheet has for a pair of octets; it can list a pair as one without. -/
def Sheet.charAt? (sheet : Sheet) (first second : Nat) : Option Char :=
  sheet.findSome? fun (lead, start, characters) =>
    if lead = first && start ≤ second then characters.toList[second - start]? else none

/-- A charset in which a character takes one octet or two. ASCII stands for itself. -/
structure Paired where
  /-- The characters of single octets beyond ASCII. -/
  single : Nat → Option Char
  /-- The characters of pairs of octets. -/
  pair : Nat → Nat → Option Char

namespace Paired

/-- The characters of the first of some sheets that lists a pair. -/
def ofSheets (sheets : List Sheet) (first second : Nat) : Option Char :=
  (sheets.findSome? fun sheet => sheet.charAt? first second).filter (· != replacement)

/-- The text of octets. An octet that neither stands for itself nor begins a pair is malformed. -/
def decode (charset : Paired) : List UInt8 → List Char
  | [] => []
  | first :: rest =>
      if first < 0x80 then Char.ofNat first.toNat :: charset.decode rest
      else match charset.single first.toNat with
        | some c => c :: charset.decode rest
        | none =>
            match rest with
            | [] => [replacement]
            | second :: others =>
                match charset.pair first.toNat second.toNat with
                | some c => c :: charset.decode others
                | none => replacement :: charset.decode (second :: others)

/-- The octets that a character can have besides its own number. -/
def candidates : List (List Nat) :=
  let highs := (List.range 128).map (· + 128)
  highs.map (fun octet => [octet]) ++
    highs.flatMap fun first => ((List.range 192).map (· + 64)).map fun second => [first, second]

/-- The octets of a character; none if the charset does not have it. -/
def encodeChar? (charset : Paired) (c : Char) : Option (List UInt8) :=
  if c.toNat < 0x80 then some [UInt8.ofNat c.toNat]
  else
    let found := candidates.find? fun
      | [octet] => charset.single octet == some c
      | [first, second] =>
          (charset.single first).isNone && charset.pair first second == some c
      | _ => false
    found.map fun octets => octets.map UInt8.ofNat

end Paired

end ClientGen.Text.Charset
