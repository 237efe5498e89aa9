import ClientGen.Text.Letter
import ClientGen.Text.Search

/-!
# Links in text

Words of a text that are addresses of pages or mailboxes become links. Brackets and punctuation
around an address do not belong to it, unless they make pairs with brackets inside of it.
-/

namespace ClientGen.Text

/-! ## Addresses -/

/-- Text in small ASCII letters. -/
def small (text : List Char) : List Char := text.map Char.toLower

/-- Drop a leading text without regard to case. -/
def dropLeadingAnyCase? (lead text : List Char) : Option (List Char) :=
  if startsWith lead (small (text.take lead.length)) then some (text.drop lead.length) else none

/-- A character of a part of a host name. -/
def isHostChar (c : Char) : Bool := isWordChar c || c == '%' || c == '-'

/-- Whether a text is a name of a domain without points. -/
def isTopDomain (text : List Char) : Bool :=
  (2 ≤ text.length && text.length ≤ 63 && text.all isLetter) ||
    match dropLeadingAnyCase? "xn--".toList text with
    | some rest =>
        2 ≤ rest.length && rest.length ≤ 59 && rest.all fun c => isWordChar c || c == '%'
    | none => false

/-- Whether a text is a host name after a scheme. -/
def isHost (text : List Char) : Bool :=
  match (splitOn '.' text).reverse with
  | last :: before => isTopDomain last && before.all fun part => !part.isEmpty && part.all isHostChar
  | [] => false

/-- The domains that make an address without a scheme. -/
def commonDomains : List String := ["com", "net", "int", "edu", "gov", "org", "info", "mil"]

/-- Whether a text is a host name in one of the common domains. -/
def isCommonHost (text : List Char) : Bool :=
  match (splitOn '.' text).reverse with
  | last :: before =>
      commonDomains.contains (String.ofList (small last)) && !before.isEmpty &&
        before.all fun part => 2 ≤ part.length && part.length ≤ 63 && part.all isHostChar
  | [] => false

/-- Whether a text is four numbers with points between them. -/
def isNumberedHost (text : List Char) : Bool :=
  let parts := splitOn '.' text
  parts.length == 4 &&
    parts.all fun part => 1 ≤ part.length && part.length ≤ 3 && part.all isDecimal

/-- A hexadecimal digit of an address. -/
def isAddressDigit (c : Char) : Bool := isHexDigit c || isDecimal c

/-- The number of groups of at most four digits in the pieces between colons. -/
def groupCount : List (List Char) → Nat
  | [] => 0
  | [last] => (last.length + 3) / 4
  | piece :: rest => Nat.max 1 ((piece.length + 3) / 4) + groupCount rest

/-- Whether a text is an address of groups of digits with colons between them. -/
def isGroupedHost (text : List Char) : Bool :=
  match splitOn ':' text with
  | first :: second :: rest =>
      (first :: second :: rest).all (fun piece => piece.all isAddressDigit) &&
        first.length ≤ 4 && second.length ≤ 4 && !rest.isEmpty && groupCount rest ≤ 6
  | _ => false

/-- Whether a text is a path, a query or a fragment, or nothing. -/
def isAfterHost (text : List Char) : Bool :=
  match text with
  | [] => true
  | c :: _ => (c == '/' || c == '?' || c == '#') && !text.any isBlank

/-- Whether a text is what can follow a host: a port and a path, both of which can be missing. -/
def isAfterName (text : List Char) : Bool :=
  isAfterHost text ||
    match text with
    | ':' :: rest =>
        let digits := rest.takeWhile isDecimal
        1 ≤ digits.length && digits.length ≤ 5 && isAfterHost (rest.drop digits.length)
    | _ => false

/-- Whether a text is a host that meets a condition, and what can follow it. -/
def hasHost (isName : List Char → Bool) (text : List Char) : Bool :=
  let isPart := fun c => isHostChar c || c == '.'
  isName (text.takeWhile isPart) && isAfterName (text.dropWhile isPart)

/-- What follows a scheme of web pages. -/
def afterScheme? (text : List Char) : Option (List Char) :=
  (dropLeadingAnyCase? "http://".toList text).orElse fun _ =>
    dropLeadingAnyCase? "https://".toList text

/-- Whether a text is the address of a page. -/
def isPage (text : List Char) : Bool :=
  let named := match (afterScheme? text).orElse fun _ => dropLeadingAnyCase? "www.".toList text with
    | some rest => hasHost isHost rest
    | none => false
  let numbered := match afterScheme? text with
    | some ('[' :: rest) =>
        match cutAt? ']' rest with
        | some (inner, after) => isGroupedHost inner && isAfterName after
        | none => false
    | some rest => hasHost isNumberedHost rest
    | none => false
  named || hasHost isCommonHost text || numbered

/-- Whether a text is the address of a mailbox. -/
def isMailbox (text : List Char) : Bool :=
  match cutLast? ['@'] text with
  | some (before, after) =>
      !before.isEmpty && !before.any isBlank &&
        match cutLast? ['.'] after with
        | some (c :: host, top) =>
            isWordChar c && host.all (fun d => isWordChar d || d == '.' || d == '-') &&
              !top.isEmpty && top.all isWordChar
        | _ => false
  | none => false

/-! ## Words -/

/-- The length of the marks at the start of a text, out of some marks. -/
def leadLength (marks : List (List Char)) : (fuel : Nat) → List Char → Nat
  | 0, _ => 0
  | fuel + 1, text =>
      match marks.find? fun mark => startsWith mark text with
      | some mark => mark.length + leadLength marks fuel (text.drop mark.length)
      | none => 0

/-- A word without the brackets in front and the marks behind. -/
def divideWord (word : List Char) : List Char × List Char × List Char :=
  let size := leadLength ["(".toList, "<".toList, "&lt;".toList] word.length word
  let middle := word.drop size
  let marks := [")", ">", ".", ",", "\n", "&gt;"].map String.toList
  let tailSize := leadLength (marks.map List.reverse) middle.length middle.reverse
  (word.take size, middle.take (middle.length - tailSize), middle.drop (middle.length - tailSize))

/-- Move closing marks from the tail to the middle, so many at most. -/
def moveClosing (closing : List Char) : (count : Nat) → List Char × List Char →
    List Char × List Char
  | 0, parts => parts
  | count + 1, (middle, tail) =>
      match cutText? closing tail with
      | some (before, after) => moveClosing closing count (middle ++ before ++ closing, after)
      | none => (middle, tail)

/-- Let opening brackets inside of a word have their closing ones. -/
def balance (parts : List Char × List Char) : List Char × List Char :=
  [("(", ")"), ("<", ">"), ("&lt;", "&gt;")].foldl
    (fun (middle, tail) (opening, closing) =>
      let count := occurrenceCount opening.toList middle
      if count ≤ occurrenceCount closing.toList middle then (middle, tail)
      else moveClosing closing.toList (Nat.min count (occurrenceCount closing.toList tail))
        (middle, tail))
    parts

/-- How links are written. -/
structure LinkStyle where
  /-- The greatest length of an address that is shown. -/
  limit : Option Int
  /-- The further attributes of a link. -/
  attributes : List Char
  /-- Beginnings of further addresses. -/
  schemes : List (List Char)

/-- An address as it is shown. -/
def LinkStyle.shown (style : LinkStyle) (address : List Char) : List Char :=
  match style.limit with
  | some limit =>
      if limit < address.length then
        address.take (partBounds none (some limit) address.length).2 ++ "...".toList
      else address
  | none => address

/-- A link. -/
def LinkStyle.link (style : LinkStyle) (address shown : List Char) (isPlain : Bool) : List Char :=
  "<a href=\"".toList ++ address ++ "\"".toList ++ (if isPlain then [] else style.attributes) ++
    ">".toList ++ shown ++ "</a>".toList

/-- A word that is an address as a link. -/
def LinkStyle.linked (style : LinkStyle) (word : List Char) : List Char :=
  let mail := dropLeading? "mailto:".toList word
  if isPage word then
    let hasScheme := startsWith "https://".toList word || startsWith "http://".toList word
    style.link (if hasScheme then word else "https://".toList ++ word) (style.shown word) false
  else if mail.any isMailbox then style.link word (mail.getD []) true
  else if word.contains '@' && !startsWith "www.".toList word && word.head? != some '@' &&
      !word.contains ':' && isMailbox word then
    style.link ("mailto:".toList ++ word) word true
  else
    style.schemes.foldl
      (fun done scheme =>
        if done != scheme && startsWith scheme done then style.link done done false else done)
      word

/-- A word of a text with a link in it, if it is an address. -/
def LinkStyle.word (style : LinkStyle) (word : List Char) : List Char :=
  let (head, middle, tail) := divideWord word
  let (middle, tail) := balance (middle, tail)
  head ++ style.linked middle ++ tail

/-- A text with its words changed and its white space kept. -/
def mapWords (f : List Char → List Char) : (fuel : Nat) → List Char → List Char
  | 0, text => text
  | fuel + 1, text =>
      let word := text.takeWhile fun c => !isBlank c
      let rest := text.drop word.length
      let gap := rest.takeWhile isBlank
      let shown := (if word.isEmpty then [] else f word) ++ gap
      if gap.isEmpty then shown else shown ++ mapWords f fuel (rest.drop gap.length)

/-- A text with links. -/
def withLinks (style : LinkStyle) (text : List Char) : List Char :=
  mapWords style.word (text.length + 1) text

end ClientGen.Text
