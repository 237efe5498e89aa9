import ClientGen.Template.Wording

/-!
# Comparing data

Truth, equality and order of data. Numbers are compared by value, mappings without regard to order,
sequences item by item.
-/

namespace ClientGen.Template

namespace Run

open Datum hiding none

/-! ## Truth -/

/-- Whether a datum counts as true. -/
def isTruthy (datum : Datum) : Run Bool :=
  match datum with
  | .undefined _ | .none => pure false
  | .bool b => pure b
  | .int n => pure (n != 0)
  | .float x => pure (!x.isZero)
  | .complex z => pure (!(z.real.isZero && z.imaginary.isZero))
  | .text s | .markup s => pure (!s.isEmpty)
  | .bytes octets => pure (!octets.isEmpty)
  | .span micro => pure (micro != 0)
  | .tuple items => pure (!items.isEmpty)
  | .range start stop step => pure (rangeSize start stop step != 0)
  | .list place => do pure (!(← listAt place).isEmpty)
  | .map place | .view _ place => do pure (!(← entriesAt place).isEmpty)
  | .set place => do pure (!(← membersAt place).isEmpty)
  | _ => pure true

/-! ## Equality -/

/-- Whether all pairs of items of two sequences are related. -/
def allPairs (related : Datum → Datum → Run Bool) : List Datum → List Datum → Run Bool
  | [], [] => pure true
  | a :: as, b :: bs => do if ← related a b then allPairs related as bs else pure false
  | _, _ => pure false

/-- Whether a sequence has an item that is related to a datum. -/
def anyRelated (related : Datum → Run Bool) : List Datum → Run Bool
  | [] => pure false
  | a :: rest => do if ← related a then pure true else anyRelated related rest

/-- The first entry whose key is related to a datum, with its position. -/
def findEntry (related : Datum → Run Bool) : (position : Nat) → List (Datum × Datum) →
    Run (Option (Nat × Datum × Datum))
  | _, [] => pure none
  | position, (key, value) :: rest => do
      if ← related key then pure (some (position, key, value))
      else findEntry related (position + 1) rest

/-- Whether all entries of one mapping are entries of another. -/
def allEntries (related : Datum → Datum → Run Bool) (others : List (Datum × Datum)) :
    List (Datum × Datum) → Run Bool
  | [] => pure true
  | (key, value) :: rest => do
      match ← findEntry (related key) 0 others with
      | some (_, _, other) =>
          if ← related value other then allEntries related others rest else pure false
      | .none => pure false

/-- Whether all items of one sequence are among those of another. -/
def allAmong (related : Datum → Datum → Run Bool) (others : List Datum) : List Datum → Run Bool
  | [] => pure true
  | item :: rest => do
      if ← anyRelated (related item) others then allAmong related others rest else pure false

/-- Whether two ranges have the same integers. -/
def sameRange (a b : Int × Int × Int) : Bool :=
  let size := rangeSize a.1 a.2.1 a.2.2
  size == rangeSize b.1 b.2.1 b.2.2 &&
    (size == 0 || (a.1 == b.1 && (size == 1 || a.2.2 == b.2.2)))

/-- The members of a set, or of a view that is like one. -/
def setItems? : Datum → Run (Option (List Datum))
  | .set place => do pure (some (← membersAt place).toList)
  | .view .keys place => do pure (some (shownBy .keys (← entriesAt place).toList))
  | .view .entries place => do pure (some (shownBy .entries (← entriesAt place).toList))
  | _ => pure none

/-- Equality of two data that are no numbers and no text. -/
def sameFrom : (fuel : Nat) → Datum → Datum → Run Bool
  | 0, _, _ => fault .endless
  | fuel + 1, left, right =>
      let related := sameFrom fuel
      match left.number?, right.number?, left.text?, right.text? with
      | some a, some b, _, _ => pure (a.compare? b == some .eq)
      | _, _, some a, some b => pure (a == b)
      | _, _, _, _ =>
          match left, right with
          | .undefined _, .undefined _ | .none, .none => pure true
          | .complex z, other | other, .complex z => pure (other.complex?.any z.same)
          | .bytes a, .bytes b => pure (a == b)
          | .day a, .day b => pure (a == b)
          | .moment a, .moment b => pure (a.same b)
          | .span a, .span b => pure (a == b)
          | .zone a, .zone b => pure (a == b)
          | .tuple xs, .tuple ys => allPairs related xs ys
          | .group key items, .tuple ys => allPairs related [key, items] ys
          | .tuple xs, .group key items => allPairs related xs [key, items]
          | .group k xs, .group l ys => allPairs related [k, xs] [l, ys]
          | .range a b c, .range d e f => pure (sameRange (a, b, c) (d, e, f))
          | .bounds a b c, .bounds d e f => allPairs related [a, b, c] [d, e, f]
          | .list a, .list b => do
              if a == b then pure true
              else allPairs related (← listAt a).toList (← listAt b).toList
          | .map a, .map b => do
              if a == b then pure true
              else
                let xs ← entriesAt a
                let ys ← entriesAt b
                if xs.size == ys.size then allEntries related ys.toList xs.toList else pure false
          | .node a, .node b => do
              if a == b then pure true
              else
                let (name, fields) ← fieldsAt a
                let (other, others) ← fieldsAt b
                if name == other then allPairs related (fields.map (·.2)) (others.map (·.2))
                else pure false
          | .space a, .space b | .cycler a, .cycler b | .joiner a, .joiner b
          | .procedure a, .procedure b | .loop a, .loop b | .loaded a, .loaded b
          | .stream a, .stream b | .current a, .current b => pure (a == b)
          | .view .values a, .view .values b => pure (a == b)
          | .block .., .block .. => pure false
          | .method a n, .method b m => do if n == m then related a b else pure false
          | .function a, .function b | .type a, .type b => pure (a == b)
          | left, right => do
              match ← setItems? left, ← setItems? right with
              | some xs, some ys =>
                  if xs.length == ys.length then allAmong related ys xs else pure false
              | _, _ => pure false

/-- Equality of two data. -/
def same (left right : Datum) : Run Bool := sameFrom greatestDepth left right

/-! ## Keys -/

mutual

/-- Whether a datum can be a key: it must not change. -/
def isKey : Datum → Bool
  | .list _ | .map _ | .set _ | .view .keys _ | .view .entries _ | .node _ | .bounds .. => false
  | .tuple items => areKeys items
  | .group key items => isKey key && isKey items
  | .method receiver _ => isKey receiver
  | _ => true

/-- Whether data can all be keys. -/
def areKeys : List Datum → Bool
  | [] => true
  | item :: rest => isKey item && areKeys rest

end

/-- A datum that has to be a key. -/
def asKey (datum : Datum) : Run Datum := if isKey datum then pure datum else unsupported

/-- The entry of a key, with its position. -/
def entry? (key : Datum) (entries : Array (Datum × Datum)) : Run (Option (Nat × Datum × Datum)) := do
  let key ← asKey key
  findEntry (same key) 0 entries.toList

/-- The value of a key. -/
def lookup? (key : Datum) (entries : Array (Datum × Datum)) : Run (Option Datum) := do
  pure ((← entry? key entries).map fun (_, _, value) => value)

/-- Set the value of a key; a new key goes to the end, a known one keeps its place. -/
def put (key value : Datum) (entries : Array (Datum × Datum)) : Run (Array (Datum × Datum)) := do
  match ← entry? key entries with
  | some (position, known, _) => pure (entries.setIfInBounds position (known, value))
  | .none => pure (entries.push (key, value))

/-- Set several entries one after the other. -/
def putAll (new : List (Datum × Datum)) (entries : Array (Datum × Datum)) :
    Run (Array (Datum × Datum)) :=
  new.foldlM (fun done (key, value) => put key value done) entries

/-- Add a member to a set, unless it is there. -/
def addMember (item : Datum) (members : List Datum) : Run (List Datum) := do
  let item ← asKey item
  if ← anyRelated (same item) members then pure members else pure (members ++ [item])

/-- The distinct members among some items, in order. -/
def membersOf (items : List Datum) : Run (List Datum) :=
  items.foldlM (fun done item => addMember item done) []

/-! ## Order -/

/-- A comparison by order. -/
inductive Inequality where
  /-- Less. -/
  | less
  /-- Less or equal. -/
  | atMost
  /-- Greater. -/
  | greater
  /-- Greater or equal. -/
  | atLeast
  deriving DecidableEq, Repr

/-- Whether a comparison allows an order. -/
def Inequality.allows (inequality : Inequality) (order : Ordering) : Bool :=
  match inequality, order with
  | .less, .lt | .atMost, .lt | .atMost, .eq | .greater, .gt | .atLeast, .gt | .atLeast, .eq => true
  | _, _ => false

/-- A comparison of two sequences: that of the first items that differ, or else of the lengths. -/
def compareItems (related : Datum → Datum → Run Bool) (inequality : Inequality) :
    List Datum → List Datum → Run Bool
  | [], [] => pure (inequality.allows .eq)
  | [], _ :: _ => pure (inequality.allows .lt)
  | _ :: _, [] => pure (inequality.allows .gt)
  | a :: as, b :: bs => do
      if ← same a b then compareItems related inequality as bs else related a b

/-- A comparison of two sets: whether one is a part of the other. -/
def compareSets (inequality : Inequality) (xs ys : List Datum) : Run Bool :=
  match inequality with
  | .less => do if xs.length < ys.length then allAmong same ys xs else pure false
  | .atMost => allAmong same ys xs
  | .greater => do if ys.length < xs.length then allAmong same xs ys else pure false
  | .atLeast => allAmong same xs ys

/-- The order of two moments; it is not defined between one with and one without its distance
from universal time. -/
def momentOrder (a b : Moment) : Run Ordering :=
  match a.universalClock?, b.universalClock? with
  | some x, some y => pure (Ord.compare x y)
  | .none, .none => pure (Ord.compare a.ownClock b.ownClock)
  | _, _ => unsupported

/-- A comparison of two data by order. -/
def compareFrom (inequality : Inequality) : (fuel : Nat) → Datum → Datum → Run Bool
  | 0, _, _ => fault .endless
  | fuel + 1, left, right =>
      let related := compareFrom inequality fuel
      match left, right with
      | .undefined name, _ | _, .undefined name => missing name
      | _, _ =>
          match left.number?, right.number?, left.text?, right.text? with
          | some a, some b, _, _ =>
              pure ((a.compare? b).any inequality.allows)
          | _, _, some a, some b => pure (inequality.allows (Ord.compare a b))
          | _, _, _, _ =>
              match left, right with
              | .bytes a, .bytes b =>
                  pure (inequality.allows (Ord.compare (a.map UInt8.toNat) (b.map UInt8.toNat)))
              | .day a, .day b => pure (inequality.allows (Ord.compare a.ordinal b.ordinal))
              | .moment a, .moment b => do pure (inequality.allows (← momentOrder a b))
              | .span a, .span b => pure (inequality.allows (Ord.compare a b))
              | .list a, .list b => do
                  compareItems related inequality (← listAt a).toList (← listAt b).toList
              | .tuple xs, .tuple ys => compareItems related inequality xs ys
              | .group key items, .tuple ys => compareItems related inequality [key, items] ys
              | .tuple xs, .group key items => compareItems related inequality xs [key, items]
              | .group k xs, .group l ys => compareItems related inequality [k, xs] [l, ys]
              | left, right => do
                  match ← setItems? left, ← setItems? right with
                  | some xs, some ys => compareSets inequality xs ys
                  | _, _ => unsupported

/-- A comparison of two data by order. -/
def isOrdered (inequality : Inequality) (left right : Datum) : Run Bool :=
  compareFrom inequality greatestDepth left right

/-- Whether one datum is less than another. -/
def isLess (left right : Datum) : Run Bool := isOrdered .less left right

/-! ## Sorting -/

/-- The position at which an item goes into a sorted sequence: behind those that it is not less
than. -/
def insertionPoint (less : Datum → Datum → Run Bool) (key : Datum)
    (sorted : Array (Datum × Datum)) : (fuel low high : Nat) → Run Nat
  | 0, low, _ => pure low
  | fuel + 1, low, high => do
      if low < high then
        let middle := (low + high) / 2
        match sorted[middle]? with
        | some (other, _) =>
            if ← less key other then insertionPoint less key sorted fuel low middle
            else insertionPoint less key sorted fuel (middle + 1) high
        | .none => pure low
      else pure low

/-- The length of the sequence in front, which is in order, or in strictly descending order. -/
def runLength (less : Datum → Datum → Run Bool) (isDescending : Bool) :
    (last : Datum) → List Datum → Run Nat
  | _, [] => pure 0
  | last, key :: rest => do
      if (← less key last) == isDescending then
        pure ((← runLength less isDescending key rest) + 1)
      else pure 0

/-- Pairs of keys and items in the order of the keys; equal keys keep their order. -/
def sortPairs (less : Datum → Datum → Run Bool) (pairs : List (Datum × Datum)) :
    Run (List (Datum × Datum)) := do
  match pairs with
  | [] | [_] => pure pairs
  | first :: second :: rest => do
      let isDescending ← less second.1 first.1
      let length ← runLength less isDescending first.1 ((second :: rest).map (·.1))
      let start := pairs.take (length + 1)
      let start := if isDescending then start.reverse else start
      let sorted ← (pairs.drop (length + 1)).foldlM
        (fun (done : Array (Datum × Datum)) pair => do
          let place ← insertionPoint less pair.1 done (done.size + 1) 0 done.size
          pure (done.insertIdxIfInBounds place pair))
        start.toArray
      pure sorted.toList

/-- Items in the order of their keys, or in the opposite order; equal keys keep their order. -/
def sortBy (isReversed : Bool) (key : Datum → Run Datum) (items : List Datum) :
    Run (List Datum) := do
  let pairs ← items.mapM fun item => do pure (← key item, item)
  let sorted ← sortPairs isLess (if isReversed then pairs.reverse else pairs)
  let items := sorted.map (·.2)
  pure (if isReversed then items.reverse else items)

end Run

end ClientGen.Template
