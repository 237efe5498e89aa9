import ClientGen.Template.Filter.Text

/-!
# Filters of sequences

Filters that go through the items of a datum. Some of them start only when their first item is
asked for: what they give is a stream.
-/

namespace ClientGen.Template

namespace Run

open Datum hiding none

/-! ## Keys of items -/

/-- The key of an item: the value that a way leads to, without regard to case on demand. -/
def itemKey (machine : Machine) (keys : List Datum) (default : Datum) (isCaseSensitive : Bool)
    (item : Datum) : Run Datum := do
  pure (ignoringCase isCaseSensitive (← follow machine default keys item))

/-- The ways in a text with commas between them, or a single way. -/
def waysOf (way : Datum) : List (List Datum) :=
  match way.text? with
  | some s => (Text.splitOn ',' s.toList).map fun part => wayOf (.ofChars part)
  | none => [wayOf way]

/-- Whether an order is reversed. -/
def isReversed (datum : Datum) : Run Bool := do pure ((← intArgument datum) != 0)

/-! ## Order -/

/-- The items in the order of the values that some ways lead to. -/
def sorted (machine : Machine) (datum reversed isCaseSensitive way : Datum) : Run Datum := do
  let isCaseSensitive ← isTruthy isCaseSensitive
  let found ← items machine datum
  let isReversed ← isReversed reversed
  let key (item : Datum) : Run Datum := do
    pure (.tuple (← (waysOf way).mapM fun keys => itemKey machine keys .none isCaseSensitive item))
  newList (← sortBy isReversed key found)

/-- The entries of a mapping in the order of their keys or values. -/
def sortedMap (datum isCaseSensitive part reversed : Datum) : Run Datum := do
  let isByKey ← match part.text? with
    | some "key" => pure true
    | some "value" => pure false
    | _ => fail "entries are sorted by key or by value"
  match datum with
  | .undefined what => missing what
  | .map place => do
      let isCaseSensitive ← isTruthy isCaseSensitive
      let entries := (← entriesAt place).toList
      let isReversed ← isReversed reversed
      let pairs := entries.map fun (key, value) =>
        (ignoringCase isCaseSensitive (if isByKey then key else value), Datum.tuple [key, value])
      let sorted ← sortPairs isLess (if isReversed then pairs.reverse else pairs)
      let shown := sorted.map (·.2)
      newList (if isReversed then shown.reverse else shown)
  | _ => fault .missingMember

/-- The item whose key no other key exceeds in a direction; of several such items the first. -/
def extreme (machine : Machine) (inequality : Inequality) (datum isCaseSensitive way : Datum) :
    Run Datum := do
  let isCaseSensitive ← isTruthy isCaseSensitive
  match ← items machine datum with
  | [] => pure (.undefined "the extreme item of no items")
  | first :: rest => do
      let key := itemKey machine (wayOf way) .none isCaseSensitive
      let best ← rest.foldlM
        (fun (best : Datum × Datum) item => do
          let itsKey ← key item
          if ← isOrdered inequality itsKey best.1 then pure (itsKey, item) else pure best)
        (← key first, first)
      pure best.2

/-- Neighbours with the same key in groups; `group` holds the current one, the last item first. -/
def neighbourGroups (key : Datum) (group : List Datum) : List (Datum × Datum) →
    Run (List (Datum × List Datum))
  | [] => pure [(key, group.reverse)]
  | (other, item) :: rest => do
      if ← same key other then neighbourGroups key (item :: group) rest
      else do pure ((key, group.reverse) :: (← neighbourGroups other [item] rest))

/-- The items in groups with the same key, in the order of the keys. -/
def groups (machine : Machine) (datum way default isCaseSensitive : Datum) : Run Datum := do
  let isCaseSensitive ← isTruthy isCaseSensitive
  let keys := wayOf way
  let pairs ← (← items machine datum).mapM fun item => do
    pure (← itemKey machine keys default isCaseSensitive item, item)
  match ← sortPairs isLess pairs with
  | [] => newList []
  | (first, item) :: rest => do
      let found ← (← neighbourGroups first [item] rest).mapM fun (key, members) => do
        let shown ←
          if isCaseSensitive then pure key
          else follow machine default keys (members.headD .none)
        pure (Datum.group shown (← newList members))
      newList found

/-! ## Ends -/

/-- The first item. -/
def firstItem (machine : Machine) (datum : Datum) : Run Datum := do
  pure ((← machine.next (← openStream datum)).getD (.undefined "the first item of no items"))

/-- The last item. -/
def lastItem (machine : Machine) (datum : Datum) : Run Datum := do
  pure ((← machine.next (← openReversed datum)).getD (.undefined "the last item of no items"))

/-- Some item. -/
def someItem (machine : Machine) (datum : Datum) : Run Datum := do
  if (← size machine datum) = 0 then pure (.undefined "an item of no items")
  else strictItem datum (.int 0)

/-- The items from the last one on. -/
def reversed (machine : Machine) (datum : Datum) : Run Datum := do
  match datum.text? with
  | some s => pure (datum.likeText s.toList.reverse)
  | none =>
      rescue (do pure (.stream (← openReversed datum))) (· == .badKind)
        (do
          let found ← rescue (items machine datum) (· == .badKind) (fail "a sequence is expected")
          newList found.reverse)

/-! ## Joining -/

/-- The items as texts with a text between neighbours. -/
def joined (machine : Machine) (datum separator way : Datum) : Run Datum := do
  let found ← items machine datum
  let found ← match way with
    | .none => pure found
    | other => found.mapM (follow machine .none (wayOf other))
  if ← isEscaping then
    if separator.isMarked || found.any isMarked then do
      let between ← marked separator
      pure (.markup (Text.joinStrings between (← found.mapM marked)))
    else do
      pure (.text (Text.joinStrings (← text separator) (← found.mapM text)))
  else do pure (.text (Text.joinStrings (← text separator) (← found.mapM text)))

/-- The sum of the items and a start. -/
def total (machine : Machine) (datum way start : Datum) : Run Datum := do
  let found ← items machine datum
  let found ← match way with
    | .none => pure found
    | other => found.mapM (follow machine .none (wayOf other))
  match start with
  | .bytes _ => unsupported
  | _ => if start.isText then unsupported else found.foldlM (operate .add) start

/-! ## Parts -/

/-- The items in groups: a group ends when it has a number of items. -/
def batchesFrom (count : Datum) (group : List Datum) : List Datum → Run (List (List Datum))
  | [] => pure (if group.isEmpty then [] else [group.reverse])
  | item :: rest => do
      if ← same (.int group.length) count then
        pure (group.reverse :: (← batchesFrom count [item] rest))
      else batchesFrom count (item :: group) rest

/-- The items in groups of a size, the last one filled up on demand. -/
def batches (machine : Machine) (datum count fill : Datum) : Run (List Datum) := do
  let found ← batchesFrom count [] (← items machine datum)
  let last := found.length - 1
  found.zipIdx.mapM fun (part, position) => do
    match fill with
    | .none => newList part
    | _ =>
        if position = last && !part.isEmpty then
          if ← isOrdered .less (.int part.length) count then
            newList (part ++ List.replicate ((← intArgument count).toNat - part.length) fill)
          else newList part
        else newList part

/-- The items in a number of groups of nearly equal sizes, the smaller ones filled up on demand. -/
def slices (machine : Machine) (datum count fill : Datum) : Run (List Datum) := do
  let found ← items machine datum
  let _ ← operate .floorDivide (.int found.length) count
  let count := (← intArgument count).toNat
  let size := found.length / count
  let larger := found.length % count
  (List.range count).mapM fun i => do
    let part := (found.drop (i * size + Nat.min i larger)).take
      (size + if i < larger then 1 else 0)
    match fill with
    | .none => newList part
    | _ => newList (if larger ≤ i then part ++ [fill] else part)

/-! ## Choosing and changing -/

/-- The change that the arguments of a mapping filter ask for. -/
def changeOf (supplied : Supplied) : Run Change := do
  match supplied.positional, supplied.find? "attribute" with
  | [], some way => do
      let rest := (supplied.without "attribute").without "default"
      if rest.named.isEmpty then
        pure (.follow (wayOf way) ((supplied.find? "default").getD .none))
      else fail "an argument is not expected"
  | [], none => fail "a filter is expected"
  | name :: arguments, _ => pure (.filter name ⟨arguments, supplied.named⟩)

/-- The choice that the arguments of a choosing filter ask for. -/
def choiceOf (isNegated byMember : Bool) (supplied : Supplied) : Run Choice := do
  let (keys, arguments) ← match byMember, supplied.positional with
    | true, way :: rest => pure (wayOf way, rest)
    | true, [] => fail "the name of a member is expected"
    | false, rest => pure ([], rest)
  match arguments with
  | [] => pure ⟨isNegated, keys, none⟩
  | test :: rest => pure ⟨isNegated, keys, some (test, ⟨rest, supplied.named⟩)⟩

/-- The filters that choose items, with what they do: whether they drop items, and whether they
look at a member of each item. -/
def choosers : List (String × Bool × Bool) :=
  [("select", false, false), ("reject", true, false), ("selectattr", false, true),
    ("rejectattr", true, true)]

/-- Start a filter that gives a stream. -/
def startStream (machine : Machine) (name : String) (subject : Datum) (supplied : Supplied) :
    Run Stream := do
  let source : Run Place := openStream subject
  match name, supplied.positional with
  | "items", _ => do
      match subject with
      | .undefined _ => pure (.items [])
      | .map place => do pure (.shown .entries place 0 (← entriesAt place).size)
      | _ => unsupported
  | "batch", [count, fill] => do pure (.items (← batches machine subject count fill))
  | "slice", [count, fill] => do pure (.items (← slices machine subject count fill))
  | "unique", [isCaseSensitive, way] => do
      let isCaseSensitive ← isTruthy isCaseSensitive
      pure (.unique (← source) isCaseSensitive (wayOf way) [])
  | _, _ => do
      if !(← isTruthy subject) then pure (.items [])
      else
        match choosers.find? (·.1 == name) with
        | some (_, isNegated, byMember) => do
            let choice ← choiceOf isNegated byMember supplied
            pure (.chosen (← source) choice)
        | none => do
            let change ← changeOf supplied
            pure (.changed (← source) change)

/-- A filter that starts when its first item is asked for. -/
def lateFilter (name : String) : String × Filter :=
  (name, fun _ datum supplied => newStream (.pending name datum supplied))

/-- A filter with parameters that starts when its first item is asked for. -/
def fittedLateFilter (name : String) (parameters : List (String × Option Datum)) :
    String × Filter :=
  (name, fun _ datum supplied => do
    let given ← supplied.fit parameters
    newStream (.pending name datum (.byPosition given)))

/-! ## All of them -/

/-- The filters of sequences. -/
def sequenceFilters : Filters :=
  [("length", fittedFilter [] fun machine datum _ => do pure (.int (← size machine datum))),
    ("count", fittedFilter [] fun machine datum _ => do pure (.int (← size machine datum))),
    ("list", fittedFilter [] fun machine datum _ => do newList (← items machine datum)),
    ("first", fittedFilter [] fun machine datum _ => firstItem machine datum),
    ("last", fittedFilter [] fun machine datum _ => lastItem machine datum),
    ("random", fittedFilter [] fun machine datum _ => someItem machine datum),
    ("reverse", fittedFilter [] fun machine datum _ => reversed machine datum),
    ("join", fittedFilter [("d", some (.text "")), ("attribute", some .none)]
      fun machine datum given =>
        joined machine datum (argument given 0 .none) (argument given 1 .none)),
    ("sum", fittedFilter [("attribute", some .none), ("start", some (.int 0))]
      fun machine datum given =>
        total machine datum (argument given 0 .none) (argument given 1 .none)),
    ("sort", fittedFilter [("reverse", unset), ("case_sensitive", unset),
        ("attribute", some .none)] fun machine datum given =>
      sorted machine datum (argument given 0 .none) (argument given 1 .none)
        (argument given 2 .none)),
    ("dictsort", fittedFilter [("case_sensitive", unset), ("by", some (.text "key")),
        ("reverse", unset)] fun _ datum given =>
      sortedMap datum (argument given 0 .none) (argument given 1 .none) (argument given 2 .none)),
    ("min", fittedFilter [("case_sensitive", unset), ("attribute", some .none)]
      fun machine datum given =>
        extreme machine .less datum (argument given 0 .none) (argument given 1 .none)),
    ("max", fittedFilter [("case_sensitive", unset), ("attribute", some .none)]
      fun machine datum given =>
        extreme machine .greater datum (argument given 0 .none) (argument given 1 .none)),
    ("groupby", fittedFilter [("attribute", none), ("default", some .none),
        ("case_sensitive", unset)] fun machine datum given =>
      groups machine datum (argument given 0 .none) (argument given 1 .none)
        (argument given 2 .none)),
    fittedLateFilter "items" [],
    fittedLateFilter "batch" [("linecount", none), ("fill_with", some .none)],
    fittedLateFilter "slice" [("slices", none), ("fill_with", some .none)],
    fittedLateFilter "unique" [("case_sensitive", unset), ("attribute", some .none)],
    lateFilter "map", lateFilter "select", lateFilter "reject", lateFilter "selectattr",
    lateFilter "rejectattr"]

end Run

end ClientGen.Template
