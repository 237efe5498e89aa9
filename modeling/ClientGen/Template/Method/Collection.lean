import ClientGen.Template.Method.Text

/-!
# Operations of collections

What can be asked of lists, mappings, sets and views, and how they can be changed.
-/

namespace ClientGen.Template

namespace Run

open Datum hiding none

/-! ## Sequences -/

/-- The position of the first item that equals a datum, from a position on. -/
def positionOf? (item : Datum) : (position : Nat) → List Datum → Run (Option Nat)
  | _, [] => pure none
  | position, other :: rest => do
      if ← same other item then pure (some position) else positionOf? item (position + 1) rest

/-- How many items equal a datum. -/
def countOf (item : Datum) (items : List Datum) : Run Nat := do
  pure (← items.filterM fun other => same other item).length

/-- The position of an item between two bounds. -/
def indexOf (items : List Datum) (arguments : List Datum) : Run Datum := do
  let item := argument arguments 0 .none
  let start ← match argument arguments 1 .none with
    | .none => pure none
    | other => do pure (some (← intArgument other))
  let stop ← match argument arguments 2 .none with
    | .none => pure none
    | other => do pure (some (← intArgument other))
  let (first, last) := Text.partBounds start stop items.length
  let found ← positionOf? item first ((items.take last).drop first)
  pure (.int (← orFault .badValue found))

/-- The operation of a sequence that does not change it. -/
def sequenceMethod (items : List Datum) (name : String) (arguments : Supplied) : Run Datum := do
  match name with
  | "count" => do
      pure (.int (← countOf (argument (← arguments.only 1 1) 0 .none) items))
  | "index" => do indexOf items (← arguments.only 1 3)
  | _ => unsupported

/-- The place of a position in a list, cut to the list. -/
def placeIn (size : Nat) (position : Int) : Nat :=
  Nat.min (if position < 0 then position + size else position).toNat size

/-- The operation of a list. -/
def listMethod (machine : Machine) (place : Place) (name : String) (arguments : Supplied) :
    Run Datum := do
  let found ← listAt place
  let done (items : Array Datum) : Run Datum := do
    write place (.list items)
    pure .none
  match name with
  | "append" => do
      let item := argument (← arguments.only 1 1) 0 .none
      write place (.list #[])
      done (found.push item)
  | "extend" => do
      let new ← items machine (argument (← arguments.only 1 1) 0 .none)
      done ((← listAt place) ++ new.toArray)
  | "insert" => do
      let given ← arguments.only 2 2
      let position ← intArgument (argument given 0 .none)
      done (found.insertIdxIfInBounds (placeIn found.size position) (argument given 1 .none))
  | "pop" => do
      let position ← intArgument (argument (← arguments.only 0 1) 0 (.int (-1)))
      let position := if position < 0 then position + found.size else position
      if position < 0 then fault .missingPosition
      else
        let item ← orFault .missingPosition found[position.toNat]?
        write place (.list (found.eraseIdxIfInBounds position.toNat))
        pure item
  | "remove" => do
      let item := argument (← arguments.only 1 1) 0 .none
      let position ← orFault .badValue (← positionOf? item 0 found.toList)
      done (found.eraseIdxIfInBounds position)
  | "clear" => do
      arguments.finish
      done #[]
  | "copy" => do
      arguments.finish
      newList found.toList
  | "reverse" => do
      arguments.finish
      done found.reverse
  | "sort" => do
      match ← (Supplied.mk [] arguments.named).fit
          [("key", some .none), ("reverse", some (.bool false))] with
      | [key, isReversed] => do
          if !arguments.positional.isEmpty then unsupported
          else
            let keyOf (item : Datum) : Run Datum :=
              match key with
              | .none => pure item
              | chosen => machine.call chosen (.byPosition [item])
            done (← sortBy ((← intArgument isReversed) != 0) keyOf found.toList).toArray
      | _ => unsupported
  | _ => sequenceMethod found.toList name arguments

/-! ## Mappings -/

/-- The two items of a datum that stands for an entry. -/
def entryOf (machine : Machine) (datum : Datum) : Run (Datum × Datum) := do
  match ← items machine datum with
  | [key, value] => pure (key, value)
  | _ => fault .badValue

/-- The entries of a datum: a mapping, or a sequence of pairs. -/
def entriesIn (machine : Machine) (datum : Datum) : Run (List (Datum × Datum)) := do
  match datum with
  | .undefined what => missing what
  | .map place => do pure (← entriesAt place).toList
  | _ => do (← items machine datum).mapM (entryOf machine)

/-- The entries of arguments: those of a mapping or of pairs, and the named ones. -/
def suppliedEntries (machine : Machine) (arguments : Supplied) : Run (List (Datum × Datum)) := do
  let first ← match arguments.positional with
    | [] => pure []
    | [only] => entriesIn machine only
    | _ => unsupported
  pure (first ++ arguments.named.map fun (name, value) => (.text name, value))

/-- A new mapping with the entries of arguments. -/
def mapOf (machine : Machine) (arguments : Supplied) : Run Datum := do
  newMap (← putAll (← suppliedEntries machine arguments) #[]).toList

/-- A new mapping of some keys to one value. -/
def mapFromKeys (machine : Machine) (arguments : Supplied) : Run Datum := do
  let given ← arguments.only 1 2
  let keys ← items machine (argument given 0 .none)
  newMap (← putAll (keys.map fun key => (key, argument given 1 .none)) #[]).toList

/-- The operation of a mapping. -/
def mapMethod (machine : Machine) (place : Place) (name : String) (arguments : Supplied) :
    Run Datum := do
  let entries ← entriesAt place
  match name with
  | "get" => do
      let given ← arguments.only 1 2
      pure ((← lookup? (argument given 0 .none) entries).getD (argument given 1 .none))
  | "keys" => do
      arguments.finish
      pure (.view .keys place)
  | "values" => do
      arguments.finish
      pure (.view .values place)
  | "items" => do
      arguments.finish
      pure (.view .entries place)
  | "update" => do
      let new ← suppliedEntries machine arguments
      write place (.map (← putAll new (← entriesAt place)))
      pure .none
  | "setdefault" => do
      let given ← arguments.only 1 2
      let key := argument given 0 .none
      match ← lookup? key entries with
      | some value => pure value
      | .none => do
          let value := argument given 1 .none
          write place (.map (entries.push (key, value)))
          pure value
  | "pop" => do
      let given ← arguments.only 1 2
      let found ← if entries.isEmpty then pure none else entry? (argument given 0 .none) entries
      match found with
      | some (position, _, value) => do
          write place (.map (entries.eraseIdxIfInBounds position))
          pure value
      | .none => orFault .missingKey given[1]?
  | "popitem" => do
      arguments.finish
      match entries.back? with
      | some (key, value) => do
          write place (.map entries.pop)
          pure (.tuple [key, value])
      | .none => fault .missingKey
  | "clear" => do
      arguments.finish
      write place (.map #[])
      pure .none
  | "copy" => do
      arguments.finish
      newMap entries.toList
  | "fromkeys" => mapFromKeys machine arguments
  | _ => unsupported

/-! ## Sets -/

/-- The items of one sequence that are among those of another, or those that are not. -/
def among (isAmong : Bool) (others : List Datum) (items : List Datum) : Run (List Datum) :=
  items.filterM fun item => do
    pure ((← anyRelated (same (← asKey item)) others) == isAmong)

/-- The members that a change of a set leaves, other items being given. -/
def changedSet (name : String) (members others : List Datum) : Run (List Datum) := do
  match name with
  | "difference" => among false others members
  | "intersection" => among true others members
  | "symmetric_difference" => do
      pure ((← among false others members) ++ (← among false members (← membersOf others)))
  | _ => others.foldlM (fun done item => addMember item done) members

/-- The operation of a set. -/
def setMethod (machine : Machine) (place : Place) (name : String) (arguments : Supplied) :
    Run Datum := do
  let members := (← membersAt place).toList
  let single : Run Datum := do pure (argument (← arguments.only 1 1) 0 .none)
  let keep (items : List Datum) : Run Datum := do
    write place (.set items.toArray)
    pure .none
  match name with
  | "add" => do keep (← addMember (← single) members)
  | "discard" => do keep (← among false [← single] members)
  | "remove" => do
      let item ← asKey (← single)
      if ← anyRelated (same item) members then keep (← among false [item] members)
      else fault .missingKey
  | "pop" => do
      arguments.finish
      match members with
      | first :: rest => do
          let _ ← keep rest
          pure first
      | [] => fault .missingKey
  | "clear" => do
      arguments.finish
      keep []
  | "copy" => do
      arguments.finish
      newSet members
  | "issubset" => do pure (.bool (← allAmong same (← items machine (← single)) members))
  | "issuperset" => do pure (.bool (← allAmong same members (← items machine (← single))))
  | "isdisjoint" => do
      pure (.bool (← among true (← items machine (← single)) members).isEmpty)
  | "update" => do
      let others ← arguments.positional.mapM (items machine)
      keep (← changedSet "union" members others.flatten)
  | "difference_update" | "intersection_update" | "symmetric_difference_update" => do
      let change := String.ofList (name.toList.take (name.length - 7))
      keep (← changedSet change members (← items machine (← single)))
  | "difference" | "intersection" | "symmetric_difference" | "union" => do
      let result ← arguments.positional.foldlM
        (fun done other => do changedSet name done (← items machine other)) members
      newSet result
  | _ => unsupported

/-- The operation of a view. -/
def viewMethod (machine : Machine) (kind : View) (place : Place) (name : String)
    (arguments : Supplied) : Run Datum := do
  match name with
  | "isdisjoint" => do
      let shown := shownBy kind (← entriesAt place).toList
      let others ← items machine (argument (← arguments.only 1 1) 0 .none)
      pure (.bool (← among true others shown).isEmpty)
  | _ => unsupported

end Run

end ClientGen.Template
