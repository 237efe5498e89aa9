import ClientGen.Template.Filter.Sequence

/-!
# Streams

The next item of a stream, and what is left of the stream afterwards. Streams that come from other
streams take as many of their items as they need.
-/

namespace ClientGen.Template

namespace Run

open Datum hiding none

/-! ## Goals -/

/-- The items of a value for so many goals; there must be neither more nor fewer. -/
def unpacked (machine : Machine) (count : Nat) (datum : Datum) : Run (List Datum) := do
  let found ← items machine datum
  if found.length = count then pure found else fault .badValue

/-- Set an item of a value that is no namespace. -/
def setItem (subject : Datum) (name : String) (value : Datum) : Run Unit := do
  match subject with
  | .map place => do write place (.map (← put (.text name) value (← entriesAt place)))
  | .space place => do
      match ← read place with
      | .space entries => do write place (.space (← put (.text name) value entries))
      | _ => unsupported
  | _ => unsupported

mutual

/-- Give a value to a goal. -/
def assignTo (machine : Machine) (scope : Place) : Goal → Datum → Run Unit
  | .slot slot, value => assign scope slot value
  | .member slot name, value => do
      setItem ((← find? scope slot).getD .none) name value
  | .tuple goals, value => do
      assignAll machine scope goals (← unpacked machine goals.length value)

/-- Give values to goals one by one. -/
def assignAll (machine : Machine) (scope : Place) : List Goal → List Datum → Run Unit
  | goal :: goals, value :: values => do
      assignTo machine scope goal value
      assignAll machine scope goals values
  | _, _ => pure ()

end

mutual

/-- The value that a goal has now. -/
def goalValue (scope : Place) : Goal → Run Datum
  | .slot slot => do pure ((← find? scope slot).getD (.undefined slot.name))
  | .member slot name => do
      strictItem ((← find? scope slot).getD .none) (.text name)
  | .tuple goals => do pure (.tuple (← goalValues scope goals))

/-- The values that goals have now. -/
def goalValues (scope : Place) : List Goal → Run (List Datum)
  | [] => pure []
  | goal :: rest => do
      let first ← goalValue scope goal
      pure (first :: (← goalValues scope rest))

end

/-! ## Items that pass -/

/-- Whether an item is chosen. -/
def isChosen (machine : Machine) (choice : Choice) (item : Datum) : Run Bool := do
  let subject ← follow machine .none choice.keys item
  let passes ← match choice.test with
    | some (name, supplied) => machine.test name subject supplied
    | none => isTruthy subject
  pure (passes != choice.isNegated)

/-- The next item of a stream that passes. -/
def nextPassing (machine : Machine) (source : Place) (passes : Datum → Run Bool) :
    (fuel : Nat) → Run (Option Datum)
  | 0 => fault .endless
  | fuel + 1 => do
      match ← machine.next source with
      | none => pure none
      | some item => do
          if ← passes item then pure (some item) else nextPassing machine source passes fuel

/-- The next item of a stream whose key is new, with the key. -/
def nextUnseen (machine : Machine) (source : Place) (key : Datum → Run Datum) (seen : List Datum) :
    (fuel : Nat) → Run (Option (Datum × Datum))
  | 0 => fault .endless
  | fuel + 1 => do
      match ← machine.next source with
      | none => pure none
      | some item => do
          let its ← asKey (← key item)
          if ← anyRelated (same its) seen then nextUnseen machine source key seen fuel
          else pure (some (its, item))

/-- An item with a change. -/
def changedItem (machine : Machine) (change : Change) (item : Datum) : Run Datum :=
  match change with
  | .follow keys default => follow machine default keys item
  | .filter name supplied => machine.filter name item supplied

/-! ## Streams -/

/-- What is left of a stream. -/
def streamAt (place : Place) : Run Stream := do
  match ← read place with
  | .stream rest => pure rest
  | _ => unsupported

/-- What a view shows of an entry. -/
def shownOf (kind : View) (entry : Datum × Datum) : Datum :=
  match kind with
  | .keys => entry.1
  | .values => entry.2
  | .entries => .tuple [entry.1, entry.2]

/-- What a view shows at a position; the number of entries must not have changed. -/
def shownAt? (kind : View) (map : Place) (position size : Nat) : Run (Option Datum) := do
  let entries ← entriesAt map
  if entries.size = size then pure (entries[position]?.map (shownOf kind)) else fault .changed

/-- The next item of a stream; the stream goes on behind it. -/
def advanceStream (machine : Machine) (place : Place) : Run (Option Datum) := do
  let turn (stream : Stream) : Run Unit := write place (.stream stream)
  let given (found : Option Datum) (rest : Stream) : Run (Option Datum) := do
    turn (if found.isSome then rest else .items [])
    pure found
  match ← streamAt place with
  | .items [] => pure none
  | .items (first :: rest) => given (some first) (.items rest)
  | .elements source position => do
      given (← listAt source)[position]? (.elements source (position + 1))
  | .elementsBack source position => do
      if position = 0 then given none (.items [])
      else given (← listAt source)[position - 1]? (.elementsBack source (position - 1))
  | .shown kind source position size => do
      given (← shownAt? kind source position size) (.shown kind source (position + 1) size)
  | .shownBack kind source position size => do
      if position = 0 then given none (.items [])
      else
        given (← shownAt? kind source (position - 1) size)
          (.shownBack kind source (position - 1) size)
  | .members source position size => do
      let members ← membersAt source
      if members.size = size then given members[position]? (.members source (position + 1) size)
      else fault .changed
  | .numbers next step count =>
      match count with
      | 0 => given none (.items [])
      | count + 1 => given (some (.int next)) (.numbers (next + step) step count)
  | .pending name subject supplied => do
      turn (← startStream machine name subject supplied)
      machine.next place
  | .changed source change => do
      match ← machine.next source with
      | some item => do pure (some (← changedItem machine change item))
      | none => given none (.items [])
  | .chosen source choice => do
      let found ← nextPassing machine source (isChosen machine choice) greatestCount
      given found (.chosen source choice)
  | .unique source isCaseSensitive keys seen => do
      let key := itemKey machine keys .none isCaseSensitive
      match ← nextUnseen machine source key seen greatestCount with
      | some (its, item) => given (some item) (.unique source isCaseSensitive keys (its :: seen))
      | none => given none (.items [])
  | .guarded source scope goal condition => do
      let passes (item : Datum) : Run Bool := do
        assignTo machine scope goal item
        isTruthy (← machine.value scope condition)
      match ← nextPassing machine source passes greatestCount with
      | some _ => do given (some (← goalValue scope goal)) (.guarded source scope goal condition)
      | none => given none (.items [])
  | .states source => do
      match ← advance machine source with
      | some item => pure (some (.tuple [item, .loop source]))
      | none => pure none

end Run

end ClientGen.Template
