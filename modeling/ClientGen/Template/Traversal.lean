import ClientGen.Template.Equality

/-!
# Going through data

The items of a datum one by one, its size, and the state of the loops that go through it.
-/

namespace ClientGen.Template

namespace Run

open Datum hiding none

/-! ## Streams -/

/-- The items of a datum from the first one on. -/
def openStream (datum : Datum) : Run Place := do
  match datum with
  | .undefined _ => new (.stream (.items []))
  | .stream place => pure place
  | .loop place => new (.stream (.states place))
  | .tuple items => new (.stream (.items items))
  | .group key items => new (.stream (.items [key, items]))
  | .range start stop step => new (.stream (.numbers start step (rangeSize start stop step)))
  | .list place => new (.stream (.elements place 0))
  | .map place => do new (.stream (.shown .keys place 0 (← entriesAt place).size))
  | .view kind place => do new (.stream (.shown kind place 0 (← entriesAt place).size))
  | .set place => do new (.stream (.members place 0 (← membersAt place).size))
  | .node place => do
      let (_, fields) ← fieldsAt place
      new (.stream (.items (fields.map fun (name, value) => .tuple [.text name, value])))
  | .bytes octets => new (.stream (.items (octets.map fun octet => .int octet.toNat)))
  | _ =>
      match datum.text? with
      | some s => new (.stream (.items (s.toList.map fun c => .text (String.singleton c))))
      | .none => unsupported

/-- The items of a datum from the last one on. -/
def openReversed (datum : Datum) : Run Place := do
  match datum with
  | .undefined _ => new (.stream (.items []))
  | .tuple items => new (.stream (.items items.reverse))
  | .group key items => new (.stream (.items [items, key]))
  | .range start stop step =>
      let count := rangeSize start stop step
      new (.stream (.numbers (start + step * ((count : Int) - 1)) (-step) count))
  | .list place => do new (.stream (.elementsBack place (← listAt place).size))
  | .map place => do
      let size := (← entriesAt place).size
      new (.stream (.shownBack .keys place size size))
  | .view kind place => do
      let size := (← entriesAt place).size
      new (.stream (.shownBack kind place size size))
  | .bytes octets => new (.stream (.items (octets.reverse.map fun octet => .int octet.toNat)))
  | _ =>
      match datum.text? with
      | some s =>
          new (.stream (.items (s.toList.reverse.map fun c => .text (String.singleton c))))
      | .none => unsupported

/-- The most items that are taken from elsewhere while a datum is gone through. -/
def greatestCount : Nat := 1000000000000

/-- The number of items that a stream still has of its own, those of a list included. -/
def ownItems (stream : Place) (store : Store) : Nat :=
  match store.cells[stream]? with
  | some (.stream (.items rest)) => rest.length
  | some (.stream (.elements source position)) =>
      match store.cells[source]? with
      | some (.list items) => items.size - position
      | _ => 0
  | _ => 0

/-- The most items that a loop goes through. -/
def loopBound (stream : Place) : Run Nat := fun store =>
  .ok (greatestCount + ownItems stream store, store)

/-- The items that are left of a stream, after those already found, last first. -/
def drain (machine : Machine) (stream : Place) : (fuel : Nat) → List Datum → Run (List Datum)
  | 0, _ => fault .endless
  | fuel + 1, found => do
      match ← machine.next stream with
      | some item => drain machine stream fuel (item :: found)
      | .none => pure found.reverse

/-- All items of a datum. -/
def items (machine : Machine) (datum : Datum) : Run (List Datum) := do
  match datum with
  | .tuple items => pure items
  | .list place => do pure (← listAt place).toList
  | .map place => do pure (shownBy .keys (← entriesAt place).toList)
  | .view kind place => do pure (shownBy kind (← entriesAt place).toList)
  | _ => drain machine (← openStream datum) greatestCount []

/-- The next item of a stream; there has to be one. -/
def nextOf (machine : Machine) (stream : Place) : Run Datum := do
  orFault .exhausted (← machine.next stream)

/-! ## Loops -/

/-- The item after the current one of a loop. -/
def peek (machine : Machine) (place : Place) : Run (Option Datum) := do
  let state ← loopAt place
  match state.after with
  | some item => pure (some item)
  | .none => do
      let found ← machine.next state.stream
      write place (.loop { state with after := found })
      pure found

/-- The number of items of a loop. Items that are handed out one by one are all taken first. -/
def loopLength (machine : Machine) (place : Place) : Run Int := do
  let state ← loopAt place
  match state.length with
  | some length => pure length
  | .none => do
      match ← knownSize? state.source with
      | some size => do
          write place (.loop { state with length := some size })
          pure size
      | .none => do
          let rest ← drain machine state.stream greatestCount []
          let stream ← new (.stream (.items rest))
          let length : Int := rest.length + (state.position + 1) + (if state.after.isSome then 1 else 0)
          write place (.loop { state with stream := stream, length := some length })
          pure length

/-- A datum that is about to be shown. A loop shows the number of its items. -/
def counted (machine : Machine) (datum : Datum) : Run Datum := do
  match datum with
  | .loop place => do
      let _ ← loopLength machine place
      pure datum
  | _ => pure datum

/-- Go on to the next item of a loop. -/
def advance (machine : Machine) (place : Place) : Run (Option Datum) := do
  let state ← loopAt place
  let found ← match state.after with
    | some item => pure (some item)
    | .none => machine.next state.stream
  match found with
  | .none => pure .none
  | some item => do
      write place (.loop { state with
        position := state.position + 1, before := state.current, current := some item
        after := .none })
      pure (some item)

/-- The number of items of a datum. -/
def size (machine : Machine) (datum : Datum) : Run Nat := do
  match datum with
  | .loop place => do pure (← loopLength machine place).toNat
  | _ =>
      match ← knownSize? datum with
      | some count => pure count
      | .none => unsupported

/-! ## Membership -/

/-- Whether a stream has an item that equals a datum; the items before it are taken. -/
def streamHas (machine : Machine) (item : Datum) (stream : Place) : (fuel : Nat) → Run Bool
  | 0 => fault .endless
  | fuel + 1 => do
      match ← machine.next stream with
      | some found => do
          if ← same found item then pure true else streamHas machine item stream fuel
      | .none => pure false

/-- Whether a range has an integer. -/
def rangeHas (n start stop step : Int) : Bool :=
  let count := rangeSize start stop step
  count != 0 && (n - start) % step == 0 && 0 ≤ (n - start) / step && (n - start) / step < count

/-- Whether octets stand in others one after another. -/
def holdsOctets (part : List UInt8) : List UInt8 → Bool
  | [] => part.isEmpty
  | octet :: rest => (octet :: rest).take part.length == part || holdsOctets part rest

/-- Whether a datum is among the items of another, or is a part of its text. -/
def isMember (machine : Machine) (item subject : Datum) : Run Bool := do
  match subject, subject.text? with
  | _, some whole =>
      match item.text? with
      | some part => pure (Text.contains part.toList whole.toList)
      | .none => unsupported
  | .map place, _ | .view .keys place, _ => do pure (← entry? item (← entriesAt place)).isSome
  | .set place, _ => do anyRelated (same (← asKey item)) (← membersAt place).toList
  | .range start stop step, _ =>
      match item.number? with
      | some (.int n) => pure (rangeHas n start stop step)
      | some (.float x) =>
          pure (x.isInteger && x.truncate?.any fun n => rangeHas n start stop step)
      | .none => pure false
  | .bytes octets, _ =>
      match item, item.int? with
      | .bytes part, _ => pure (holdsOctets part octets)
      | _, some n =>
          if 0 ≤ n && n < 256 then pure (octets.contains (UInt8.ofNat n.toNat))
          else fault .badValue
      | _, .none => unsupported
  | .tuple items, _ => anyRelated (same item) items
  | .list place, _ => do anyRelated (same item) (← listAt place).toList
  | _, _ => do streamHas machine item (← openStream subject) greatestCount

end Run

end ClientGen.Template
