import ClientGen.Template.Method.Collection
import ClientGen.Template.Method.Node
import ClientGen.Template.Method.Number
import ClientGen.Template.Method.Octets

/-!
# Calls

What happens when an operation of a value, a function or a class is called.
-/

namespace ClientGen.Template

namespace Run

open Datum hiding none

/-! ## Loops and other states -/

/-- The operation of the state of a loop. -/
def loopMethod (place : Place) (name : String) (arguments : Supplied) : Run Datum := do
  let state ← loopAt place
  if !arguments.named.isEmpty then unsupported
  else
    match name with
    | "cycle" =>
        let count := arguments.positional.length
        if count = 0 then unsupported
        else orFault .badKind arguments.positional[(state.position % count).toNat]?
    | _ => do
        let isSame ← match state.watched with
          | some values => allPairs same values arguments.positional
          | .none => pure false
        if isSame then pure (.bool false)
        else do
          write place (.loop { state with watched := some arguments.positional })
          pure (.bool true)

/-- The operation of values in turn. -/
def cyclerMethod (place : Place) (name : String) (arguments : Supplied) : Run Datum := do
  arguments.finish
  match ← read place with
  | .cycler items position => do
      if name = "reset" then
        write place (.cycler items 0)
        pure .none
      else
        let current ← orFault .missingPosition items[position]?
        write place (.cycler items ((position + 1) % items.length))
        pure current
  | _ => unsupported

/-- The separator of a joiner: nothing for the first time. -/
def callJoiner (place : Place) (arguments : Supplied) : Run Datum := do
  arguments.finish
  match ← read place with
  | .joiner separator isUsed => do
      write place (.joiner separator true)
      pure (if isUsed then separator else .text "")
  | _ => unsupported

/-- An operation that data of several kinds have under a name with underscores. -/
def sharedMethod (machine : Machine) (receiver : Datum) (name : String) (arguments : Supplied) :
    Run Datum := do
  let single : Run Datum := do pure (argument (← arguments.only 1 1) 0 .none)
  match name with
  | "__len__" => do
      arguments.finish
      pure (.int (← size machine receiver))
  | "__str__" => do
      arguments.finish
      pure (.text (← text receiver))
  | "__repr__" => do
      arguments.finish
      pure (.text (← quoted receiver))
  | "__contains__" => do pure (.bool (← isMember machine (← single) receiver))
  | "__getitem__" => do strictItem receiver (← single)
  | "__eq__" => do pure (.bool (← same receiver (← single)))
  | _ => do
      arguments.finish
      pure (.stream (← openStream receiver))

/-- The next item of a stream that is asked for itself. -/
def streamMethod (machine : Machine) (place : Place) (name : String) (arguments : Supplied) :
    Run Datum := do
  match name with
  | "close" => do
      arguments.finish
      write place (.stream (.items []))
      pure .none
  | _ => nextOf machine place

/-- The result of an operation of a value. -/
def callMethod (machine : Machine) (receiver : Datum) (name : String) (arguments : Supplied) :
    Run Datum := do
  if sharedMethods.contains name then sharedMethod machine receiver name arguments
  else
    match receiver, receiver.text? with
    | _, some s => textMethod machine receiver s.toList name arguments
    | .list place, _ => listMethod machine place name arguments
    | .map place, _ => mapMethod machine place name arguments
    | .set place, _ => setMethod machine place name arguments
    | .view kind place, _ => viewMethod machine kind place name arguments
    | .tuple found, _ => sequenceMethod found name arguments
    | .group key found, _ => sequenceMethod [key, found] name arguments
    | .range .., _ => do sequenceMethod (← items machine receiver) name arguments
    | .node place, _ => nodeMethod receiver place name arguments
    | .bool b, _ => intMethod (Value.ofBool b) name arguments
    | .int n, _ => intMethod n name arguments
    | .float x, _ => floatMethod x name arguments
    | .complex z, _ => do
        arguments.finish
        pure (.complex ⟨z.real, z.imaginary.neg⟩)
    | .day d, _ => dayMethod d name arguments
    | .moment m, _ => momentMethod m name arguments
    | .span micro, _ => do
        arguments.finish
        pure (.float (.ofRatio (micro < 0) micro.natAbs 1000000))
    | .zone minutes, _ => do
        let _ ← arguments.only 1 1
        pure (if name = "tzname" then .text (zoneText minutes) else .span (minutes * 60000000))
    | .bytes octets, _ => octetsMethod machine octets name arguments
    | .loop place, _ => loopMethod place name arguments
    | .cycler place, _ => cyclerMethod place name arguments
    | .stream place, _ => streamMethod machine place name arguments
    | .function "dict", _ | .type "dict", _ => mapFromKeys machine arguments
    | _, _ => unsupported

/-! ## Functions -/

/-- Integers at equal distances, from one, two or three integers. -/
def rangeOf (arguments : Supplied) : Run Datum := do
  match ← (← arguments.only 1 3).mapM intArgument with
  | [stop] => pure (.range 0 stop 1)
  | [start, stop] => pure (.range start stop 1)
  | [start, stop, step] => if step = 0 then fault .badValue else pure (.range start stop step)
  | _ => unsupported

/-- The result of a function that every template has. -/
def callFunction (machine : Machine) (name : String) (arguments : Supplied) : Run Datum := do
  match name with
  | "range" => rangeOf arguments
  | "dict" => mapOf machine arguments
  | "namespace" => do
      let entries ← putAll (← suppliedEntries machine arguments) #[]
      pure (.space (← new (.space entries)))
  | "cycler" =>
      if !arguments.named.isEmpty then unsupported
      else if arguments.positional.isEmpty then fault .changed
      else do pure (.cycler (← new (.cycler arguments.positional 0)))
  | "joiner" => do
      match ← arguments.fit [("sep", some (.text ", "))] with
      | [separator] => do pure (.joiner (← new (.joiner separator false)))
      | _ => unsupported
  | _ => pure (.text "")

/-- The result of a class of values. -/
def callType (machine : Machine) (name : String) (arguments : Supplied) : Run Datum := do
  match name, arguments.positional with
  | "str", [] => pure (.text "")
  | "str", [value] => do pure (.text (← text value))
  | "Markup", [value] => unescaped value
  | "bool", [value] => do pure (.bool (← isTruthy value))
  | "list", [] => newList []
  | "list", [value] => do newList (← items machine value)
  | "tuple", [value] => do pure (.tuple (← items machine value))
  | "dict", _ => mapOf machine arguments
  | "set", [value] => do newSet (← membersOf (← items machine value))
  | "range", _ => rangeOf arguments
  | _, _ => unsupported

end Run

end ClientGen.Template
