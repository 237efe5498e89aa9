import ClientGen.Template.Filter
import ClientGen.Template.Method
import ClientGen.Template.Streaming
import ClientGen.Template.Test

/-!
# Values of expressions

The value of an expression over the variables of a scope, and what calls do.
-/

namespace ClientGen.Template

namespace Run

open Datum hiding none

/-! ## Arguments -/

/-- The names and values of a mapping that is passed by name. -/
def namedEntries (datum : Datum) : Run (List (String × Datum)) := do
  match datum with
  | .undefined what => missing what
  | .map place =>
      (← entriesAt place).toList.mapM fun (key, value) => do
        pure (← orFault .badKind key.text?, value)
  | _ => unsupported

/-- An argument is passed once by each name. -/
def addNamed (supplied : Supplied) (name : String) (value : Datum) : Run Supplied :=
  if (supplied.find? name).isSome then unsupported
  else pure { supplied with named := supplied.named ++ [(name, value)] }

/-- The order in which arguments are evaluated: those by position, those by name, and the spread
ones. -/
def passingRank : Passing → Nat
  | .positional => 0
  | .named _ => 1
  | .spread => 2
  | .spreadNamed => 3

/-- The arguments of a call. -/
def supply (machine : Machine) (scope : Place) (arguments : List (Passing × Formula)) :
    Run Supplied := do
  let ordered := [0, 1, 2, 3].flatMap fun rank =>
    arguments.filter fun (passing, _) => passingRank passing == rank
  ordered.foldlM
    (fun done (passing, formula) => do
      let value ← machine.value scope formula
      match passing with
      | .positional => pure { done with positional := done.positional ++ [value] }
      | .named name => pure { done with named := putNamed name value done.named }
      | .spread => do
          pure { done with positional := done.positional ++ (← items machine value) }
      | .spreadNamed => do
          (← namedEntries value).foldlM (fun done (name, value) => addNamed done name value) done)
    ⟨[], []⟩

/-! ## Calls of procedures -/

/-- Values for the parameters of a procedure, those without an argument being missing, and the named
arguments that are left. -/
def receive : (receivers : List Receiver) → (positional : List Datum) →
    (named : List (String × Datum)) → List (Receiver × Option Datum) × List (String × Datum)
  | [], _, named => ([], named)
  | receiver :: rest, value :: positional, named =>
      let (others, left) := receive rest positional named
      ((receiver, some value) :: others, left)
  | receiver :: rest, [], named =>
      let left := named.filter fun (name, _) => name ≠ receiver.name
      let (others, left) := receive rest [] left
      ((receiver, Run.named receiver.name named) :: others, left)

/-- Give the parameters of a procedure that have no argument their values. -/
def fillReceivers (machine : Machine) (scope : Place) :
    List (Receiver × Option Datum) → Run Unit
  | [] => pure ()
  | (_, some _) :: rest => fillReceivers machine scope rest
  | (receiver, none) :: rest => do
      let value ← match receiver.default with
        | some formula => machine.value scope formula
        | none => pure (.undefined receiver.name)
      assign scope receiver.slot value
      fillReceivers machine scope rest

/-- Give a value to a slot, if there is one. -/
def assignOptional (scope : Place) (slot : Option Slot) (value : Datum) : Run Unit :=
  match slot with
  | some found => assign scope found value
  | none => pure ()

/-- What a procedure prints. -/
def callRoutine (machine : Machine) (routine : Routine Instruction) (outer : Place)
    (supplied : Supplied) : Run Datum := do
  let isMarked ← isEscaping
  let (bound, left) := receive routine.receivers supplied.positional supplied.named
  let caller := (named "caller" left).getD (.undefined "the body of a call")
  let caller := if caller == .none then .undefined "the body of a call" else caller
  let left := if routine.caller.isSome then left.filter (fun (name, _) => name ≠ "caller") else left
  let extra := supplied.positional.drop routine.receivers.length
  if routine.further.isNone && !left.isEmpty then unsupported
  else if routine.rest.isNone && !extra.isEmpty then unsupported
  else
    let scope ← newScope routine.level (some outer) (← contextOf outer)
    bound.forM fun (receiver, value) => match value with
      | some given => assign scope receiver.slot given
      | none => pure ()
    assignOptional scope routine.caller caller
    assignOptional scope routine.further (← newRecord left)
    assignOptional scope routine.rest (.tuple extra)
    enter scope routine.opening
    fillReceivers machine scope bound
    let printed ← machine.perform scope routine.body
    pure (if isMarked then .markup printed else .text printed)

/-! ## Loops -/

/-- Go through a loop; `printed` is what it has printed so far. -/
def iterate (next : Run (Option Datum)) (once : Datum → Run String) :
    (fuel : Nat) → (printed : String) → (count : Nat) → Run (String × Nat)
  | 0, _, _ => fault .endless
  | fuel + 1, printed, count => do
      match ← next with
      | none => pure (printed, count)
      | some item => do
          let more ← once item
          iterate next once fuel (printed ++ more) (count + 1)

/-- The items of a loop that pass its condition. -/
def loopSource (scope : Place) (iteration : Iteration Instruction) (source : Datum) :
    Run Datum := do
  match iteration.condition with
  | none => pure source
  | some (opening, condition) => do
      let inner ← newScope iteration.level (some scope) (← contextOf scope)
      enter inner opening
      newStream (.guarded (← openStream source) inner iteration.goal condition)

/-- What a loop prints. -/
def runLoop (machine : Machine) (scope : Place) (iteration : Iteration Instruction)
    (source : Datum) (depth : Nat) (recursion : Option Recursion) : Run String := do
  let source ← loopSource scope iteration source
  let stream ← openStream source
  let once (item : Datum) : Run String := do
    assignTo machine scope iteration.goal item
    enter scope iteration.opening
    machine.perform scope iteration.body
  let bound ← loopBound stream
  let (printed, count) ← match iteration.state with
    | none => iterate (machine.next stream) once bound "" 0
    | some slot => do
        let place ← new (.loop
          ⟨source, stream, none, -1, none, none, none, none, depth, recursion⟩)
        iterate (advance machine place)
          (fun item => do
            assign scope slot (.loop place)
            once item)
          bound "" 0
  leave scope iteration.opening
  if count = 0 then
    enter scope iteration.otherwiseOpening
    let printed ← machine.perform scope iteration.otherwise
    leave scope iteration.otherwiseOpening
    pure printed
  else pure printed

/-- Whether printed values are escaped. -/
def escapes (escaping : Escaping) : Run Bool :=
  match escaping with
  | .plain => pure false
  | .escaped => pure true
  | .dynamic => isEscaping

/-- What a loop that can be called prints for some items. -/
def runRecursion (machine : Machine) (recursion : Recursion) (source : Datum) (depth : Nat) :
    Run String := do
  let scope ← newScope recursion.iteration.level (some recursion.scope)
    (← contextOf recursion.scope)
  runLoop machine scope recursion.iteration source depth (some recursion)

/-- The call of a loop in its own body. -/
def callLoop (machine : Machine) (place : Place) (supplied : Supplied) : Run Datum := do
  let state ← loopAt place
  match state.recursion, ← supplied.fit [("iterable", none)] with
  | some recursion, [source] => do
      let printed ← runRecursion machine recursion source (state.depth + 1)
      pure (if ← escapes recursion.escaping then .markup printed else .text printed)
  | _, _ => unsupported

/-! ## Named parts -/

/-- What a named part prints in a context. -/
def runBlock (machine : Machine) (block : Block) (context : Place) : Run String := do
  let scope ← newScope 0 none context
  assignOptional scope block.current (.current context)
  assignOptional scope block.replaced (.undefined "the part that this one replaces")
  enter scope block.opening
  machine.perform scope block.body

/-- The named part of a context. -/
def blockNamed (context : Place) (name : String) : Run Block := do
  orFault .missingKey ((← blocksOf context).find? (·.name == name))

/-- The call of a named part. -/
def callBlock (machine : Machine) (name : String) (context : Place) (supplied : Supplied) :
    Run Datum := do
  supplied.finish
  let printed ← runBlock machine (← blockNamed context name) context
  pure (if ← isEscaping then .markup printed else .text printed)

/-! ## Calls -/

/-- The result of a call. -/
def callDatum (machine : Machine) (function : Datum) (supplied : Supplied) : Run Datum := do
  match function with
  | .undefined what => missing what
  | .method receiver name => callMethod machine receiver name supplied
  | .function name => callFunction machine name supplied
  | .type name => callType machine name supplied
  | .joiner place => callJoiner place supplied
  | .loop place => callLoop machine place supplied
  | .block name context => callBlock machine name context supplied
  | .procedure place => do
      match ← read place with
      | .procedure routine outer => callRoutine machine routine outer supplied
      | _ => unsupported
  | _ => unsupported

/-- The result of a call in an expression: nothing, if a stream has come to its end. -/
def calledValue (machine : Machine) (function : Datum) (supplied : Supplied) : Run Datum :=
  rescue (machine.call function supplied) (· == .exhausted) (pure (.undefined "the end of a stream"))

/-! ## Expressions -/

/-- Whether all comparisons of a chain hold; the first one that does not ends it. -/
def chainHolds (machine : Machine) (scope : Place) (left : Datum) :
    List (Comparison × Formula) → Run Bool
  | [] => pure true
  | (comparison, formula) :: rest => do
      let right ← machine.value scope formula
      if ← compareBy machine comparison left right then chainHolds machine scope right rest
      else pure false

/-- The result of a filter in an expression; one that does not exist takes no named arguments. -/
def filteredValue (machine : Machine) (name : String) (subject : Datum) (supplied : Supplied) :
    Run Datum :=
  if machine.hasFilter name then machine.filter (.text name) subject supplied
  else if supplied.named.isEmpty then fail ("there is no filter " ++ name)
  else unsupported

/-- The result of a test in an expression; one that does not exist takes no named arguments. -/
def testedValue (machine : Machine) (name : String) (subject : Datum) (supplied : Supplied) :
    Run Datum := do
  if testNames.contains name then pure (.bool (← machine.test (.text name) subject supplied))
  else if supplied.named.isEmpty then fail ("there is no test " ++ name)
  else unsupported

/-- The value of an expression that may be missing. -/
def optionalValue (machine : Machine) (scope : Place) (formula : Option Formula) : Run Datum :=
  match formula with
  | some found => machine.value scope found
  | none => pure .none

/-- The value of an expression. -/
def valueOf (machine : Machine) (scope : Place) (formula : Formula) : Run Datum := do
  let value := machine.value scope
  match formula with
  | .none => pure .none
  | .bool b => pure (.bool b)
  | .integer n => pure (.int n)
  | .decimal x => pure (.float x)
  | .text s => pure (.text s)
  | .unwritable => fault .unknownName
  | .name slot => do pure ((← find? scope slot).getD (.undefined slot.name))
  | .tuple items => do pure (.tuple (← items.mapM value))
  | .list items => do newList (← items.mapM value)
  | .map entries => do
      let found ← entries.mapM fun (key, item) => do
        let key ← value key
        pure (key, ← value item)
      newMap (← putAll found #[]).toList
  | .member subject name => do memberOf machine (← value subject) name
  | .item subject (.bounds start stop step) => do
      let found ← value subject
      let start ← optionalValue machine scope start
      let stop ← optionalValue machine scope stop
      partOf found start stop (← optionalValue machine scope step)
  | .item subject key => do
      let found ← value subject
      itemOf machine found (← value key)
  | .bounds start stop step => do
      let start ← optionalValue machine scope start
      let stop ← optionalValue machine scope stop
      pure (.bounds start stop (← optionalValue machine scope step))
  | .call subject arguments => do
      let function ← value subject
      calledValue machine function (← supply machine scope arguments)
  | .filter subject name arguments => do
      let found ← value subject
      filteredValue machine name found (← supply machine scope arguments)
  | .test subject name arguments => do
      let found ← value subject
      testedValue machine name found (← supply machine scope arguments)
  | .not operand => do pure (.bool (!(← isTruthy (← value operand))))
  | .negative operand => do negate (← value operand)
  | .positive operand => do plus (← value operand)
  | .binary operation left right => do
      let first ← value left
      operate operation first (← value right)
  | .concat isEscaped items => do concat isEscaped (← items.mapM value)
  | .and left right => do
      let first ← value left
      if ← isTruthy first then value right else pure first
  | .or left right => do
      let first ← value left
      if ← isTruthy first then pure first else value right
  | .compare first rest => do
      pure (.bool (← chainHolds machine scope (← value first) rest))
  | .choice condition chosen otherwise => do
      if ← isTruthy (← value condition) then value chosen
      else
        match otherwise with
        | some other => value other
        | none => pure (.undefined "the other choice")

end Run

end ClientGen.Template
