import ClientGen.Template.Evaluation

/-!
# Rendering of templates

What instructions print. A template is rendered in a context, which holds the variables that it was
given and those that it sets itself; templates inside of it get contexts of their own.
-/

namespace ClientGen.Template

/-- Templates by name. -/
abbrev Templates := List (String × Template)

namespace Run

open Datum hiding none

/-! ## Templates by name -/

/-- The path that a name of a template stands for: pieces that change nothing are left out. -/
def normalPath (name : String) : String :=
  let pieces := (Text.splitOn '/' name.toList).filter fun piece => !piece.isEmpty && piece ≠ ['.']
  String.ofList (Text.join ['/'] pieces)

/-- The template of a name. -/
def template? (templates : Templates) (name : String) : Option (String × Template) :=
  let path := normalPath name
  (templates.find? (·.1 == path)).map fun (_, found) => (name, found)

/-- The template that a datum names. -/
def templateNamed (templates : Templates) (datum : Datum) : Run (Option (String × Template)) := do
  match datum, datum.text? with
  | .undefined what, _ => missing what
  | _, some name => pure (template? templates name)
  | _, none => do
      let _ ← asKey datum
      fault .missingMember

/-- The first template that exists among some. -/
def firstTemplate (templates : Templates) : List Datum → Run (Option (String × Template))
  | [] => pure none
  | .undefined _ :: rest => firstTemplate templates rest
  | datum :: rest => do
      match ← templateNamed templates datum with
      | some found => pure (some found)
      | none => firstTemplate templates rest

/-- The template that a datum names, or the first one of several. -/
def selectTemplate (machine : Machine) (templates : Templates) (datum : Datum) :
    Run (Option (String × Template)) := do
  match datum, datum.text? with
  | .undefined what, _ => missing what
  | _, some name => pure (template? templates name)
  | _, none => do
      if ← isTruthy datum then firstTemplate templates (← items machine datum) else pure none

/-- A template that has to exist. -/
def orMissing (found : Option (String × Template)) : Run (String × Template) :=
  match found with
  | some pair => pure pair
  | none => fail "there is no such template"

/-! ## Contexts -/

/-- The values of the variables that are shared. -/
def sharedValues (scope : Place) : List (String × Slot) → Run (List (String × Datum))
  | [] => pure []
  | (name, slot) :: rest => do
      let others ← sharedValues scope rest
      match ← find? scope slot with
      | some value => pure ((name, value) :: others)
      | none => pure others

/-- Everything that another template or a part sees: what a context knows, and some variables. -/
def givenValues (scope context : Place) (shared : List (String × Slot)) :
    Run (List (String × Datum)) := do
  let values ← sharedValues scope shared
  pure (values.foldl (fun done (name, value) => putNamed name value done) (← known context))

/-- Do something with printed values escaped or not. -/
def withEscaping {α : Type} (isEscaped : Bool) (body : Run α) : Run α := do
  let before ← isEscaping
  modify fun store => { store with isEscaping := isEscaped }
  let result ← body
  modify fun store => { store with isEscaping := before }
  pure result

/-- What a template prints in a context. -/
def runTemplate (machine : Machine) (template : Template) (context : Place) : Run String := do
  let scope ← newScope 0 none context
  assignOptional scope template.current (.current context)
  enter scope template.opening
  machine.perform scope template.body

/-- What a template prints inside of another one, with some variables. -/
def runInside (machine : Machine) (template : Template) (given : List (String × Datum)) :
    Run String := do
  let context ← new (.context [] given template.blocks)
  withEscaping false (runTemplate machine template context)

/-- The values that a template inside of another one gets. -/
def insideValues (scope : Place) (shared : Option (List (String × Slot))) :
    Run (List (String × Datum)) := do
  match shared with
  | some slots => givenValues scope (← contextOf scope) slots
  | none => pure []

/-- A loaded template as a datum. -/
def loadTemplate (machine : Machine) (templates : Templates) (scope : Place) (source : Formula)
    (shared : Option (List (String × Slot))) : Run Datum := do
  let (name, template) ← orMissing (← templateNamed templates (← machine.value scope source))
  let printed ← runInside machine template (← insideValues scope shared)
  pure (.loaded (← new (.loaded name printed)))

/-! ## Instructions -/

/-- Keep the values of some variables in the context. -/
def keepAll (scope : Place) : List Slot → Run Unit
  | [] => pure ()
  | slot :: rest => do
      match ← find? scope slot with
      | some value => keep (← contextOf scope) slot.name value
      | none => pure ()
      keepAll scope rest

/-- The text of a value that goes into other text as it is. -/
def rawText (datum : Datum) : Run String := orFault .badKind datum.text?

/-- Text that a body has printed, as a datum. -/
def printedDatum (escaping : Escaping) (printed : String) : Run Datum := do
  pure (if ← escapes escaping then .markup printed else .text printed)

/-- Do the first branch whose condition counts as true, or else the last one. -/
def runBranches (machine : Machine) (scope : Place) :
    List (Formula × List Instruction) → (otherwise : List Instruction) → Run String
  | [], otherwise => machine.perform scope otherwise
  | (condition, body) :: rest, otherwise => do
      if ← isTruthy (← machine.value scope condition) then machine.perform scope body
      else runBranches machine scope rest otherwise

/-- The variables of an assignment have to be namespaces. -/
def checkSpaces (scope : Place) : List Slot → Run Unit
  | [] => pure ()
  | slot :: rest => do
      match ← find? scope slot with
      | some (.space _) => checkSpaces scope rest
      | _ => fail "only namespaces have members to assign to"

/-- What an instruction prints. -/
def performOne (machine : Machine) (templates : Templates) (scope : Place) :
    Instruction → Run String
  | .text value => pure value
  | .print escaping formula => do
      let value ← counted machine (← machine.value scope formula)
      printed (← escapes escaping) value
  | .unlessInherited body => do
      if (← get).successor.isSome then pure "" else machine.perform scope body
  | .branch condition body further otherwise =>
      runBranches machine scope ((condition, body) :: further) otherwise
  | .loop iteration source => do
      runLoop machine scope iteration (← machine.value scope source) 0 none
  | .recursiveLoop escaping iteration source => do
      let value ← machine.value scope source
      runRecursion machine ⟨iteration, escaping, scope⟩ value 0
  | .assign goal spaces value kept => do
      checkSpaces scope spaces
      assignTo machine scope goal (← machine.value scope value)
      keepAll scope kept
      pure ""
  | .capture goal opening body escaping slot refined kept => do
      enter scope opening
      let shown ← machine.perform scope body
      assign scope slot (← printedDatum escaping shown)
      let value ← machine.value scope refined
      let value ← if ← isEscaping then unescaped value else pure value
      assignTo machine scope goal value
      keepAll scope kept
      leave scope opening
      pure ""
  | .procedure routine slot isKept => do
      let value := Datum.procedure (← new (.procedure routine scope))
      assign scope slot value
      if isKept then keep (← contextOf scope) slot.name value
      pure ""
  | .callWith routine called arguments => do
      let caller := Datum.procedure (← new (.procedure routine scope))
      let function ← machine.value scope called
      let supplied ← addNamed (← supply machine scope arguments) "caller" caller
      rawText (← calledValue machine function supplied)
  | .filtered opening body escaping slot refined => do
      enter scope opening
      let shown ← machine.perform scope body
      assign scope slot (← printedDatum escaping shown)
      let result ← rawText (← machine.value scope refined)
      leave scope opening
      pure result
  | .block name isRequired shared => do
      let context ← contextOf scope
      if isRequired then fail ("the part " ++ name ++ " is required")
      else
        let block ← blockNamed context name
        match shared with
        | none => runBlock machine block context
        | some slots => do
            let given ← givenValues scope context slots
            runBlock machine block (← new (.context [] given (← blocksOf context)))
  | .insert source isOptional shared => do
      let value ← machine.value scope source
      match ← selectTemplate machine templates value, isOptional with
      | some (_, template), _ => do
          runInside machine template (← insideValues scope shared)
      | none, true => pure ""
      | none, false => fail "there is no such template"
  | .load source shared slot isKept => do
      let value ← loadTemplate machine templates scope source shared
      assign scope slot value
      if isKept then keep (← contextOf scope) slot.name value
      pure ""
  | .loadNames source shared names isKept => do
      let _ ← loadTemplate machine templates scope source shared
      names.forM fun (name, slot) => do
        assign scope slot (.undefined name)
        if isKept then keep (← contextOf scope) slot.name (.undefined name)
      pure ""
  | .inherit source isChecked => do
      if isChecked && (← get).successor.isSome then fail "another template takes over already"
      else
        let (_, template) ←
          orMissing (← templateNamed templates (← machine.value scope source))
        modify fun store => { store with successor := some template }
        pure ""
  | .inheritAgain => fail "another template takes over already"
  | .scope opening bindings body => do
      enter scope opening
      bindings.forM fun (goal, formula) => do
        assignTo machine scope goal (← machine.value scope formula)
      let printed ← machine.perform scope body
      leave scope opening
      pure printed
  | .escape opening value body => do
      enter scope opening
      let isEscaped ← isTruthy (← machine.value scope value)
      let printed ← withEscaping isEscaped (machine.perform scope body)
      leave scope opening
      pure printed

/-- What instructions print, after what has been printed already. -/
def performAll (machine : Machine) (templates : Templates) (scope : Place) (printed : String) :
    List Instruction → Run String
  | [] => pure printed
  | instruction :: rest => do
      let more ← performOne machine templates scope instruction
      performAll machine templates scope (printed ++ more) rest

end Run

/-! ## Engines -/

/-- What templates can use besides their variables. -/
structure Engine where
  /-- All filters. -/
  filters : Filters
  /-- Templates that others can load. -/
  templates : Templates

namespace Engine

/-- What the templates of an engine can do with a depth of nested computations. -/
def machine (engine : Engine) : (depth : Nat) → Machine
  | 0 => .exhausted
  | depth + 1 =>
      { value := fun scope formula => Run.valueOf (machine engine depth) scope formula
        perform := fun scope body =>
          Run.performAll (machine engine depth) engine.templates scope "" body
        call := fun function supplied => Run.callDatum (machine engine depth) function supplied
        next := fun place => Run.advanceStream (machine engine depth) place
        filter := fun name subject supplied =>
          Run.filterBy engine.filters (machine engine depth) name subject supplied
        test := fun name subject supplied =>
          Run.testNamed (machine engine depth) (engine.filters.map (·.1)) name subject supplied
        hasFilter := fun name => (Run.filterNamed? engine.filters name).isSome }

/-- The greatest depth of nested computations. -/
def greatestDepth : Nat := 3000

/-- What a template and the one that takes over from it print in a context. -/
def renderIn (engine : Engine) (context : Place) : (templates : Nat) → Template → Run String
  | 0, _ => Run.fault .endless
  | templates + 1, template => do
      let printed ← Run.runTemplate (machine engine greatestDepth) template context
      match (← get).successor with
      | none => pure printed
      | some successor => do
          modify fun store => { store with successor := none }
          pure (printed ++ (← renderIn engine context templates successor))

/-- The most templates that take over from each other. -/
def greatestSuccession : Nat := 16

/-- What a template prints with some variables. -/
def render (engine : Engine) (bindings : Run (List (String × Datum))) (template : Template) :
    Result String :=
  let result : Run String := do
    let context ← Run.new (.context [] (← bindings) template.blocks)
    renderIn engine context greatestSuccession template
  (result Store.empty).map (·.1)

end Engine

end ClientGen.Template
