import ClientGen.Proofs.Template.Loop

/-!
# Output of templates

What a template prints in a fresh context, from what its instructions print. The values that the
template is given stand in its outermost scope, and its loops extend the store.
-/

namespace ClientGen.Template

namespace Run

variable {store : Store} {machine : Machine} {templates : Templates} {scope : Place}

/-- What instructions print, whatever has been printed before, where the store is extended. -/
def Writes (store : Store) (machine : Machine) (templates : Templates) (scope : Place)
    (instructions : List Instruction) (result : Result String) : Prop :=
  ∀ before, ∃ after, Extends scope store after ∧
    performAll machine templates scope before instructions store =
      result.map fun text => (before ++ text, after)

theorem Prints.writes {instructions : List Instruction} {result : Result String}
    (prints : Prints store machine templates scope instructions result) :
    Writes store machine templates scope instructions result := by
  intro before
  refine ⟨store, Extends.refl scope store, ?_⟩
  rw [prints before]
  cases result <;> rfl

theorem Writes.text {text : String} {rest : List Instruction} {result : Result String}
    (others : Writes store machine templates scope rest result) :
    Writes store machine templates scope (.text text :: rest) (result.map (text ++ ·)) := by
  intro before
  obtain ⟨after, extension, printed⟩ := others (before ++ text)
  refine ⟨after, extension, ?_⟩
  have step : performAll machine templates scope before (.text text :: rest) store =
      performAll machine templates scope (before ++ text) rest store := rfl
  rw [step, printed]
  cases result with
  | error problem => rfl
  | ok more => simp only [Except.map, String.append_assoc]

/-- An instruction that extends the store, before others that read it. -/
theorem Writes.cons {instruction : Instruction} {rest : List Instruction} {text : String}
    {result : Result String}
    (one : ∃ after, performOne machine templates scope instruction store = .ok (text, after) ∧
      Extends scope store after)
    (others : ∀ after, Extends scope store after →
      Prints after machine templates scope rest result) :
    Writes store machine templates scope (instruction :: rest) (result.map (text ++ ·)) := by
  intro before
  obtain ⟨after, performed, extension⟩ := one
  refine ⟨after, extension, ?_⟩
  rw [performAll, run_bind performed, others after extension (before ++ text)]
  cases result with
  | error problem => rfl
  | ok more => simp only [Except.map, String.append_assoc]

/-! ## Fresh contexts -/

/-- A store in which a template starts: it has the cells of the given values, and the variables of
the outermost scope show those values. -/
structure Ready (supplied : Store) (given : List (String × Datum)) (template : Template)
    (context scope : Place) (store : Store) : Prop where
  kept : ∀ {place : Place} {cell : Cell}, supplied.cells[place]? = some cell →
    store.cells[place]? = some cell
  contextCell : store.cells[context]? = some (.context [] given template.blocks)
  scopeCell : ∃ bindings, store.cells[scope]? = some (.scope 0 none context bindings)
  shown : ∀ {slot : Slot} {value : Datum}, (slot, Origin.context) ∈ template.opening →
    named slot.name given = some value → Shows store scope slot value

section

variable {supplied : Store} {given : List (String × Datum)} {template : Template}

/-- The given values with the context that holds them. -/
def contextStore (supplied : Store) (given : List (String × Datum)) (template : Template) : Store :=
  { supplied with cells := supplied.cells.push (.context [] given template.blocks) }

/-- A template starts its body in a store that is ready for it. -/
theorem runTemplate_ready (supplied : Store) (opens : Opens given template.opening)
    (unnamed : template.current = none) :
    ∃ scope store, Ready supplied given template supplied.cells.size scope store ∧
      store.successor = supplied.successor ∧
      ∀ machine, runTemplate machine template supplied.cells.size
        (contextStore supplied given template) = machine.perform scope template.body store := by
  let context := supplied.cells.size
  let scope := context + 1
  let scopeCell : Cell := .scope 0 none context []
  let withContext := contextStore supplied given template
  let started : Store := { withContext with cells := withContext.cells.push scopeCell }
  have sized : withContext.cells.size = scope := Array.size_push _
  have earlier : ∀ {place : Place} {cell : Cell}, withContext.cells[place]? = some cell →
      started.cells[place]? = some cell := by
    intro place cell present
    have bound := (Array.getElem?_eq_some_iff.mp present).1
    show (withContext.cells.push scopeCell)[place]? = _
    rw [Array.getElem?_push_lt bound, ← Array.getElem?_eq_getElem bound, present]
  have contextAt : started.cells[context]? = some (.context [] given template.blocks) :=
    earlier Array.getElem?_push_size
  have scopeAt : started.cells[scope]? = some scopeCell := by
    rw [← sized]
    exact Array.getElem?_push_size
  obtain ⟨changed, entered, _, set⟩ := enter_eq opens scopeAt contextAt
  have scopeAfter := cells_setCell_self scopeAt (.scope 0 none context changed)
  refine ⟨scope, setCell started scope (.scope 0 none context changed), ?_, rfl, ?_⟩
  · refine ⟨?_, ?_, ⟨changed, scopeAfter⟩, ?_⟩
    · intro place cell present
      have bound := (Array.getElem?_eq_some_iff.mp present).1
      have apart : place ≠ scope := Nat.ne_of_lt (Nat.lt_succ_of_lt bound)
      rw [cells_setCell_ne started apart]
      apply earlier
      show (supplied.cells.push _)[place]? = _
      rw [Array.getElem?_push_lt bound, ← Array.getElem?_eq_getElem bound, present]
    · rw [cells_setCell_ne started (Nat.ne_of_lt (Nat.lt_succ_self _) : context ≠ scope)]
      exact contextAt
    · intro slot value member found
      exact ⟨0, none, context, changed, scopeAfter, Nat.zero_le _, by rw [set slot member, found]⟩
  · intro machine
    have made : newScope 0 none context withContext = .ok (scope, started) := by
      rw [← sized]
      rfl
    have skipped : assignOptional scope none (.current context) started = .ok ((), started) := rfl
    rw [runTemplate, run_bind made, unnamed, run_bind skipped, run_bind entered]

/-- A template prints what its body writes where it starts. -/
theorem render_eq {engine : Engine} {bindings : Run (List (String × Datum))}
    {result : Result String}
    (values : bindings Store.empty = .ok (given, supplied))
    (unsucceeded : supplied.successor = none) (unnamed : template.current = none)
    (opens : Opens given template.opening)
    (body : ∀ context scope store, Ready supplied given template context scope store →
      Writes store (engine.machine 2999) engine.templates scope template.body result) :
    engine.render bindings template = result := by
  obtain ⟨scope, store, ready, unended, ran⟩ := runTemplate_ready supplied opens unnamed
  obtain ⟨after, extension, performed⟩ := body _ scope store ready ""
  simp only [String.empty_append] at performed
  have succession : after.successor = none := by
    rw [extension.successor, unended, unsucceeded]
  have template_eq : runTemplate (engine.machine Engine.greatestDepth) template
      supplied.cells.size (contextStore supplied given template) =
        result.map fun text => (text, after) := by
    rw [ran]
    exact performed
  have rendered : engine.renderIn supplied.cells.size Engine.greatestSuccession template
      (contextStore supplied given template) = result.map fun text => (text, after) := by
    rw [Engine.greatestSuccession, Engine.renderIn]
    cases result with
    | error problem => exact run_bind_error template_eq
    | ok text =>
        have got : (get : Run Store) after = .ok (after, after) := rfl
        rw [run_bind template_eq, run_bind got, succession]
        rfl
  have made : (do
      let context ← new (.context [] (← bindings) template.blocks)
      engine.renderIn context Engine.greatestSuccession template) Store.empty =
        engine.renderIn supplied.cells.size Engine.greatestSuccession template
          (contextStore supplied given template) := by
    rw [run_bind values]
    rfl
  rw [Engine.render, made, rendered]
  cases result <;> rfl

end

end Run

end ClientGen.Template
