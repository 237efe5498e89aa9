import ClientGen.Proofs.Template.Reading

/-!
# Loops over lists

A loop in the outermost scope of a template changes cells of its own and the variables of its own
depth, and nothing else. That is the invariant of a run through the items of a list; with it, what
the loop prints is what its body prints for each item, one after another.
-/

namespace ClientGen.Template

namespace Run

/-- What follows a computation goes on from where that ended. -/
theorem run_bind {α β : Type} {first : Run α} {next : α → Run β} {store after : Store}
    {value : α} (ran : first store = .ok (value, after)) :
    (first >>= next) store = next value after := by
  have step : (first >>= next) store = first store >>= fun pair => next pair.1 pair.2 := rfl
  rw [step, ran]
  rfl

/-- What ends a computation ends all that follows it. -/
theorem run_bind_error {α β : Type} {first : Run α} {next : α → Run β} {store : Store}
    {problem : TemplateFault} (ran : first store = .error problem) :
    (first >>= next) store = .error problem := by
  have step : (first >>= next) store = first store >>= fun pair => next pair.1 pair.2 := rfl
  rw [step, ran]
  rfl

/-! ## Changes of a store -/

/-- The store with another cell at a place. -/
def setCell (store : Store) (place : Place) (cell : Cell) : Store :=
  { store with cells := store.cells.setIfInBounds place cell }

theorem cells_setCell_self {store : Store} {place : Place} {old : Cell}
    (present : store.cells[place]? = some old) (cell : Cell) :
    (setCell store place cell).cells[place]? = some cell := by
  have bound := (Array.getElem?_eq_some_iff.mp present).1
  simp [setCell, bound]

theorem cells_setCell_ne (store : Store) {place other : Place} (different : other ≠ place)
    (cell : Cell) : (setCell store place cell).cells[other]? = store.cells[other]? := by
  simp [setCell, different.symm]

theorem setCell_same {store : Store} {place : Place} {cell : Cell}
    (present : store.cells[place]? = some cell) : setCell store place cell = store := by
  have bound := (Array.getElem?_eq_some_iff.mp present).1
  have entry := (Array.getElem?_eq_some_iff.mp present).2
  have unchanged : store.cells.setIfInBounds place cell = store.cells := by
    rw [← entry, Array.setIfInBounds_def, dif_pos bound, Array.set_getElem_self]
  rw [setCell, unchanged]

theorem setCell_setCell (store : Store) (place : Place) (first second : Cell) :
    setCell (setCell store place first) place second = setCell store place second := by
  simp [setCell]

theorem read_eq {store : Store} {place : Place} {cell : Cell}
    (present : store.cells[place]? = some cell) : read place store = .ok (cell, store) := by
  simp [read, present]

/-! ## Values of variables -/

theorem valueAt_putValue_self (slot : Slot) (value : Datum) (bindings : List (Slot × Datum)) :
    valueAt slot (putValue slot value bindings) = some value := by
  induction bindings with
  | nil => simp [putValue, valueAt]
  | cons head rest ih =>
      obtain ⟨other, old⟩ := head
      by_cases same : other = slot
      · simp [putValue, valueAt, same]
      · simp [putValue, valueAt, same, ih]

theorem valueAt_putValue_ne {slot other : Slot} (different : other ≠ slot) (value : Datum)
    (bindings : List (Slot × Datum)) :
    valueAt other (putValue slot value bindings) = valueAt other bindings := by
  induction bindings with
  | nil => simp [putValue, valueAt, different.symm]
  | cons head rest ih =>
      obtain ⟨first, old⟩ := head
      by_cases same : first = slot
      · simp [putValue, valueAt, same, different.symm]
      · simp only [putValue, valueAt, if_neg same, ih]

theorem valueAt_dropValue_ne {slot other : Slot} (different : other ≠ slot)
    (bindings : List (Slot × Datum)) :
    valueAt other (dropValue slot bindings) = valueAt other bindings := by
  induction bindings with
  | nil => rfl
  | cons head rest ih =>
      obtain ⟨first, old⟩ := head
      by_cases dropped : first = slot
      · have gone : dropValue slot ((first, old) :: rest) = dropValue slot rest := by
          simp [dropValue, dropped]
        rw [gone, ih, valueAt, if_neg (by rw [dropped]; exact different.symm)]
      · have stays : dropValue slot ((first, old) :: rest) =
            (first, old) :: dropValue slot rest := by
          simp [dropValue, dropped]
        rw [stays, valueAt, valueAt, ih]

/-! ## The invariant -/

/-- A store after another one: its cells but the scope are as they were, new ones aside, and so are
the outermost variables of the scope. -/
structure Extends (scope : Place) (before after : Store) : Prop where
  cell : ∀ {place : Place} {cell : Cell}, place ≠ scope → before.cells[place]? = some cell →
    after.cells[place]? = some cell
  bindings : ∀ {level : Nat} {outer : Option Place} {context : Place}
    {bindings : List (Slot × Datum)},
    before.cells[scope]? = some (.scope level outer context bindings) →
    ∃ changed, after.cells[scope]? = some (.scope level outer context changed) ∧
      ∀ slot : Slot, slot.level = 0 → valueAt slot changed = valueAt slot bindings
  successor : after.successor = before.successor

namespace Extends

variable {scope : Place} {first middle last : Store}

theorem refl (scope : Place) (store : Store) : Extends scope store store where
  cell _ present := present
  bindings present := ⟨_, present, fun _ _ => rfl⟩
  successor := rfl

theorem trans (left : Extends scope first middle) (right : Extends scope middle last) :
    Extends scope first last where
  cell different present := right.cell different (left.cell different present)
  bindings present := by
    obtain ⟨changed, located, agree⟩ := left.bindings present
    obtain ⟨again, presentAgain, agreeAgain⟩ := right.bindings located
    exact ⟨again, presentAgain, fun slot outermost => by
      rw [agreeAgain slot outermost, agree slot outermost]⟩
  successor := by rw [right.successor, left.successor]

theorem shows {slot : Slot} {value : Datum} (extension : Extends scope first last)
    (outermost : slot.level = 0) (shown : Shows first scope slot value) :
    Shows last scope slot value := by
  obtain ⟨level, outer, context, bindings, present, deep, found⟩ := shown
  obtain ⟨changed, located, agree⟩ := extension.bindings present
  exact ⟨level, outer, context, changed, located, deep, by rw [agree slot outermost, found]⟩

/-- A cell of another kind stands apart from the scope, so that it is kept. -/
theorem kept {level : Nat} {outer : Option Place} {context place : Place}
    {bindings : List (Slot × Datum)} {cell : Cell} (extension : Extends scope first last)
    (present : first.cells[scope]? = some (.scope level outer context bindings))
    (different : ∀ level outer context bindings, cell ≠ .scope level outer context bindings)
    (found : first.cells[place]? = some cell) : last.cells[place]? = some cell := by
  refine extension.cell ?_ found
  rintro rfl
  rw [present] at found
  cases found
  exact different _ _ _ _ rfl

/-- A new cell. -/
theorem push (scope : Place) (store : Store) (cell : Cell) :
    Extends scope store { store with cells := store.cells.push cell } where
  cell _ present := by
    have bound := (Array.getElem?_eq_some_iff.mp present).1
    rw [Array.getElem?_push_lt bound, ← present, Array.getElem?_eq_getElem bound]
  bindings present := by
    have bound := (Array.getElem?_eq_some_iff.mp present).1
    refine ⟨_, ?_, fun _ _ => rfl⟩
    rw [Array.getElem?_push_lt bound, ← present, Array.getElem?_eq_getElem bound]
  successor := rfl

/-- Another cell at a place that the first store does not have. -/
theorem setCell_new {place : Place} (extension : Extends scope first last) (cell : Cell)
    (absent : first.cells[place]? = none) (different : place ≠ scope) :
    Extends scope first (setCell last place cell) where
  cell {other} {_} apart present := by
    have other_ne : other ≠ place := by
      rintro rfl
      rw [absent] at present
      exact Option.some_ne_none _ present.symm
    rw [cells_setCell_ne last other_ne]
    exact extension.cell apart present
  bindings present := by
    rw [cells_setCell_ne last different.symm]
    exact extension.bindings present
  successor := extension.successor

/-- Other variables of the scope. -/
theorem setCell_scope {store : Store} {level : Nat} {outer : Option Place} {context : Place}
    {bindings changed : List (Slot × Datum)}
    (present : store.cells[scope]? = some (.scope level outer context bindings))
    (agree : ∀ slot : Slot, slot.level = 0 → valueAt slot changed = valueAt slot bindings) :
    Extends scope store (setCell store scope (.scope level outer context changed)) where
  cell different found := by
    rw [cells_setCell_ne store different]
    exact found
  bindings found := by
    rw [present] at found
    cases found
    exact ⟨changed, cells_setCell_self present _, agree⟩
  successor := rfl

end Extends

/-! ## Assignments -/

variable {store : Store} {scope context : Place} {level : Nat} {outer : Option Place}
  {bindings : List (Slot × Datum)}

theorem assign_eq (present : store.cells[scope]? = some (.scope level outer context bindings))
    (slot : Slot) (value : Datum) :
    assign scope slot value store =
      .ok ((), setCell store scope (.scope level outer context
        (putValue slot value bindings))) := by
  rw [assign, run_bind (read_eq present)]
  rfl

theorem forget_eq (present : store.cells[scope]? = some (.scope level outer context bindings))
    (slot : Slot) :
    forget scope slot store =
      .ok ((), setCell store scope (.scope level outer context (dropValue slot bindings))) := by
  rw [forget, run_bind (read_eq present)]
  rfl

/-- Leaving the variables of a loop keeps the outermost ones. -/
theorem leave_extends {opening : Opening} (inner : ∀ entry ∈ opening, entry.1.level ≠ 0) :
    ∀ {store : Store} {bindings : List (Slot × Datum)},
      store.cells[scope]? = some (.scope level outer context bindings) →
      ∃ after, leave scope opening store = .ok ((), after) ∧ Extends scope store after := by
  induction opening with
  | nil =>
      intro store bindings _
      exact ⟨store, rfl, Extends.refl scope store⟩
  | cons entry rest ih =>
      intro store bindings present
      obtain ⟨slot, origin⟩ := entry
      have deeper : slot.level ≠ 0 := inner (slot, origin) List.mem_cons_self
      have forgotten := forget_eq present slot
      obtain ⟨after, left, extension⟩ :=
        ih (fun entry member => inner entry (List.mem_cons_of_mem _ member))
          (cells_setCell_self present (.scope level outer context (dropValue slot bindings)))
      refine ⟨after, ?_, (Extends.setCell_scope present ?_).trans extension⟩
      · have step : leave scope ((slot, origin) :: rest) =
            forget scope slot >>= fun _ => leave scope rest := rfl
        rw [step, run_bind forgotten]
        exact left
      · intro other outermost
        have different : other ≠ slot := by
          rintro rfl
          exact deeper outermost
        exact valueAt_dropValue_ne different bindings

/-! ## Opening a scope -/

/-- Each variable of an opening is given or has a value in what a context was given. -/
def Opens (given : List (String × Datum)) (opening : Opening) : Prop :=
  ∀ entry ∈ opening,
    entry.2 = .given ∨ (entry.2 = .context ∧ (named entry.1.name given).isSome)

theorem contextOf_eq
    (present : store.cells[scope]? = some (.scope level outer context bindings)) :
    contextOf scope store = .ok (context, store) := by
  rw [contextOf, run_bind (read_eq present)]
  rfl

theorem resolve?_eq {given : List (String × Datum)} {blocks : List Block} {name : String}
    {value : Datum} (known : store.cells[context]? = some (.context [] given blocks))
    (found : named name given = some value) :
    resolve? context name store = .ok (some value, store) := by
  rw [resolve?, run_bind (read_eq known)]
  simp only [named, found]
  rfl

/-- Opening a scope sets the variables that the context knows and keeps the others. -/
theorem enter_eq {given : List (String × Datum)} {blocks : List Block} {opening : Opening}
    (opens : Opens given opening) :
    ∀ {store : Store} {bindings : List (Slot × Datum)},
      store.cells[scope]? = some (.scope level outer context bindings) →
      store.cells[context]? = some (.context [] given blocks) →
      ∃ changed, enter scope opening store =
          .ok ((), setCell store scope (.scope level outer context changed)) ∧
        (∀ slot, (slot, .context) ∉ opening → valueAt slot changed = valueAt slot bindings) ∧
        (∀ slot, (slot, .context) ∈ opening →
          valueAt slot changed = named slot.name given) := by
  induction opening with
  | nil =>
      intro store bindings present _
      refine ⟨bindings, ?_, fun _ _ => rfl, fun _ member => absurd member List.not_mem_nil⟩
      rw [setCell_same present]
      rfl
  | cons entry rest ih =>
      intro store bindings present known
      obtain ⟨slot, origin⟩ := entry
      have later : Opens given rest := fun entry member =>
        opens entry (List.mem_cons_of_mem _ member)
      rcases opens (slot, origin) List.mem_cons_self with rfl | ⟨rfl, found⟩
      · obtain ⟨changed, entered, kept, set⟩ := ih later present known
        refine ⟨changed, ?_, ?_, ?_⟩
        · rw [← entered]
          rfl
        · intro other absent
          exact kept other fun member => absent (List.mem_cons_of_mem _ member)
        · intro other member
          rcases List.mem_cons.mp member with same | inside
          · cases same
          · exact set other inside
      · obtain ⟨value, found⟩ := Option.isSome_iff_exists.mp found
        have apart : context ≠ scope := by
          rintro rfl
          rw [present] at known
          cases known
        have present' := cells_setCell_self present
          (.scope level outer context (putValue slot value bindings))
        have known' := known
        rw [← cells_setCell_ne store apart
          (.scope level outer context (putValue slot value bindings))] at known'
        obtain ⟨changed, entered, kept, set⟩ := ih later present' known'
        refine ⟨changed, ?_, ?_, ?_⟩
        · rw [enter]
          dsimp only
          rw [run_bind (contextOf_eq present), run_bind (resolve?_eq known found)]
          dsimp only
          rw [run_bind (assign_eq present slot value), entered, setCell_setCell]
        · intro other absent
          have different : other ≠ slot := by
            rintro rfl
            exact absent List.mem_cons_self
          rw [kept other fun member => absent (List.mem_cons_of_mem _ member),
            valueAt_putValue_ne different]
        · intro other member
          by_cases inside : (other, Origin.context) ∈ rest
          · exact set other inside
          · have same : other = slot := by
              rcases List.mem_cons.mp member with same | later
              · exact congrArg Prod.fst same
              · exact absurd later inside
            rw [kept other inside, same, valueAt_putValue_self, found]

/-! ## Streams of lists -/

/-- What is left of a stream over a list at a position. -/
def laterStream (place : Place) (items : Array Datum) (position : Nat) : Stream :=
  if (items[position]?).isSome then .elements place (position + 1) else .items []

theorem next_elements (engine : Engine) (depth : Nat) {position : Nat} {stream place : Place}
    {items : Array Datum}
    (going : store.cells[stream]? = some (.stream (.elements place position)))
    (listed : store.cells[place]? = some (.list items)) :
    (engine.machine (depth + 1)).next stream store =
      .ok (items[position]?,
        setCell store stream (.stream (laterStream place items position))) := by
  have opened : streamAt stream store = .ok (.elements place position, store) := by
    rw [streamAt, run_bind (read_eq going)]
    rfl
  have items_eq : listAt place store = .ok (items, store) := by
    rw [listAt, run_bind (read_eq listed)]
    rfl
  show advanceStream (engine.machine depth) stream store = _
  rw [advanceStream, run_bind opened]
  simp only
  rw [run_bind items_eq]
  rfl

/-! ## Going through the items -/

/-- The run through the items of a list that are left: the body prints each of them. -/
theorem iterate_elements (engine : Engine) (depth : Nat) {stream place : Place}
    {items : Array Datum} {once : Datum → Run String} {line : Datum → String}
    (listed : store.cells[place]? = some (.list items)) (fresh : store.cells[stream]? = none)
    (present : store.cells[scope]? = some (.scope level outer context bindings)) :
    ∀ {rest : List Datum} {position fuel : Nat} (printed : String) (count : Nat) {current : Store},
      items.toList.drop position = rest → rest.length < fuel →
      (∀ item ∈ rest, ∀ now, Extends scope store now →
        ∃ after, once item now = .ok (line item, after) ∧ Extends scope now after) →
      Extends scope store current →
      current.cells[stream]? = some (.stream (.elements place position)) →
      ∃ after, iterate ((engine.machine (depth + 1)).next stream) once fuel printed count current =
          .ok ((printed ++ String.join (rest.map line), count + rest.length), after) ∧
        Extends scope store after := by
  have place_ne : place ≠ scope := by
    rintro rfl
    rw [present] at listed
    cases listed
  have stream_ne : stream ≠ scope := by
    rintro rfl
    rw [present] at fresh
    cases fresh
  intro rest
  induction rest with
  | nil =>
      intro position fuel printed count current remaining enough _ extension going
      obtain ⟨fuel, rfl⟩ : ∃ less, fuel = less + 1 := ⟨fuel - 1, by simp at enough; omega⟩
      have ended : items[position]? = none := by
        rw [← Array.getElem?_toList, ← List.head?_drop, remaining]
        rfl
      have next := next_elements engine depth going
        (extension.cell place_ne listed)
      rw [ended] at next
      have moved := extension.setCell_new (.stream (laterStream place items position))
        fresh stream_ne
      refine ⟨_, ?_, moved⟩
      rw [iterate, run_bind next, List.map_nil, String.join_nil, String.append_empty]
      rfl
  | cons item rest ih =>
      intro position fuel printed count current remaining enough step extension going
      obtain ⟨fuel, rfl⟩ : ∃ less, fuel = less + 1 := ⟨fuel - 1, by simp at enough; omega⟩
      have found : items[position]? = some item := by
        rw [← Array.getElem?_toList, ← List.head?_drop, remaining]
        rfl
      have remaining' : items.toList.drop (position + 1) = rest := by
        rw [← List.drop_drop, remaining]
        rfl
      have next := next_elements engine depth going
        (extension.cell place_ne listed)
      rw [found] at next
      have moved := extension.setCell_new (.stream (laterStream place items position))
        fresh stream_ne
      obtain ⟨middle, once_eq, further⟩ := step item List.mem_cons_self _ moved
      have later : (laterStream place items position) = .elements place (position + 1) := by
        simp [laterStream, found]
      have going' : middle.cells[stream]? = some (.stream (.elements place (position + 1))) := by
        rw [← later]
        exact further.cell stream_ne (cells_setCell_self going _)
      have less : rest.length < fuel := by
        simp only [List.length_cons] at enough
        omega
      obtain ⟨after, ran, whole⟩ := ih (printed ++ line item) (count + 1) remaining' less
        (fun other member => step other (List.mem_cons_of_mem _ member))
        (moved.trans further) going'
      refine ⟨after, ?_, whole⟩
      rw [iterate, run_bind next]
      simp only
      rw [run_bind once_eq, ran]
      have text : printed ++ line item ++ String.join (rest.map line) =
          printed ++ String.join ((item :: rest).map line) := by
        rw [List.map_cons, String.join_cons, String.append_assoc]
      have number : count + 1 + rest.length = count + (item :: rest).length := by
        rw [List.length_cons]
        omega
      rw [text, number]

/-! ## Loops -/

/-- A loop in the outermost scope that takes all items and does nothing else without any. -/
def plainLoop (goal : Slot) (opening : Opening) (body : List Instruction) :
    Iteration Instruction :=
  ⟨.slot goal, none, none, 1, opening, body, [], []⟩

/-- What a loop does for an item. -/
def turn (machine : Machine) (scope : Place) (goal : Slot) (opening : Opening)
    (body : List Instruction) (item : Datum) : Run String := do
  assign scope goal item
  enter scope opening
  machine.perform scope body

/-- A loop prints what its body prints for the items, one after another. -/
theorem performOne_loop {engine : Engine} {depth : Nat} {templates : Templates} {place : Place}
    {items : Array Datum} {goal : Slot} {opening : Opening} {body : List Instruction}
    {formula : Formula} (line : Datum → String)
    (present : store.cells[scope]? = some (.scope level outer context bindings))
    (listed : store.cells[place]? = some (.list items))
    (inner : ∀ entry ∈ opening, entry.1.level ≠ 0)
    (source : Reads store ((engine.machine (depth + 1)).value scope formula) (.ok (.list place)))
    (step : ∀ item ∈ items.toList, ∀ now, Extends scope store now →
      ∃ after, turn (engine.machine (depth + 1)) scope goal opening body item now =
          .ok (line item, after) ∧ Extends scope now after) :
    ∃ after, performOne (engine.machine (depth + 1)) templates scope
        (.loop (plainLoop goal opening body) formula) store =
          .ok (String.join (items.toList.map line), after) ∧
      Extends scope store after := by
  let stream := store.cells.size
  let started : Store :=
    { store with cells := store.cells.push (.stream (.elements place 0)) }
  have fresh : store.cells[stream]? = none := Array.getElem?_size
  have extension : Extends scope store started := Extends.push scope store _
  have going : started.cells[stream]? = some (.stream (.elements place 0)) :=
    Array.getElem?_push_size
  have place_ne : place ≠ scope := by
    rintro rfl
    rw [present] at listed
    cases listed
  have bound : loopBound stream started = .ok (greatestCount + items.size, started) := by
    have own : ownItems stream started = items.size := by
      simp [ownItems, going, extension.cell place_ne listed]
    rw [loopBound, own]
  have enough : items.toList.length < greatestCount + items.size := by
    have positive : 0 < greatestCount := by
      unfold greatestCount
      omega
    rw [Array.length_toList]
    omega
  obtain ⟨middle, iterated, further⟩ := iterate_elements engine depth listed fresh present
    "" 0 List.drop_zero enough step extension going
  obtain ⟨changed, scopeCell, _⟩ := further.bindings present
  obtain ⟨after, left, last⟩ := leave_extends inner scopeCell
  refine ⟨after, ?_, further.trans last⟩
  have value : (engine.machine (depth + 1)).value scope formula store =
      .ok (.list place, store) := source
  have opened : openStream (.list place) store = .ok (stream, started) := rfl
  rw [performOne, run_bind value, runLoop]
  have sourced : loopSource scope (plainLoop goal opening body) (.list place) store =
      .ok (.list place, store) := rfl
  rw [run_bind sourced, run_bind opened]
  simp only
  rw [run_bind bound]
  have printed : iterate ((engine.machine (depth + 1)).next stream)
      (turn (engine.machine (depth + 1)) scope goal opening body)
      (greatestCount + items.size) "" 0 started =
        .ok ((String.join (items.toList.map line), items.toList.length), middle) := by
    rw [iterated, String.empty_append, Nat.zero_add]
  have rest : ∀ count, (do
      leave scope opening
      if count = 0 then do
        enter scope []
        let printed ← (engine.machine (depth + 1)).perform scope []
        leave scope []
        pure printed
      else pure (String.join (items.toList.map line)) : Run String) middle =
        .ok (if count = 0 then "" else String.join (items.toList.map line), after) := by
    intro count
    rw [run_bind left]
    by_cases none : count = 0
    · rw [if_pos none, if_pos none]
      rfl
    · rw [if_neg none, if_neg none]
      rfl
  have goalText : (if items.toList.length = 0 then "" else String.join (items.toList.map line)) =
      String.join (items.toList.map line) := by
    split
    · next none => rw [List.length_eq_zero_iff.mp none, List.map_nil, String.join_nil]
    · rfl
  rw [← goalText, ← rest]
  exact run_bind printed

/-- A loop does for an item what its body prints once the variables of the loop have their
values. -/
theorem turn_eq {engine : Engine} {depth : Nat} {given : List (String × Datum)} {blocks : List Block} {goal : Slot} {opening : Opening} {body : List Instruction}
    {item : Datum} {text : String}
    (present : store.cells[scope]? = some (.scope 0 outer context bindings))
    (known : store.cells[context]? = some (.context [] given blocks))
    (opens : Opens given opening) (inner : ∀ entry ∈ opening, entry.1.level ≠ 0)
    (innerGoal : goal.level ≠ 0) (separate : (goal, .context) ∉ opening)
    (printed : ∀ after, Extends scope store after → Shows after scope goal item →
      (∀ slot value, (slot, .context) ∈ opening → named slot.name given = some value →
        Shows after scope slot value) →
      Prints after (engine.machine depth) engine.templates scope body (.ok text)) :
    ∃ after, turn (engine.machine (depth + 1)) scope goal opening body item store =
        .ok (text, after) ∧ Extends scope store after := by
  have apart : context ≠ scope := by
    rintro rfl
    rw [present] at known
    cases known
  have present' := cells_setCell_self present
    (.scope 0 outer context (putValue goal item bindings))
  have known' := known
  rw [← cells_setCell_ne store apart
    (.scope 0 outer context (putValue goal item bindings))] at known'
  obtain ⟨changed, entered, kept, set⟩ := enter_eq opens present' known'
  rw [setCell_setCell] at entered
  have present'' := cells_setCell_self present (.scope 0 outer context changed)
  have extension : Extends scope store (setCell store scope (.scope 0 outer context changed)) := by
    refine Extends.setCell_scope present fun slot outermost => ?_
    have unopened : (slot, .context) ∉ opening := fun member => inner _ member outermost
    have different : slot ≠ goal := by
      rintro rfl
      exact innerGoal outermost
    rw [kept slot unopened, valueAt_putValue_ne different]
  have shown : Shows (setCell store scope (.scope 0 outer context changed)) scope goal item :=
    ⟨0, outer, context, changed, present'', Nat.zero_le _, by
      rw [kept goal separate, valueAt_putValue_self]⟩
  have others : ∀ slot value, (slot, .context) ∈ opening → named slot.name given = some value →
      Shows (setCell store scope (.scope 0 outer context changed)) scope slot value :=
    fun slot value member found =>
      ⟨0, outer, context, changed, present'', Nat.zero_le _, by rw [set slot member, found]⟩
  refine ⟨_, ?_, extension⟩
  rw [turn, run_bind (assign_eq present goal item), run_bind entered]
  exact (printed _ extension shown others).perform

end Run

end ClientGen.Template
