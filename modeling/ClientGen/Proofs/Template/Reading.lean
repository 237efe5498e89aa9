import ClientGen.Template.Rendering

/-!
# Computations that only read

Most of what a template does leaves the store as it is. Such a computation is described by its
result alone, and the results of its parts compose: this file has a rule for each kind of
expression and of instruction that the templates of a client use without changing the store.
-/

namespace ClientGen.Template

namespace Run

variable {α β : Type} {store : Store} {scope : Place} {templates : Templates}

/-- The computation has this result in a store and leaves the store as it is. -/
def Reads (store : Store) (computation : Run α) (result : Result α) : Prop :=
  computation store = result.map fun value => (value, store)

theorem Reads.pure (value : α) : Reads store (Pure.pure value) (.ok value) := rfl

theorem Reads.bind {first : Run α} {next : α → Run β} {result : Result α}
    {results : α → Result β} (head : Reads store first result)
    (tail : ∀ value, result = .ok value → Reads store (next value) (results value)) :
    Reads store (first >>= next) (result >>= results) := by
  have step : (first >>= next) store = first store >>= fun pair => next pair.1 pair.2 := rfl
  rw [Reads, step, head]
  cases result with
  | error problem => rfl
  | ok value => exact tail value rfl

/-- A first part that has a value hands it on. -/
theorem Reads.bind_ok {first : Run α} {next : α → Run β} {value : α} {result : Result β}
    (head : Reads store first (.ok value)) (tail : Reads store (next value) result) :
    Reads store (first >>= next) result := by
  have both : Reads store (first >>= next) (.ok value >>= fun _ => result) :=
    head.bind fun found equal => by cases equal; exact tail
  exact both

/-! ## Variables -/

/-- The variable at a slot has a value in a scope. -/
def Shows (store : Store) (scope : Place) (slot : Slot) (value : Datum) : Prop :=
  ∃ level outer context bindings,
    store.cells[scope]? = some (.scope level outer context bindings) ∧
      level ≤ slot.level ∧ valueAt slot bindings = some value

theorem Reads.find? {slot : Slot} {value : Datum} (shown : Shows store scope slot value) :
    Reads store (Run.find? scope slot) (.ok (some value)) := by
  obtain ⟨level, outer, context, bindings, cell, deep, found⟩ := shown
  have near : decide (level ≤ slot.level) = true := decide_eq_true deep
  have readScope : Reads store (read scope) (.ok (.scope level outer context bindings)) := by
    simp [Reads, read, cell, Except.map]
  show Reads store (findFrom slot (999 + 1) scope) _
  rw [findFrom]
  refine readScope.bind_ok ?_
  simp only [near, found]
  exact Reads.pure _

/-- The items of a list that stands at a place. -/
theorem Reads.listAt {place : Place} {items : Array Datum}
    (cell : store.cells[place]? = some (.list items)) :
    Reads store (Run.listAt place) (.ok items) := by
  have readList : Reads store (read place) (.ok (.list items)) := by
    simp [Reads, read, cell, Except.map]
  exact readList.bind_ok (Reads.pure _)

/-! ## Expressions -/

section

variable {engine : Engine} {depth : Nat} {slot : Slot} {value : Datum}

theorem value_succ (engine : Engine) (depth : Nat) (scope : Place) (formula : Formula) :
    (engine.machine (depth + 1)).value scope formula =
      valueOf (engine.machine depth) scope formula := rfl

theorem reads_name (shown : Shows store scope slot value) :
    Reads store ((engine.machine (depth + 1)).value scope (.name slot)) (.ok value) := by
  rw [value_succ, valueOf]
  exact (Reads.find? shown).bind_ok (Reads.pure _)

theorem reads_not {formula : Formula} {flag : Bool}
    (operand : Reads store ((engine.machine depth).value scope formula) (.ok (.bool flag))) :
    Reads store ((engine.machine (depth + 1)).value scope (.not formula))
      (.ok (.bool !flag)) := by
  rw [value_succ, valueOf]
  exact operand.bind_ok rfl

/-- Whether a datum is the absent one. -/
def isAbsent : Datum → Bool
  | .none => true
  | _ => false

theorem kindTest?_none (datum : Datum) : kindTest? "none" datum = some (isAbsent datum) := by
  cases datum <;> rfl

/-- The test for the absent datum. -/
theorem reads_absent (shown : Shows store scope slot value) :
    Reads store ((engine.machine (depth + 2)).value scope (.test (.name slot) "none" []))
      (.ok (.bool (isAbsent value))) := by
  rw [value_succ, valueOf]
  refine (reads_name shown).bind_ok ?_
  have supplied : Reads store (supply (engine.machine (depth + 1)) scope [])
      (.ok Supplied.nothing) := rfl
  refine supplied.bind_ok ?_
  have known : testNames.contains "none" = true := by decide
  have uncompared : comparisonTests.find? (·.1 == "none") = none := by decide
  have sole : soleTests.contains "none" = true := by decide
  have answer : Reads store ((engine.machine (depth + 1)).test (.text "none") value
      Supplied.nothing) (.ok (isAbsent value)) := by
    show Reads store (testNamed (engine.machine depth) _ (.text "none") value _) _
    have key : Reads store (asKey (.text "none")) (.ok (.text "none")) := rfl
    refine key.bind_ok ?_
    simp only [Datum.text?, testBy, uncompared, sole, if_true]
    have finished : Reads store Supplied.nothing.finish (.ok ()) := rfl
    refine finished.bind_ok ?_
    simp only [soleTest, kindTest?_none]
    exact Reads.pure _
  simp only [testedValue, known, if_true]
  exact answer.bind_ok (Reads.pure _)

end

/-! ## Instructions -/

/-- What instructions print, whatever has been printed before. -/
def Prints (store : Store) (machine : Machine) (templates : Templates) (scope : Place)
    (instructions : List Instruction) (result : Result String) : Prop :=
  ∀ before, Reads store (performAll machine templates scope before instructions)
    (result.map (before ++ ·))

section

variable {machine : Machine}

/-- Instructions that print a text print any text equal to it. -/
theorem Prints.of_eq {instructions : List Instruction} {text other : String}
    (prints : Prints store machine templates scope instructions (.ok text))
    (equal : text = other) : Prints store machine templates scope instructions (.ok other) :=
  equal ▸ prints

theorem Prints.nil : Prints store machine templates scope [] (.ok "") := by
  intro before
  simp only [Reads, Except.map, String.append_empty]
  rfl

theorem Prints.cons {instruction : Instruction} {rest : List Instruction}
    {result results : Result String}
    (one : Reads store (performOne machine templates scope instruction) result)
    (others : Prints store machine templates scope rest results) :
    Prints store machine templates scope (instruction :: rest)
      (do .ok ((← result) ++ (← results))) := by
  intro before
  rw [performAll]
  have both := one.bind fun more _ => others (before ++ more)
  cases result with
  | error problem => exact both
  | ok more =>
      cases results with
      | error problem => exact both
      | ok text =>
          have regrouped : before ++ more ++ text = before ++ (more ++ text) :=
            String.append_assoc
          rw [Reads] at both ⊢
          rw [both]
          exact congrArg (fun whole => Except.ok (whole, store)) regrouped

/-- Instructions print the same as a body of their own. -/
theorem Prints.perform {engine : Engine} {depth : Nat} {body : List Instruction}
    {result : Result String}
    (inner : Prints store (engine.machine depth) engine.templates scope body result) :
    Reads store ((engine.machine (depth + 1)).perform scope body) result := by
  have whole := inner ""
  cases result with
  | error problem => exact whole
  | ok text =>
      rw [Except.map, String.empty_append] at whole
      exact whole

/-- An instruction that prints a text, in front of others. -/
theorem Prints.cons_ok {instruction : Instruction} {rest : List Instruction} {text : String}
    {results : Result String}
    (one : Reads store (performOne machine templates scope instruction) (.ok text))
    (others : Prints store machine templates scope rest results) :
    Prints store machine templates scope (instruction :: rest) (results.map (text ++ ·)) := by
  have both := Prints.cons one others
  cases results <;> exact both

/-- A text in front of instructions. -/
theorem Prints.text {text : String} {rest : List Instruction} {results : Result String}
    (others : Prints store machine templates scope rest results) :
    Prints store machine templates scope (.text text :: rest) (results.map (text ++ ·)) :=
  Prints.cons_ok (Reads.pure text : Reads store (performOne machine templates scope (.text text)) _) others

end

section

variable {engine : Engine} {depth : Nat} {slot : Slot}

theorem reads_print_name {text : String} (shown : Shows store scope slot (.text text)) :
    Reads store (performOne (engine.machine (depth + 1)) templates scope
      (.print .plain (.name slot))) (.ok text) := by
  rw [performOne]
  exact (reads_name shown).bind_ok rfl

/-- A value that is computed before it is printed as text. -/
theorem reads_print {machine : Machine} {formula : Formula} {result : Result String}
    (computed : Reads store (machine.value scope formula) (result.map .text)) :
    Reads store (performOne machine templates scope (.print .plain formula)) result := by
  rw [performOne]
  cases result with
  | error problem =>
      have stopped : ∀ value, (Except.error problem).map Datum.text = .ok value →
          Reads store (counted machine value >>= fun shown => escapes .plain >>= fun isEscaped =>
            printed isEscaped shown) (.error problem) := fun _ impossible => by cases impossible
      exact computed.bind stopped
  | ok text => exact computed.bind_ok rfl

/-- A condition decides between the body and the last branch. -/
theorem reads_branch {condition : Formula} {body otherwise : List Instruction}
    {value : Datum} {flag : Bool} {result : Result String}
    (computed : Reads store ((engine.machine (depth + 1)).value scope condition) (.ok value))
    (truth : Reads store (isTruthy value) (.ok flag))
    (inner : Prints store (engine.machine depth) engine.templates scope
      (if flag then body else otherwise) result) :
    Reads store (performOne (engine.machine (depth + 1)) templates scope
      (.branch condition body [] otherwise)) result := by
  rw [performOne, runBranches]
  refine computed.bind_ok (truth.bind_ok ?_)
  cases flag with
  | false => exact inner.perform
  | true => exact inner.perform

end

end Run

end ClientGen.Template
