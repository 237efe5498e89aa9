import ClientGen.Proofs.Client.Dangling
import ClientGen.Proofs.Template.Output

/-!
# Broken templates

A rendering uses the template engine for one thing after the other: it compiles the two templates,
and then prints each definition and each operation with them. The first of these that breaks ends
the rendering. What the engine complains about is reported with the template or with the definition
or operation; what it does not complain about but trips over, such as a division by zero, is a fault
and is not reported.
-/

namespace ClientGen.Client

open Api Template

variable {settings : Settings} {root : Path} {spec : Spec} {first second : Template.Template}
  {cause : TemplateFault}

/-! ## Where the engine is at work -/

/-- What the engine is used for. -/
inductive Stage where
  /-- Compiling a template. -/
  | compiling (template : String)
  /-- Printing a definition or an operation. -/
  | printing (owner : String)

/-- What becomes of a problem of the engine: a complaint is reported, and a fault stays one. -/
def Stage.problem : Stage → TemplateFault → Problem
  | .compiling template, .failed detail => Failure.invalidTemplate template detail
  | .printing owner, .failed detail => Failure.templateFailed owner detail
  | _, .fault fault => fault

/-- A failure of a family ends a computation. -/
def RefusedWithin {α : Type} (family : FailureKind) (result : Except Problem α) : Prop :=
  ∃ failure : Failure, result = .error (.failure failure) ∧ family ∈ failure.kind.ancestry

/-- Whatever the engine is used for, a complaint of it becomes a failure to render. -/
theorem refusedWithin_problem_iff {α : Type} (stage : Stage) :
    RefusedWithin .render (.error (stage.problem cause) : Except Problem α) ↔
      ∃ detail, cause = .failed detail := by
  cases cause with
  | failed detail =>
      refine iff_of_true ?_ ⟨detail, rfl⟩
      cases stage <;> exact ⟨_, rfl, List.mem_cons_self⟩
  | fault fault =>
      refine iff_of_false ?_ nofun
      cases stage <;> exact fun ⟨_, same, _⟩ => nomatch same

theorem loadTemplate_eq (name bundled : String) (override : Option String) :
    loadTemplate name bundled override =
      (compileSource (override.getD bundled)).mapError (Stage.compiling name).problem := by
  rw [loadTemplate]
  cases compileSource (override.getD bundled) with
  | ok template => rfl
  | error cause => cases cause <;> rfl

theorem printFor_eq (owner : String) (convention : Name.Convention) (template : Template.Template)
    (bindings : Run (List (String × Datum))) :
    printFor owner convention template bindings =
      ((engine convention).render bindings template).mapError (Stage.printing owner).problem := by
  rw [printFor]
  cases (engine convention).render bindings template with
  | ok text => rfl
  | error cause => cases cause <;> rfl

/-! ## Tasks -/

/-- A definition or an operation that is to be printed. -/
structure Task where
  /-- Its name. -/
  owner : String
  /-- The nodes whose references are checked beforehand. -/
  nodes : List TypeNode
  /-- The template. -/
  template : Template.Template
  /-- The variables of the template, given the references. -/
  bindings : List String → Run (List (String × Datum))

/-- The text of a definition or an operation. -/
def Task.text (settings : Settings) (spec : Spec) (task : Task) : Except Problem String := do
  let references ← checkedReferences task.owner spec.defined task.nodes
  printFor task.owner settings.naming task.template (task.bindings references)

/-- All that is printed for an interface, in order. -/
def tasks (settings : Settings) (spec : Spec) (first second : Template.Template) : List Task :=
  spec.definitions.map (fun definition =>
      ⟨definition.name, [definition.schema], first, definitionVariables definition⟩) ++
    spec.operations.map fun operation =>
      ⟨operation.name, operation.nodes, second, operationVariables settings operation⟩

/-- The engine breaks over a task, whose references are known. -/
def Task.Breaks (settings : Settings) (spec : Spec) (task : Task) (cause : TemplateFault) : Prop :=
  ∃ references, checkedReferences task.owner spec.defined task.nodes = .ok references ∧
    (engine settings.naming).render (task.bindings references) task.template = .error cause

/-- A task fails exactly if a reference dangles or the engine breaks over it. -/
theorem Task.text_eq_error {task : Task} {problem : Problem} :
    task.text settings spec = .error problem ↔
      checkedReferences task.owner spec.defined task.nodes = .error problem ∨
        ∃ cause, task.Breaks settings spec cause ∧
          problem = (Stage.printing task.owner).problem cause := by
  rw [Task.text]
  cases checked : checkedReferences task.owner spec.defined task.nodes with
  | error other => simp [Task.Breaks, checked, error_bind]
  | ok references =>
      rw [ok_bind, printFor_eq]
      cases printed : (engine settings.naming).render (task.bindings references) task.template with
      | ok text => simp [Task.Breaks, checked, printed, Except.mapError]
      | error cause => simp [Task.Breaks, checked, printed, Except.mapError, eq_comm]

/-- Once the templates are loaded, the first task that fails ends the rendering. -/
theorem files_eq_error_of_loads (loads : Loads settings first second) {problem : Problem} :
    (files settings root spec).result = .error problem ↔
      ∃ task, First (fun task => ¬ Succeeds (task.text settings spec))
          (tasks settings spec first second) task ∧
        task.text settings spec = .error problem := by
  have reasons : reason? (files settings root spec).result =
      (tasks settings spec first second).findSome? fun task =>
        reason? (task.text settings spec) := by
    rw [reason?_files_of_loads loads, tasks, List.findSome?_append, List.findSome?_map,
      List.findSome?_map]
    congr 1
    · exact findSome?_congr fun _ _ => reason?_bind_of_succeeds fun _ => ⟨_, rfl⟩
    · exact findSome?_congr fun _ _ => reason?_bind_of_succeeds fun _ => ⟨_, rfl⟩
  have fails : ∀ task : Task, (reason? (task.text settings spec)).isSome = true ↔
      ¬ Succeeds (task.text settings spec) := fun task => by
    rw [← reason?_eq_none]
    exact Option.isSome_iff_ne_none
  rw [← reason?_eq_some, reasons, findSome?_eq_some_iff_first fails]
  simp only [reason?_eq_some]

/-! ## Renderings -/

/-- The template engine breaks in a rendering, and where it does. -/
inductive Breaks (settings : Settings) (spec : Spec) : Stage → TemplateFault → Prop where
  /-- The template for definitions cannot be compiled. -/
  | definitions {cause : TemplateFault}
      (broken : compileSource (settings.definitionTemplate.getD definitionSource) = .error cause) :
      Breaks settings spec (.compiling definitionTemplateName) cause
  /-- The template for definitions is compiled, and that for operations cannot be. -/
  | operations {first : Template.Template} {cause : TemplateFault}
      (compiled : compileSource (settings.definitionTemplate.getD definitionSource) = .ok first)
      (broken : compileSource (settings.operationTemplate.getD operationSource) = .error cause) :
      Breaks settings spec (.compiling operationTemplateName) cause
  /-- Both templates are compiled, and a definition or an operation cannot be printed, which is the
  first one without a text. -/
  | printing {first second : Template.Template} {task : Task} {cause : TemplateFault}
      (defining : compileSource (settings.definitionTemplate.getD definitionSource) = .ok first)
      (operating : compileSource (settings.operationTemplate.getD operationSource) = .ok second)
      (reached : First (fun task => ¬ Succeeds (task.text settings spec))
        (tasks settings spec first second) task)
      (broken : task.Breaks settings spec cause) : Breaks settings spec (.printing task.owner) cause

theorem loads_of_compiled
    (defining : compileSource (settings.definitionTemplate.getD definitionSource) = .ok first)
    (operating : compileSource (settings.operationTemplate.getD operationSource) = .ok second) :
    Loads settings first second where
  definition := by rw [loadTemplate_eq, defining]; rfl
  operation := by rw [loadTemplate_eq, operating]; rfl

/-- A rendering in which the engine breaks ends with what becomes of the problem. -/
theorem files_of_breaks {stage : Stage} (breaks : Breaks settings spec stage cause) :
    (files settings root spec).result = .error (stage.problem cause) := by
  cases breaks with
  | definitions broken =>
      rw [files, loadTemplate_eq, broken]
      rfl
  | operations compiled broken =>
      rw [files, loadTemplate_eq, compiled, loadTemplate_eq, broken]
      rfl
  | printing defining operating reached broken =>
      refine (files_eq_error_of_loads (loads_of_compiled defining operating)).mpr
        ⟨_, reached, Task.text_eq_error.mpr (Or.inr ⟨cause, broken, rfl⟩)⟩

/-- A rendering that fails does so for a reference that dangles, or the engine breaks in it. -/
theorem breaks_of_files {problem : Problem}
    (failed : (files settings root spec).result = .error problem) :
    ReportsUnresolved problem ∨
      ∃ stage cause, Breaks settings spec stage cause ∧ problem = stage.problem cause := by
  have ends : ∀ {stage : Stage} {cause : TemplateFault}, Breaks settings spec stage cause →
      ∃ stage cause, Breaks settings spec stage cause ∧ problem = stage.problem cause :=
    fun breaks => ⟨_, _, breaks, Except.error.inj (failed.symm.trans (files_of_breaks breaks))⟩
  cases defining : compileSource (settings.definitionTemplate.getD definitionSource) with
  | error cause => exact Or.inr (ends (.definitions defining))
  | ok first =>
      cases operating : compileSource (settings.operationTemplate.getD operationSource) with
      | error cause => exact Or.inr (ends (.operations defining operating))
      | ok second =>
          obtain ⟨task, reached, broken⟩ :=
            (files_eq_error_of_loads (loads_of_compiled defining operating)).mp failed
          rcases Task.text_eq_error.mp broken with dangling | ⟨cause, breaks, rfl⟩
          · obtain ⟨name, _, rfl, _⟩ := checkedReferences_eq_error.mp dangling
            exact Or.inl ⟨name, task.owner, rfl⟩
          · exact Or.inr ⟨_, cause, .printing defining operating reached breaks, rfl⟩

/-- How a rendering ends with any templates. -/
structure Blames (settings : Settings) (spec : Spec) (result : Except Problem (List File)) :
    Prop where
  /-- If the engine breaks, its complaint is reported and its fault is passed on. -/
  broken : ∀ stage cause, Breaks settings spec stage cause → result = .error (stage.problem cause)
  /-- Nothing else ends a rendering but a reference that dangles. -/
  only : ∀ problem, result = .error problem → ReportsUnresolved problem ∨
    ∃ stage cause, Breaks settings spec stage cause ∧ problem = stage.problem cause
  /-- The files are rendered, or a failure to render is reported, exactly if the engine does not
  break with a fault. -/
  kept : Succeeds result ∨ RefusedWithin .render result ↔
    ∀ stage fault, ¬ Breaks settings spec stage (.fault fault)

/-- Whatever the templates are, a rendering gives its files or a failure to render, unless the engine
breaks with a fault, which is what it ends with then. -/
theorem blames_files (settings : Settings) (root : Path) (spec : Spec) :
    Blames settings spec (files settings root spec).result := by
  refine ⟨fun stage cause => files_of_breaks, fun problem => breaks_of_files, ?_, ?_⟩
  · rintro ended stage fault breaks
    rw [files_of_breaks breaks] at ended
    rcases ended with rendered | refused
    · exact not_succeeds_error _ rendered
    · obtain ⟨_, same⟩ := (refusedWithin_problem_iff stage).mp refused
      cases same
  · intro sound
    cases ended : (files settings root spec).result with
    | ok list => exact Or.inl (succeeds_ok list)
    | error problem =>
        right
        rcases breaks_of_files ended with ⟨name, owner, rfl⟩ | ⟨stage, cause, breaks, rfl⟩
        · exact ⟨_, rfl, .tail _ (.head _)⟩
        · cases cause with
          | failed detail => exact (refusedWithin_problem_iff stage).mpr ⟨detail, rfl⟩
          | fault fault => exact absurd breaks (sound stage fault)

/-! ## A template that divides by zero -/

/-- The source of a template that divides by zero. -/
def dividingSource : String := "\x7b\x7b 1 / 0 \x7d\x7d"

/-- The template in compiled form. -/
def dividingTemplate : Template.Template :=
  ⟨none, [], [.print .plain (.binary .divide (.integer 1) (.integer 0))], []⟩

section

open Compilation Run

private theorem computes_quotient (frame : Frame) (settled : frame.isEscaped = false) :
    Computes frame (.binary .divide (.integer 1) (.integer 0))
      (.binary .divide (.integer 1) (.integer 0)) := by
  have unknown : literal? frame (.binary .divide (.integer 1) (.integer 0)) = pure none := by
    rw [literal?, settled]
    split <;> rfl
  have number : ∀ n : Nat, formulaOf frame (.integer n) = pure (.integer n) := fun n => by
    have plain : literal? frame (.integer n) = pure none := by
      simp [literal?, Folding.isComputed]
    rw [formulaOf, plain, pure_bind, computed]
  rw [Computes, formulaOf, unknown, pure_bind, computed, number, pure_bind, number, pure_bind]

theorem compileSource_dividingSource : compileSource dividingSource = .ok dividingTemplate := by
  have plain := plain_topFrame knownFilters Scope.outermost
  have divided : Piece.ofSource dividingSource.toList =
      .ok [.output [.integer 1, .mark "/", .integer 0]] := rfl
  have parsed : Statement.ofPieces [.output [.integer 1, .mark "/", .integer 0]] =
      .ok [.print [.binary .divide (.integer 1) (.integer 0)]] := rfl
  exact compile_eq divided parsed (templateCode_eq rfl rfl rfl rfl
    (Compiles.print plain rfl (computes_quotient _ plain.unescaped) Compiles.nil))

theorem render_dividingTemplate (convention : Name.Convention) (definition : Api.Definition)
    (references : List String) :
    (engine convention).render (definitionVariables definition references) dividingTemplate =
      .error (.fault .divisionByZero) := by
  refine render_eq (definitionVariables_eq definition references) rfl rfl nofun
    fun context scope store _ => ?_
  have broken : Reads store (performOne ((engine convention).machine 2999)
      (engine convention).templates scope
      (.print .plain (.binary .divide (.integer 1) (.integer 0))))
      (.error (.fault .divisionByZero)) := rfl
  have nothing : Prints store ((engine convention).machine 2999) (engine convention).templates scope
      [] (.ok "") := Prints.nil
  exact (Prints.cons broken nothing).writes

end

/-- Settings with this template for definitions. -/
def dividingSettings : Settings :=
  { Settings.standard with definitionTemplate := some dividingSource }

/-- An interface with a definition. -/
def wordSpec : Spec := ⟨"2.0", ⟨"t", "1", none⟩, [⟨"Word", .scalar false .string none⟩], []⟩

/-- What is printed for it. -/
def wordTask : Task :=
  ⟨"Word", [.scalar false .string none], dividingTemplate,
    definitionVariables ⟨"Word", .scalar false .string none⟩⟩

theorem breaks_wordTask : wordTask.Breaks dividingSettings wordSpec (.fault .divisionByZero) :=
  ⟨[], rfl, render_dividingTemplate _ _ _⟩

theorem breaks_wordSpec :
    Breaks dividingSettings wordSpec (.printing "Word") (.fault .divisionByZero) := by
  have fails : ¬ Succeeds (wordTask.text dividingSettings wordSpec) := by
    rw [Task.text_eq_error.mpr (Or.inr ⟨_, breaks_wordTask, rfl⟩)]
    exact not_succeeds_error _
  have reached : First (fun task => ¬ Succeeds (task.text dividingSettings wordSpec))
      (tasks dividingSettings wordSpec dividingTemplate operationTemplate) wordTask :=
    ⟨[], [], rfl, fails, nofun⟩
  have defining : compileSource (dividingSettings.definitionTemplate.getD definitionSource) =
      .ok dividingTemplate := by
    have overridden : dividingSettings.definitionTemplate = some dividingSource := rfl
    rw [overridden, Option.getD_some, compileSource_dividingSource]
  have operating : compileSource (dividingSettings.operationTemplate.getD operationSource) =
      .ok operationTemplate := by
    have bundled : dividingSettings.operationTemplate = none := rfl
    rw [bundled, Option.getD_none, compileSource_operationSource]
  exact .printing defining operating reached breaks_wordTask

/-- With these settings, the interface is neither rendered nor is a failure to render it reported. -/
theorem dividingTemplate_faults :
    ¬ (Succeeds (files dividingSettings ⟨"", []⟩ wordSpec).result ∨
      RefusedWithin .render (files dividingSettings ⟨"", []⟩ wordSpec).result) := by
  have ended : (files dividingSettings ⟨"", []⟩ wordSpec).result =
      .error (.fault .divisionByZero) := files_of_breaks breaks_wordSpec
  rw [ended]
  rintro (⟨_, ⟨⟩⟩ | ⟨_, ⟨⟩, _⟩)

end ClientGen.Client
