import ClientGen.Console.Session
import ClientGen.Proofs.Console.Channels
import Mathlib.Data.List.Induction

/-!
# What holds at every point of a session

Whatever steps a session takes, log records have one place to appear at most, their level is that of
the manager that was in charge when this place was chosen last, standard output gets data only and
standard error diagnostics only, and a quiet manager holds back reports of progress and nothing
else.
-/

namespace ClientGen.Console

/-! ## Steps -/

/-- A step that is addressed to a person. -/
def Step.isReport : Step → Bool
  | .log .. | .info _ | .success _ | .error _ | .debug _ => true
  | _ => false

/-- A step that prints data. -/
def Step.isPrint : Step → Bool
  | .printData _ | .printJson _ | .printTable _ => true
  | _ => false

/-- The manager that a step puts in charge. -/
def Step.chosen? (terminal : Terminal) : Step → Option Manager
  | .install choice colourless quiet verbose =>
      some (.create terminal choice colourless quiet verbose)
  | .reset => some (.standard terminal)
  | _ => none

/-- A console after something was added to its standard output, and nothing else happened. -/
def Printed (before after : Console) : Prop :=
  ∃ text, after = { before with out := before.out ++ text }

variable {before after console : Console} {terminal : Terminal} {step : Step} {steps : List Step}

theorem Printed.refl (console : Console) : console.Printed console := by
  refine ⟨"", ?_⟩
  rw [String.append_empty]

theorem Printed.trans {last : Console} (first : before.Printed after)
    (second : after.Printed last) : before.Printed last := by
  obtain ⟨text, rfl⟩ := first
  obtain ⟨more, rfl⟩ := second
  exact ⟨text ++ more, by simp only [String.append_assoc]⟩

theorem printed_writeLine (text : String) (console : Console) :
    console.Printed (console.writeLine text) := by
  refine ⟨text ++ "\n", ?_⟩
  rw [writeLine, String.append_assoc]

theorem printed_writeLines (lines : List String) :
    ∀ console : Console, console.Printed (console.writeLines lines) := by
  induction lines with
  | nil => exact Printed.refl
  | cons line rest ih => exact fun console => (printed_writeLine line console).trans (ih _)

theorem printed_printTable (table : Table) (console : Console) :
    console.Printed (console.printTable table) := by
  rw [printTable]
  cases console.manager.layout with
  | json => exact printed_writeLine _ console
  | plain => exact printed_writeLines _ console
  | rich => exact printed_writeLines _ console

theorem reported_info (message : String) (console : Console) :
    console.Reported (console.info message) :=
  ⟨console.progress message, info_eq message console⟩

/-- What is addressed to a person only adds to standard error. -/
theorem reported_perform (report : step.isReport = true) (console : Console) :
    console.Reported (console.perform step) := by
  cases step with
  | log logger record => exact reported_log logger record console
  | info message => exact reported_info message console
  | success message => exact reported_info message console
  | error message => exact reported_reportLine _ console
  | debug message => exact reported_debug message console
  | _ => cases report

/-- Data only adds to standard output. -/
theorem printed_perform (print : step.isPrint = true) (console : Console) :
    console.Printed (console.perform step) := by
  cases step with
  | printData text => exact printed_writeLine text console
  | printJson value => exact printed_writeLine _ console
  | printTable table => exact printed_printTable table console
  | _ => cases print

/-- Consoles that differ in what was written at most. -/
structure SameRoles (before after : Console) : Prop where
  terminal : after.terminal = before.terminal
  installed : after.installed = before.installed
  handlers : after.handlers = before.handlers
  level : after.level = before.level

theorem Reported.sameRoles (reported : before.Reported after) : SameRoles before after := by
  obtain ⟨text, rfl⟩ := reported
  exact ⟨rfl, rfl, rfl, rfl⟩

theorem Printed.sameRoles (printed : before.Printed after) : SameRoles before after := by
  obtain ⟨text, rfl⟩ := printed
  exact ⟨rfl, rfl, rfl, rfl⟩

/-- A step that writes changes nobody's role. -/
theorem sameRoles_perform (writes : (step.isReport || step.isPrint) = true) (console : Console) :
    SameRoles console (console.perform step) := by
  rcases Bool.or_eq_true_iff.mp writes with report | print
  · exact (reported_perform report console).sameRoles
  · exact (printed_perform print console).sameRoles

theorem terminal_perform (console : Console) (step : Step) :
    (console.perform step).terminal = console.terminal := by
  cases step with
  | install | reset | installHandler => rfl
  | _ => exact SameRoles.terminal (sameRoles_perform rfl console)

theorem manager_eq_of_sameRoles (same : SameRoles before after) :
    after.manager = before.manager := by
  rw [manager, manager, same.installed, same.terminal]

/-- The manager in charge is the one that the step puts in charge, if it does so. -/
theorem manager_perform (console : Console) (step : Step) :
    (console.perform step).manager = (step.chosen? console.terminal).getD console.manager := by
  cases step with
  | install | reset | installHandler => rfl
  | _ => exact manager_eq_of_sameRoles (sameRoles_perform rfl console)

/-- Only one kind of step changes where log records appear. -/
theorem recording_perform (other : step ≠ .installHandler) (console : Console) :
    (console.perform step).handlers = console.handlers ∧
      (console.perform step).level = console.level := by
  cases step with
  | install | reset => exact ⟨rfl, rfl⟩
  | installHandler => exact absurd rfl other
  | _ =>
      exact ⟨SameRoles.handlers (sameRoles_perform rfl console),
        SameRoles.level (sameRoles_perform rfl console)⟩

theorem handlers_dropHandlers (console : Console) : console.dropHandlers.handlers = [] := by
  have dropped (handlers : List Manager) : handlers.foldl List.erase handlers = [] := by
    induction handlers with
    | nil => rfl
    | cons first rest ih => rw [List.foldl_cons, List.erase_cons_head, ih]
  exact dropped console.handlers

/-- The manager in charge becomes the only one on whose standard error log records appear. -/
theorem recording_installHandler (console : Console) :
    (console.perform .installHandler).handlers = [console.manager] ∧
      (console.perform .installHandler).level =
        some (if console.manager.isVerbose then .debug else .warning) := by
  refine ⟨?_, rfl⟩
  rw [perform, installHandler, handlers_dropHandlers, List.nil_append]

/-! ## Sessions -/

theorem session_append (terminal : Terminal) (steps later : List Step) :
    session terminal (steps ++ later) = later.foldl perform (session terminal steps) :=
  List.foldl_append

theorem session_concat (terminal : Terminal) (steps : List Step) (step : Step) :
    session terminal (steps ++ [step]) = (session terminal steps).perform step :=
  session_append terminal steps [step]

theorem terminal_session (terminal : Terminal) (steps : List Step) :
    (session terminal steps).terminal = terminal := by
  induction steps using List.reverseRecOn with
  | nil => rfl
  | append_singleton steps step ih => rw [session_concat, terminal_perform, ih]

/-- The manager that the last step of its kind has put in charge; the standard one at first. -/
def lastChosen (terminal : Terminal) (steps : List Step) : Manager :=
  (steps.reverse.findSome? (Step.chosen? terminal)).getD (.standard terminal)

theorem manager_session (terminal : Terminal) (steps : List Step) :
    (session terminal steps).manager = lastChosen terminal steps := by
  induction steps using List.reverseRecOn with
  | nil => rfl
  | append_singleton steps step ih =>
      rw [session_concat, manager_perform, terminal_session, ih, lastChosen, lastChosen,
        List.reverse_append]
      cases found : step.chosen? terminal <;> simp [found]

/-- Where log records appear stays as it is until it is chosen again. -/
theorem recording_foldl {later : List Step} (others : .installHandler ∉ later) :
    ∀ console : Console, (later.foldl perform console).handlers = console.handlers ∧
      (later.foldl perform console).level = console.level := by
  induction later with
  | nil => exact fun _ => ⟨rfl, rfl⟩
  | cons step rest ih =>
      intro console
      rw [List.mem_cons, not_or] at others
      have here := recording_perform (Ne.symm others.1) console
      have there := ih others.2 (console.perform step)
      exact ⟨there.1.trans here.1, there.2.trans here.2⟩

/-- A session in which it was never chosen where log records appear. -/
theorem recording_of_notMem (never : .installHandler ∉ steps) :
    (session terminal steps).handlers = [] ∧ (session terminal steps).level = none :=
  recording_foldl never (.initial terminal)

/-- A session in which it was chosen somewhere for the last time where log records appear. -/
theorem recording_of_eq {earlier later : List Step}
    (steps_eq : steps = earlier ++ .installHandler :: later) (last : .installHandler ∉ later) :
    (session terminal steps).handlers = [lastChosen terminal earlier] ∧
      (session terminal steps).level =
        some (if (lastChosen terminal earlier).isVerbose then .debug else .warning) := by
  rw [steps_eq, session_append, List.foldl_cons, ← manager_session]
  have chosen := recording_installHandler (session terminal earlier)
  have kept := recording_foldl last ((session terminal earlier).perform .installHandler)
  exact ⟨kept.1.trans chosen.1, kept.2.trans chosen.2⟩

/-- A step of a list has a last place in it. -/
theorem exists_last (member : step ∈ steps) :
    ∃ earlier later, steps = earlier ++ step :: later ∧ step ∉ later := by
  obtain ⟨later, earlier, reversed, last⟩ :=
    List.eq_append_cons_of_mem (List.mem_reverse.mpr member)
  refine ⟨earlier.reverse, later.reverse, ?_, fun inside => last (List.mem_reverse.mp inside)⟩
  rw [← List.reverse_reverse steps, reversed]
  simp

/-! ## What is written -/

theorem err_error (message : String) (console : Console) :
    (console.error message).err = console.err ++
      ((if console.manager.isColourless then "Error: " ++ message
        else displayed console.terminal ("Error: " ++ message)) ++ "\n") := by
  rw [error, diagnose, reportLine, String.append_assoc]

theorem err_log {handler : Manager} (alone : console.handlers = [handler]) {level : LogLevel}
    (set : console.level = some level) {logger : String} (own : isOwnLogger logger = true)
    {record : LogRecord} (severe : level.rank ≤ record.level.rank) :
    (console.log logger record).err =
      console.err ++ (recordText console.terminal record ++ "\n") := by
  have admitted : console.admits record = true := by rw [admits, set]; exact decide_eq_true severe
  rw [log, own, admitted, alone, Bool.and_self, if_pos rfl, List.foldl_cons, List.foldl_nil,
    reportLine, String.append_assoc]

/-- What holds after the steps of a session, and of each step that may come next. -/
structure Orderly (terminal : Terminal) (steps : List Step) : Prop where
  /-- Log records appear once at most. -/
  single : (session terminal steps).handlers.length ≤ 1
  /-- They appear once exactly if it was ever chosen where. -/
  present : (session terminal steps).handlers.length = 1 ↔ .installHandler ∈ steps
  /-- No level was set before that. -/
  unset : .installHandler ∉ steps → (session terminal steps).level = none
  /-- The level is that of the manager in charge when it was chosen last, whatever came later. -/
  level : ∀ earlier later, steps = earlier ++ .installHandler :: later →
    .installHandler ∉ later →
    (session terminal steps).level =
      some (if (lastChosen terminal earlier).isVerbose then .debug else .warning)
  /-- The manager in charge is the one that was put in charge last. -/
  manager : (session terminal steps).manager = lastChosen terminal steps
  /-- Nothing that is addressed to a person reaches standard output. -/
  reports : ∀ step : Step, step.isReport = true →
    (session terminal (steps ++ [step])).out = (session terminal steps).out
  /-- No data reaches standard error. -/
  prints : ∀ step : Step, step.isPrint = true →
    (session terminal (steps ++ [step])).err = (session terminal steps).err
  /-- Steps that neither report nor print write nothing. -/
  silent : ∀ step : Step, step.isReport = false → step.isPrint = false →
    (session terminal (steps ++ [step])).out = (session terminal steps).out ∧
      (session terminal (steps ++ [step])).err = (session terminal steps).err
  /-- A quiet manager holds back progress. -/
  quiet : (lastChosen terminal steps).isQuiet = true → ∀ message,
    session terminal (steps ++ [.info message]) = session terminal steps ∧
      session terminal (steps ++ [.success message]) = session terminal steps
  /-- No manager holds back a failure. -/
  failures : ∀ message, (session terminal (steps ++ [.error message])).err =
    (session terminal steps).err ++
      ((if (lastChosen terminal steps).isColourless then "Error: " ++ message
        else displayed terminal ("Error: " ++ message)) ++ "\n")
  /-- Once it was chosen where log records appear, no manager holds back a severe one. -/
  records : .installHandler ∈ steps → ∀ logger record, isOwnLogger logger = true →
    LogLevel.warning.rank ≤ record.level.rank →
    (session terminal (steps ++ [.log logger record])).err =
      (session terminal steps).err ++ (recordText terminal record ++ "\n")

/-- Every session is orderly at every point. -/
theorem orderly_session (terminal : Terminal) (steps : List Step) : Orderly terminal steps := by
  have managed := manager_session terminal steps
  have shown := terminal_session terminal steps
  refine
    { single := ?_
      present := ?_
      unset := fun never => (recording_of_notMem never).2
      level := fun earlier later steps_eq last => (recording_of_eq steps_eq last).2
      manager := managed
      reports := fun step report => ?_
      prints := fun step print => ?_
      silent := fun step noReport noPrint => ?_
      quiet := fun isQuiet message => ?_
      failures := fun message => ?_
      records := fun chosen logger record own severe => ?_ }
  · by_cases chosen : .installHandler ∈ steps
    · obtain ⟨earlier, later, steps_eq, last⟩ := exists_last chosen
      rw [(recording_of_eq steps_eq last).1]
      exact Nat.le_refl 1
    · rw [(recording_of_notMem chosen).1]
      exact Nat.zero_le 1
  · constructor
    · intro one
      by_contra never
      rw [(recording_of_notMem never).1] at one
      cases one
    · intro chosen
      obtain ⟨earlier, later, steps_eq, last⟩ := exists_last chosen
      rw [(recording_of_eq steps_eq last).1]
      rfl
  · rw [session_concat]
    obtain ⟨text, reported⟩ := reported_perform report (session terminal steps)
    rw [reported]
    rfl
  · rw [session_concat]
    obtain ⟨text, printed⟩ := printed_perform print (session terminal steps)
    rw [printed]
  · rw [session_concat]
    cases step with
    | install | reset | installHandler => exact ⟨rfl, rfl⟩
    | printData | printJson | printTable => cases noPrint
    | _ => cases noReport
  · have held : (session terminal steps).info message = session terminal steps := by
      rw [info, managed, if_pos isQuiet]
    rw [session_concat, session_concat]
    exact ⟨held, held⟩
  · rw [session_concat, perform, err_error, managed, shown]
  · obtain ⟨earlier, later, steps_eq, last⟩ := exists_last chosen
    obtain ⟨alone, set⟩ : (session terminal steps).handlers = [lastChosen terminal earlier] ∧ _ :=
      recording_of_eq steps_eq last
    have enough : (if (lastChosen terminal earlier).isVerbose then LogLevel.debug
        else .warning).rank ≤ record.level.rank := by
      split
      · exact Nat.le_trans (by decide) severe
      · exact severe
    rw [session_concat, perform, err_log alone set own enough, shown]

/-- A manager that is taken out again leaves the level behind that it had chosen. -/
example (terminal : Terminal) :
    (session terminal [.install none false false true, .installHandler, .reset]).level =
      some .debug := rfl

end ClientGen.Console
