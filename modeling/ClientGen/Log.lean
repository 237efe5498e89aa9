import ClientGen.Failure

/-!
# Log records

Computations that leave log records behind. The records of everything that ran stay, also when the
computation ends in a problem.
-/

namespace ClientGen

/-- The severity of a record. -/
inductive LogLevel where
  /-- Details of the work. -/
  | debug
  /-- Progress. -/
  | info
  /-- Something was left out or replaced. -/
  | warning
  /-- Something failed. -/
  | error
  /-- Nothing can go on. -/
  | critical
  deriving DecidableEq, Repr, Inhabited

namespace LogLevel

/-- All levels, mildest first. -/
def all : List LogLevel := [.debug, .info, .warning, .error, .critical]

/-- The rank of a level. -/
def rank : LogLevel → Nat
  | .debug => 10
  | .info => 20
  | .warning => 30
  | .error => 40
  | .critical => 50

/-- The name of a level. -/
def name : LogLevel → String
  | .debug => "DEBUG"
  | .info => "INFO"
  | .warning => "WARNING"
  | .error => "ERROR"
  | .critical => "CRITICAL"

/-- The level with a name. -/
def ofName? (text : String) : Option LogLevel := all.find? (·.name = text)

end LogLevel

/-- A log record. -/
structure LogRecord where
  /-- Its severity. -/
  level : LogLevel
  /-- Its text. -/
  message : String
  deriving DecidableEq, Repr

/-- The records and the result of a computation. -/
structure Logged (α : Type) where
  /-- The records, in order. -/
  logs : List LogRecord
  /-- The result. -/
  result : Except Problem α

namespace Logged

/-- A result without records. -/
def pure {α : Type} (a : α) : Logged α := ⟨[], .ok a⟩

/-- One computation after another; a problem ends both. -/
def bind {α β : Type} (first : Logged α) (next : α → Logged β) : Logged β :=
  match first.result with
  | .error problem => ⟨first.logs, .error problem⟩
  | .ok a => ⟨first.logs ++ (next a).logs, (next a).result⟩

instance : Monad Logged where
  pure := pure
  bind := bind

/-- Leave one record. -/
def record (level : LogLevel) (message : String) : Logged Unit := ⟨[⟨level, message⟩], .ok ()⟩

/-- A result that does not log. -/
def ofResult {α : Type} (result : Except Problem α) : Logged α := ⟨[], result⟩

/-- A computation that can end in a fault. -/
def ofFaulty {α : Type} : Except Fault α → Logged α
  | .ok a => pure a
  | .error fault => ⟨[], .error fault⟩

/-- End in a failure. -/
def fail {α : Type} (failure : Failure) : Logged α := ⟨[], .error failure⟩

/-- End in a fault. -/
def fault {α : Type} (fault : Fault) : Logged α := ⟨[], .error fault⟩

/-- Run a computation on each item in order and keep the results. -/
def forEach {α β : Type} (f : α → Logged β) : List α → Logged (List β)
  | [] => pure []
  | a :: rest => (f a).bind fun b => (forEach f rest).bind fun bs => pure (b :: bs)

@[simp] theorem logs_pure {α : Type} (a : α) : (Logged.pure a).logs = [] := rfl

@[simp] theorem result_pure {α : Type} (a : α) : (Logged.pure a).result = .ok a := rfl

@[simp] theorem pure_bind {α β : Type} (a : α) (next : α → Logged β) :
    (Logged.pure a).bind next = next a := by
  simp [bind, pure]

theorem bind_of_ok {α β : Type} {first : Logged α} {a : α} (ok : first.result = .ok a)
    (next : α → Logged β) :
    first.bind next = ⟨first.logs ++ (next a).logs, (next a).result⟩ := by
  simp [bind, ok]

theorem bind_of_error {α β : Type} {first : Logged α} {problem : Problem}
    (error : first.result = .error problem) (next : α → Logged β) :
    first.bind next = ⟨first.logs, .error problem⟩ := by
  simp [bind, error]

end Logged

end ClientGen
