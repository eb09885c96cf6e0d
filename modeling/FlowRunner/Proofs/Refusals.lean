import FlowRunner.Proofs.Attempts
import FlowRunner.Proofs.OperationFailures

/-!
# Refused steps

A step is refused when a parameter of it is missing or wrong, when its action has no place, or when
the configuration does not fit. No harm is done by then: nothing was asked for, apart from the
secret of a database. And the step is not tried again, however many attempts it is allowed
(`Attempt.refusal_early`).
-/

namespace FlowRunner

/-- Whether a failure says that a step cannot be carried out as it is. -/
def Failure.Refuses : Failure → Prop
  | .missingParameter _ => True
  | .invalidParameter _ => True
  | .routing _ => True
  | .config _ => True
  | _ => False

theorem Failure.Refuses.not_ofWork {failure : Failure} (h : failure.Refuses) :
    ¬ failure.OfWork := by
  intro hwork
  cases failure <;> first | exact False.elim h | exact False.elim hwork

theorem Failure.Refuses.retryable {failure : Failure} (h : failure.Refuses) :
    failure.retryable = false := by
  cases failure <;> first | rfl | cases h

theorem Failure.OfRefusal.refuses {failure : Failure} {family : Family} {action : String}
    (h : failure.OfRefusal family action) : failure.Refuses := by
  cases failure <;> trivial

namespace Attempt

variable {σ : Type} {answer : Backends σ}

theorem preliminary_of_refuses {config : Config} {family : Family} {step : Step} {action : String}
    {start : σ} {failure : Failure}
    (hcall : ((invocation config ⟨family, action⟩ step).run answer start).1 = .error failure)
    (hrefuses : failure.Refuses) :
    family.Preliminary ((invocation config ⟨family, action⟩ step).history answer start) := by
  rcases family.run_refusesEarly config step action σ answer start failure hcall with
    hwork | ⟨-, hlog⟩
  · exact absurd hwork hrefuses.not_ofWork
  · exact hlog

/-- After an attempt that fails for good there is no other. -/
theorem exists_stopsAt_le {config : Config} {route : Route} {step : Step} {wait : Duration} {s : σ}
    {n : Nat} {failure : Failure}
    (hcall : ((invocation config route step).run answer
      (startOf answer (once config route step) wait s n)).1 = .error failure)
    (hretry : failure.retryable = false) :
    ∃ last ≤ n, StopsAt answer config route step wait s last := by
  obtain ⟨last, hstops⟩ := stopsAt_of_wait answer config route step wait s
  have hfinal : Final answer config route step wait s n := .inr (.inl ⟨failure, hcall, hretry⟩)
  exact ⟨last, hstops.least.2 hfinal, hstops⟩

/-- A step that is refused before anything is asked for asks for nothing. -/
theorem run_of_refused {config : Config} {route : Route} {step : Step} {failure : Failure}
    (hcall : invocation config route step = .done (.error failure)) (hrefuses : failure.Refuses)
    (wait : Duration) (s : σ) :
    (run config route step wait).run answer s = (.error failure, s) ∧
      (run config route step wait).history answer s = [] := by
  -- The first attempt is final already.
  have hfirst : ((invocation config route step).run answer
      (startOf answer (once config route step) wait s 0)).1 = .error failure := by
    rw [hcall]
    rfl
  obtain ⟨last, hlast, hstops⟩ := exists_stopsAt_le hfirst hrefuses.retryable
  obtain rfl := Nat.le_zero.mp hlast
  constructor
  · rw [hstops.outcome, run_once, hcall]
    rfl
  · rw [hstops.history, hcall]
    rfl

/-- When an operation refuses a step, nothing was asked for in this call but perhaps the secret of a
database; and where the call is attempt `n` of a step, the step stops at this attempt, if it has not
stopped before. -/
theorem refusal_early {config : Config} {family : Family} {step : Step} {action : String}
    {start : σ} {failure : Failure}
    (hcall : ((invocation config ⟨family, action⟩ step).run answer start).1 = .error failure)
    (hrefuses : failure.Refuses) :
    family.Preliminary ((invocation config ⟨family, action⟩ step).history answer start) ∧
      ∀ wait s n, startOf answer (once config ⟨family, action⟩ step) wait s n = start →
        ∃ last ≤ n, StopsAt answer config ⟨family, action⟩ step wait s last := by
  refine ⟨preliminary_of_refuses hcall hrefuses, ?_⟩
  rintro wait s n rfl
  exact exists_stopsAt_le hcall hrefuses.retryable

/-- A step that counts rows, with six attempts, as a user whose secret has no password. -/
def countRows : Step where
  action := "count"
  retry := 5
  payload := [("table_name", .text "orders"), ("host_name", .text "db"),
    ("secret_name", .text "reader")]

/-- A stage that knows the secret. -/
def readerStage : Stage :=
  { Stage.empty with secrets := [("reader", [("username", .text "reader")])] }

theorem refusal_early_countRows :
    ((invocation {} ⟨.database, "count"⟩ countRows).run Stage.answer readerStage).1 =
        .error (.config "secret 'reader' has no 'password' entry") ∧
      (Failure.config "secret 'reader' has no 'password' entry").Refuses ∧
      Family.database.Preliminary
        ((invocation {} ⟨.database, "count"⟩ countRows).history Stage.answer readerStage) ∧
      ∀ wait, StopsAt Stage.answer {} ⟨.database, "count"⟩ countRows wait readerStage 0 := by
  have hcall : ((invocation {} ⟨.database, "count"⟩ countRows).run Stage.answer readerStage).1 =
      .error (.config "secret 'reader' has no 'password' entry") := by rfl
  have hrefuses : (Failure.config "secret 'reader' has no 'password' entry").Refuses := trivial
  obtain ⟨hlog, hstops⟩ := refusal_early hcall hrefuses
  refine ⟨hcall, hrefuses, hlog, fun wait => ?_⟩
  obtain ⟨last, hlast, hstopsAt⟩ := hstops wait readerStage 0 rfl
  rwa [Nat.le_zero.mp hlast] at hstopsAt

end Attempt

end FlowRunner
