import FlowRunner.Proofs.History
import FlowRunner.Rehearsal.Stage
import FlowRunner.Run.Attempt
import Mathlib.Order.Bounds.Basic

/-!
# The attempts of a step

Attempts are counted from zero. Every attempt starts in the state that the one before it and the
pause after that have left (`startOf`), so what attempt `n` meets depends on all attempts before
it. A step stops at the least `n` at which an attempt is final: it succeeds with a result that is
as expected, fails for good, or is the last one allowed.

* `repeated_stops`: where any repeated program stops, what it ends with and its history. The proof
  is an induction on the attempts that are left; the invariant is that the attempts from `n + 1` on
  are those of the same program started after the first pause.
* `run_stops`: the same of a step, with what makes an attempt final said of the operation's own
  outcome.
-/

namespace FlowRunner

/-- Whether the delays of a step, as far as it has any, are short enough for durations. -/
def Step.DelaysFit (step : Step) : Prop :=
  (∀ seconds ∈ step.delay, (Duration.ofSeconds? seconds).isSome) ∧
    ∀ seconds ∈ step.retryDelay, (Duration.ofSeconds? seconds).isSome

theorem Step.DelaysFit.retryWait {step : Step} (h : step.DelaysFit) :
    ∃ wait, step.retryWait? = some wait := by
  obtain ⟨hdelay, hretry⟩ := h
  unfold Step.retryWait?
  cases hr : step.retryDelay with
  | some seconds => exact Option.isSome_iff_exists.mp (hretry seconds hr)
  | none =>
    cases hd : step.delay with
    | some seconds => exact Option.isSome_iff_exists.mp (hdelay seconds hd)
    | none => exact ⟨_, rfl⟩

namespace Attempt

variable {σ α : Type} (answer : Backends σ)

/-! ## Pauses -/

/-- The exchanges of a pause: one wait, or none when there is no time to wait for. -/
def pauseHistory (wait : Duration) : List Exchange :=
  if wait.isZero then [] else [⟨.sleep wait, ()⟩]

/-- The state of the backends after a pause. -/
def paused (wait : Duration) (s : σ) : σ :=
  if wait.isZero then s else (answer (.sleep wait) s).2

theorem run_pause (wait : Duration) (next : Script α) (s : σ) :
    (pause wait next).run answer s = next.run answer (paused answer wait s) := by
  unfold pause paused
  split <;> rfl

theorem history_pause (wait : Duration) (next : Script α) (s : σ) :
    (pause wait next).history answer s =
      pauseHistory wait ++ next.history answer (paused answer wait s) := by
  unfold pause paused pauseHistory
  split <;> rfl

/-! ## Repeated attempts -/

/-- The state of the backends at the start of attempt `n`. -/
def startOf (attempt : Script (Except Failure Value)) (wait : Duration) (s : σ) : Nat → σ
  | 0 => s
  | n + 1 => startOf attempt wait (paused answer wait (attempt.run answer s).2) n

/-- Whether an outcome settles the matter: it is a success, or a failure that would only repeat. -/
def Settled : Except Failure Value → Prop
  | .ok _ => True
  | .error failure => failure.retryable = false

theorem isLeast_zero {p : Nat → Prop} (h : p 0) : IsLeast {n | p n} 0 :=
  ⟨h, fun n _ => Nat.zero_le n⟩

theorem isLeast_succ {p : Nat → Prop} {m : Nat} (h0 : ¬ p 0)
    (h : IsLeast {n | p (n + 1)} m) : IsLeast {n | p n} (m + 1) := by
  refine ⟨h.1, ?_⟩
  rintro (_ | n) hn
  · exact absurd hn h0
  · exact Nat.succ_le_succ (h.2 hn)

theorem intercalate_range_succ {β : Type} (sep : List β) (f : Nat → List β) (n : Nat) :
    sep.intercalate ((List.range (n + 2)).map f) =
      f 0 ++ (sep ++ sep.intercalate ((List.range (n + 1)).map fun i => f (i + 1))) := by
  rw [List.range_succ_eq_map, List.map_cons, List.map_map, List.range_succ_eq_map, List.map_cons,
    List.map_cons]
  simp [List.intercalate, List.intersperse, Function.comp_def]

theorem repeated_stops (attempt : Script (Except Failure Value)) (wait : Duration) (more : Nat)
    (s : σ) :
    ∃ last,
      IsLeast {n | Settled (attempt.run answer (startOf answer attempt wait s n)).1 ∨ n = more}
        last ∧
      (repeated attempt wait more).run answer s =
        attempt.run answer (startOf answer attempt wait s last) ∧
      (repeated attempt wait more).history answer s =
        (pauseHistory wait).intercalate ((List.range (last + 1)).map fun n =>
          attempt.history answer (startOf answer attempt wait s n)) := by
  induction more generalizing s with
  | zero => exact ⟨0, isLeast_zero (.inr rfl), rfl, by simp [repeated, startOf, List.intercalate]⟩
  | succ more ih =>
    simp only [repeated, Script.run_bind, Script.history_bind]
    cases houtcome : (attempt.run answer s).1 with
    | ok result =>
      refine ⟨0, isLeast_zero (.inl ?_), ?_, ?_⟩
      · rw [startOf, houtcome]
        trivial
      · rw [startOf, Script.run_done, ← houtcome]
      · simp [startOf, List.intercalate]
    | error failure =>
      dsimp only
      cases hretry : failure.retryable with
      | false =>
        refine ⟨0, isLeast_zero (.inl ?_), ?_, ?_⟩
        · rw [startOf, houtcome]
          exact hretry
        · rw [startOf, if_neg Bool.false_ne_true, Script.run_done, ← houtcome]
        · simp [startOf, List.intercalate]
      | true =>
        obtain ⟨last, hleast, hrun, hhistory⟩ := ih (paused answer wait (attempt.run answer s).2)
        refine ⟨last + 1, isLeast_succ ?_ ?_, ?_, ?_⟩
        · rintro (h | h)
          · rw [startOf, houtcome] at h
            exact Bool.false_ne_true (h.symm.trans hretry)
          · exact absurd h.symm (Nat.succ_ne_zero more)
        · simpa only [startOf, Nat.add_right_cancel_iff] using hleast
        · rw [if_pos rfl, run_pause, hrun, startOf]
        · rw [if_pos rfl, history_pause, hhistory, intercalate_range_succ]
          simp only [startOf]

/-- A property of histories that attempts and pauses have, and that is kept when one follows the
other, is one of the whole. -/
theorem repeated_history_induction (P : List Exchange → Prop) (hnil : P [])
    (happend : ∀ log later, P log → P later → P (log ++ later)) {wait : Duration}
    (hpause : P (pauseHistory wait)) {attempt : Script (Except Failure Value)}
    (hattempt : ∀ start, P (attempt.history answer start)) (more : Nat) (s : σ) :
    P ((repeated attempt wait more).history answer s) := by
  induction more generalizing s with
  | zero => exact hattempt s
  | succ more ih =>
    rw [repeated, Script.history_bind]
    refine happend _ _ (hattempt s) ?_
    cases (attempt.run answer s).1 with
    | ok result => exact hnil
    | error failure =>
      dsimp only
      split
      · rw [history_pause]
        exact happend _ _ hpause (ih _)
      · exact hnil

/-! ## The attempts of a step -/

/-- What an attempt does: the operation of the route, once. -/
def invocation (config : Config) (route : Route) (step : Step) : Script (Except Failure Value) :=
  (route.family.run config step route.action).run

/-- Whether a result is as the step expects. -/
def Accepts (step : Step) (result : Value) : Prop :=
  ∀ expected ∈ step.expected, Mismatch.find? expected result = none

theorem check_eq_ok_iff {step : Step} {result value : Value} :
    check step result = .ok value ↔ result = value ∧ Accepts step result := by
  unfold check Accepts
  cases step.expected with
  | none => simp
  | some expected =>
    cases hfind : Mismatch.find? expected result <;> simp [hfind]

theorem check_eq_error {step : Step} {result : Value} {failure : Failure}
    (h : check step result = .error failure) : ∃ m, failure = .mismatch m := by
  unfold check at h
  split at h
  · cases h
  · split at h
    · cases h
    · cases h
      exact ⟨_, rfl⟩

theorem run_once (config : Config) (route : Route) (step : Step) (s : σ) :
    (once config route step).run answer s =
      (((invocation config route step).run answer s).1.bind (check step),
        ((invocation config route step).run answer s).2) := by
  rw [once, Script.run_bind, Script.run_done]
  rfl

theorem history_once (config : Config) (route : Route) (step : Step) (s : σ) :
    (once config route step).history answer s =
      (invocation config route step).history answer s := by
  rw [once, Script.history_bind, Script.history_done, List.append_nil]
  rfl

theorem settled_bind_check {step : Step} {reply : Except Failure Value} :
    Settled (reply.bind (check step)) ↔
      (∃ result, reply = .ok result ∧ Accepts step result) ∨
        ∃ failure, reply = .error failure ∧ failure.retryable = false := by
  cases reply with
  | error failure => simp [Except.bind, Settled]
  | ok result =>
    cases hcheck : check step result with
    | ok value =>
      obtain ⟨-, haccepts⟩ := check_eq_ok_iff.mp hcheck
      simp [Except.bind, hcheck, Settled, haccepts]
    | error failure =>
      obtain ⟨m, rfl⟩ := check_eq_error hcheck
      have hrejects : ¬ Accepts step result := fun h =>
        nomatch hcheck.symm.trans (check_eq_ok_iff.mpr ⟨rfl, h⟩)
      simp [Except.bind, hcheck, Settled, Failure.retryable, hrejects]

/-- Whether attempt `n` of a step is its last one: the operation succeeds with a result that is as
expected, it fails for good, or no other attempt is allowed. -/
def Final (config : Config) (route : Route) (step : Step) (wait : Duration) (s : σ) (n : Nat) :
    Prop :=
  let start := startOf answer (once config route step) wait s n
  let reply := ((invocation config route step).run answer start).1
  (∃ result, reply = .ok result ∧ Accepts step result) ∨
    (∃ failure, reply = .error failure ∧ failure.retryable = false) ∨
    n + 1 = min (step.retry + 1) (UInt32.size - 1)

/-- A step stops at attempt `last`. -/
structure StopsAt (config : Config) (route : Route) (step : Step) (wait : Duration) (s : σ)
    (last : Nat) : Prop where
  /-- It is the first attempt that is final. -/
  least : IsLeast {n | Final answer config route step wait s n} last
  /-- The step ends as this attempt does, with its result or its failure. -/
  outcome : (run config route step wait).run answer s =
    (once config route step).run answer (startOf answer (once config route step) wait s last)
  /-- The operation was run `last + 1` times, with one pause between any two runs. -/
  history : (run config route step wait).history answer s =
    (pauseHistory wait).intercalate ((List.range (last + 1)).map fun n =>
      (invocation config route step).history answer
        (startOf answer (once config route step) wait s n))

theorem stopsAt_of_wait (config : Config) (route : Route) (step : Step) (wait : Duration) (s : σ) :
    ∃ last, StopsAt answer config route step wait s last := by
  obtain ⟨last, hleast, hrun, hhistory⟩ :=
    repeated_stops answer (once config route step) wait (allowed step - 1) s
  refine ⟨last, ?_, hrun, ?_⟩
  · have hbudget : ∀ n, n = allowed step - 1 ↔ n + 1 = min (step.retry + 1) (UInt32.size - 1) := by
      intro n
      simp only [allowed, limit, UInt32.size]
      omega
    simpa only [Final, run_once, settled_bind_check, hbudget, or_assoc] using hleast
  · simpa only [run, history_once] using hhistory

/-- A step ends as one of its attempts does. -/
theorem exists_run_eq (config : Config) (route : Route) (step : Step) (wait : Duration) (s : σ) :
    ∃ start, (run config route step wait).run answer s =
      (((invocation config route step).run answer start).1.bind (check step),
        ((invocation config route step).run answer start).2) := by
  obtain ⟨last, hlast⟩ := stopsAt_of_wait answer config route step wait s
  exact ⟨_, hlast.outcome.trans (run_once answer config route step _)⟩

theorem accepts_of_run {answer : Backends σ} {config : Config} {route : Route} {step : Step}
    {wait : Duration} {s t : σ} {result : Value}
    (h : (run config route step wait).run answer s = (.ok result, t)) : Accepts step result := by
  obtain ⟨start, hstart⟩ := exists_run_eq answer config route step wait s
  have hcheck := congrArg Prod.fst (hstart.symm.trans h)
  cases hreply : ((invocation config route step).run answer start).1 with
  | error failure =>
    rw [hreply] at hcheck
    cases hcheck
  | ok value =>
    rw [hreply] at hcheck
    obtain ⟨rfl, haccepts⟩ := check_eq_ok_iff.mp hcheck
    exact haccepts

theorem history_induction (P : List Exchange → Prop) (hnil : P [])
    (happend : ∀ log later, P log → P later → P (log ++ later)) {wait : Duration}
    (hpause : P (pauseHistory wait)) {config : Config} {route : Route} {step : Step}
    (hcall : ∀ start, P ((invocation config route step).history answer start)) (s : σ) :
    P ((run config route step wait).history answer s) := by
  refine repeated_history_induction answer P hnil happend hpause (fun start => ?_) _ s
  rw [history_once]
  exact hcall start

/-- A step whose delays fit durations is tried until the first final attempt, and ends as that one
does; pauses stand between attempts and nowhere else. -/
theorem run_stops (config : Config) (route : Route) {step : Step} (hfit : step.DelaysFit) (s : σ) :
    ∃ wait last, step.retryWait? = some wait ∧
      StopsAt answer config route step wait s last := by
  obtain ⟨wait, hwait⟩ := hfit.retryWait
  obtain ⟨last, hlast⟩ := stopsAt_of_wait answer config route step wait s
  exact ⟨wait, last, hwait, hlast⟩

/-- A step that looks three times for a file, half a second apart. -/
def patientRead : Step where
  action := "read"
  retry := 2
  delay := some (.finite ⟨false, 4503599627370496, -53, by decide⟩)
  payload := [("filename", .text "missing")]

theorem run_stops_patientRead :
    patientRead.DelaysFit ∧
      ∃ wait last, patientRead.retryWait? = some wait ∧
        StopsAt Stage.answer {} ⟨.file, "read"⟩ patientRead wait Stage.empty last := by
  have hfit : patientRead.DelaysFit := by
    refine ⟨fun seconds h => ?_, fun seconds h => nomatch h⟩
    cases h
    decide
  exact ⟨hfit, run_stops Stage.answer {} ⟨.file, "read"⟩ hfit Stage.empty⟩

example : ((run {} ⟨.file, "read"⟩ patientRead ⟨500000000⟩).history Stage.answer
    Stage.empty).length = 5 := by decide +kernel

end Attempt

end FlowRunner
