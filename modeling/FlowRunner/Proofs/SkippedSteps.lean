import FlowRunner.Proofs.ControlFields

/-!
# Skipped steps

Whether a step is skipped is decided from one member, before the others are resolved. The step that
is read from all of them agrees with this (`Step.skip_agrees`): the lenient test and the strict
reading differ only for a value that is no flag, and then there is no step to be read.
-/

namespace FlowRunner.Step

/-- What is read as a flag counts as that flag. -/
theorem flag?_getD_of_readFlag {v : Value} {b : Bool} (h : readFlag v = .ok b) :
    v.flag?.getD false = b := by
  unfold readFlag at h
  split at h
  · rename_i flag hflag
    cases h
    rw [hflag, Option.getD_some]
  · cases h

theorem skipRequested_of_ofRawWith {store : Store} {raw : RawStep} {step : Step}
    (hkeys : Members.Distinct raw) (h : ofRawWith store raw = .ok step) :
    skipRequested store raw = .ok step.skip := by
  rcases Control.skip.of_ofRawWith hkeys h with ⟨hget, hskip⟩ | ⟨v, w, hget, hresolve, hread⟩
  · have hnone : Members.get? "skip_step" raw = none := hget
    have hdefault : step.skip = false := hskip
    simp only [skipRequested, hnone, hdefault]
  · have hsome : Members.get? "skip_step" raw = some v := hget
    have hflag : w.flag?.getD false = step.skip := flag?_getD_of_readFlag hread
    simp only [skipRequested, hsome, hresolve, Except.map, hflag]

/-- A skip test that fails is a member that does not resolve, so the members together do not resolve
either. -/
theorem exists_error_of_skipRequested {store : Store} {raw : RawStep} {e : ResolveError}
    (h : skipRequested store raw = .error e) :
    ∃ e', Placeholder.resolveMembers store raw = .error e' := by
  unfold skipRequested at h
  split at h
  · rename_i v hget
    have hfails : Placeholder.resolve store v = .error e := Except.map_eq_error_iff.mp h
    cases hmembers : Placeholder.resolveMembers store raw with
    | error e' => exact ⟨e', rfl⟩
    | ok members =>
      obtain ⟨w, hresolves, -⟩ := Placeholder.get?_of_resolveMembers hmembers hget
      cases hfails.symm.trans hresolves
  · cases h

theorem ofRawWith_of_resolveMembers_error {store : Store} {raw : RawStep} {e : ResolveError}
    (h : Placeholder.resolveMembers store raw = .error e) : ofRawWith store raw = .error e := by
  rw [ofRawWith, h]
  rfl

/-- A step that can be read is skipped as the skip test said beforehand; where the test fails the
step cannot be read, because not all of it resolves. -/
theorem skip_agrees (store : Store) {raw : RawStep} (hkeys : Members.Distinct raw) :
    (∀ step, ofRawWith store raw = .ok step → skipRequested store raw = .ok step.skip) ∧
      ∀ e, skipRequested store raw = .error e →
        ∃ e', Placeholder.resolveMembers store raw = .error e' ∧
          ofRawWith store raw = .error e' := by
  refine ⟨fun step hstep => skipRequested_of_ofRawWith hkeys hstep, fun e he => ?_⟩
  obtain ⟨e', hmembers⟩ := exists_error_of_skipRequested he
  exact ⟨e', hmembers, ofRawWith_of_resolveMembers_error hmembers⟩

/-- A step whose flag comes from a parameter, behind a retry count that is an increment. -/
def quietRead : RawStep :=
  [("action", .text "read"), ("retry", .text "increment(tries)"), ("skip_step", .text "<<quiet>>")]

/-- A step whose flag is an increment of something that is no number. -/
def countedRead : RawStep :=
  [("action", .text "read"), ("skip_step", .text "increment(quiet)")]

/-- Parameters in which the flag is a text. -/
def quietStore : Store :=
  .ofPairs [("tries", .ofInt 2), ("quiet", .text " TRUE")]

theorem skip_agrees_quiet :
    Members.Distinct quietRead ∧ Members.Distinct countedRead ∧
      skipRequested quietStore quietRead = .ok true ∧
      (∃ step, ofRawWith quietStore quietRead = .ok step ∧ step.skip = true) ∧
      ∃ e, ofRawWith quietStore countedRead = .error e := by
  have hquiet : Members.Distinct quietRead := by decide
  have hcounted : Members.Distinct countedRead := by decide
  have hskip : skipRequested quietStore quietRead = .ok true := by rfl
  refine ⟨hquiet, hcounted, hskip, ?_, ?_⟩
  · have hreads : (ofRawWith quietStore quietRead).isOk = true := by decide +kernel
    obtain ⟨step, hstep⟩ := Except.exists_eq_ok_of_isOk hreads
    have hagrees := (skip_agrees quietStore hquiet).1 step hstep
    exact ⟨step, hstep, Except.ok.inj (hagrees.symm.trans hskip)⟩
  · have hfails : skipRequested quietStore countedRead =
        .error (.noIncrement "quiet" " TRUE") := by rfl
    obtain ⟨e, -, he⟩ := (skip_agrees quietStore hcounted).2 _ hfails
    exact ⟨e, he⟩

end FlowRunner.Step
