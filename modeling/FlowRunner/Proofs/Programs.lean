import FlowRunner.Proofs.History
import FlowRunner.Run.Program

/-!
# What programs ensure

The rules of `Script.Ensures` for programs that may fail: what a program ensures is proved call by
call, once for the reply that goes on and once for the one that ends the program.
-/

namespace FlowRunner

theorem Script.ensures_of (effect : Effect) :
    (Script.of effect).Ensures fun log reply => log = [⟨effect, reply⟩] :=
  fun _ _ _ => rfl

namespace Program

variable {α β : Type} {mid : List Exchange → Except Failure α → Prop}
  {post : List Exchange → Except Failure β → Prop}

theorem ensures_bind {p : Program α} {f : α → Program β} (hp : p.run.Ensures mid)
    (hok : ∀ log value, mid log (.ok value) → (f value).run.Ensures fun later => post (log ++ later))
    (herror : ∀ log failure, mid log (.error failure) → post log (.error failure)) :
    (p >>= f).run.Ensures post := by
  refine Script.ensures_bind hp fun log outcome houtcome => ?_
  cases outcome with
  | ok value => exact hok log value houtcome
  | error failure =>
    refine Script.ensures_done ?_
    rw [List.append_nil]
    exact herror log failure houtcome

/-- What is known before anything is asked for decides whether the program goes on. -/
theorem ensures_mk_bind {outcome : Except Failure α} {f : α → Program β}
    (hok : ∀ value, outcome = .ok value → (f value).run.Ensures post)
    (herror : ∀ failure, outcome = .error failure → post [] (.error failure)) :
    ((ExceptT.mk (.done outcome) : Program α) >>= f).run.Ensures post := by
  cases outcome with
  | ok value => exact hok value rfl
  | error failure => exact Script.ensures_done (herror failure rfl)

theorem ensures_backend_bind {p : Script (Except BackendError α)} {f : α → Program β}
    {asked : List Exchange → Except BackendError α → Prop} (hp : p.Ensures asked)
    (hok : ∀ log value, asked log (.ok value) →
      (f value).run.Ensures fun later => post (log ++ later))
    (herror : ∀ log e, asked log (.error e) → post log (.error (.backend e))) :
    (backend p >>= f).run.Ensures post := by
  have hbackend : (backend p).run.Ensures fun log outcome =>
      (∃ value, outcome = .ok value ∧ asked log (.ok value)) ∨
        ∃ e, outcome = .error (.backend e) ∧ asked log (.error e) := by
    refine Script.ensures_bind hp fun log reply hreply => Script.ensures_done ?_
    rw [List.append_nil]
    cases reply with
    | ok value => exact .inl ⟨value, rfl, hreply⟩
    | error e => exact .inr ⟨e, rfl, hreply⟩
  refine ensures_bind hbackend ?_ ?_
  · rintro log value (⟨value', hvalue, hasked⟩ | ⟨e, he, -⟩)
    · cases hvalue
      exact hok log value hasked
    · cases he
  · rintro log failure (⟨value, hvalue, -⟩ | ⟨e, he, hasked⟩)
    · cases hvalue
    · cases he
      exact herror log e hasked

/-- What a call asks for does not depend on what is made of its reply. -/
theorem ensures_backend_map (P : List Exchange → Prop) {p : Script (Except BackendError α)}
    {f : α → β} (hp : p.Ensures fun log _ => P log) :
    (backend p >>= fun value => pure (f value)).run.Ensures fun log _ => P log := by
  refine ensures_backend_bind hp (fun log value hlog => ?_) fun _ _ hlog => hlog
  refine Script.ensures_done ?_
  rwa [List.append_nil]

theorem ensures_attempt_bind {effect : Effect} {f : effect.Reply → Program β}
    (h : ∀ reply, (f reply).run.Ensures fun later => post (⟨effect, reply⟩ :: later)) :
    (attempt effect >>= f).run.Ensures post := by
  have hattempt : (attempt effect).run.Ensures fun log outcome =>
      ∃ reply, log = [⟨effect, reply⟩] ∧ outcome = .ok reply :=
    fun _ _ _ => ⟨_, rfl, rfl⟩
  refine ensures_bind hattempt ?_ ?_
  · rintro log value ⟨reply, rfl, hreply⟩
    cases hreply
    exact h _
  · rintro log failure ⟨reply, -, hreply⟩
    cases hreply

theorem need_bind_of_some (failure : Failure) {value : Option α} {a : α} (h : value = some a)
    (f : α → Program β) : (need value failure >>= f) = f a := by
  rw [h]
  rfl

theorem need_bind_of_none (failure : Failure) {value : Option α} (h : value = none)
    (f : α → Program β) : (need value failure >>= f) = fail failure := by
  rw [h]
  rfl

theorem ensures_required_bind {step : Step} {key : String} {f : String → Program β}
    (h : ∀ text, step.text? key = some text → (f text).run.Ensures post)
    (hmissing : step.text? key = none → post [] (.error (.missingParameter key))) :
    (required step key >>= f).run.Ensures post := by
  unfold required
  cases htext : step.text? key with
  | some text =>
    rw [need_bind_of_some _ rfl]
    exact h text htext
  | none =>
    rw [need_bind_of_none _ rfl]
    exact Script.ensures_done (hmissing htext)

end Program

end FlowRunner
