import FlowRunner.Backend.Effect

/-!
# Histories of programs

What a program does to the outside is its history: the effects that it asks for, in order, each
with the reply that it gets. Backends are any states with a rule that answers effects, so a
statement about all backends is one about all sequences of replies.

* `Script.history_bind`: the history of a program that goes on with another one.
* `Script.Ensures`: a property of the history and the value that holds whatever the backends reply,
  with `ensures_done` and `ensures_bind` to prove it along a program.
-/

namespace FlowRunner

/-- How effects are answered in a state, and the state after each answer. -/
abbrev Backends (σ : Type) := (effect : Effect) → σ → effect.Reply × σ

/-- An effect that was asked for, and its reply. -/
structure Exchange where
  effect : Effect
  reply : effect.Reply

namespace Script

variable {σ α β : Type}

/-- The exchanges of a program with backends that are in a state at its start. -/
def history (answer : Backends σ) : Script α → σ → List Exchange
  | done _, _ => []
  | ask effect next, s =>
    ⟨effect, (answer effect s).1⟩ :: (next (answer effect s).1).history answer (answer effect s).2

@[simp] theorem run_done (answer : Backends σ) (value : α) (s : σ) :
    (done value).run answer s = (value, s) := rfl

@[simp] theorem history_done (answer : Backends σ) (value : α) (s : σ) :
    (done value).history answer s = [] := rfl

theorem history_bind (answer : Backends σ) (p : Script α) (f : α → Script β) (s : σ) :
    (p.bind f).history answer s =
      p.history answer s ++ (f (p.run answer s).1).history answer (p.run answer s).2 := by
  induction p generalizing s with
  | done value => rfl
  | ask effect next ih => simp [history, run, ih]

/-! ## Properties of every run -/

/-- Whatever the backends reply, the history and the value of the program are related. -/
def Ensures (p : Script α) (post : List Exchange → α → Prop) : Prop :=
  ∀ (σ : Type) (answer : Backends σ) (s : σ), post (p.history answer s) (p.run answer s).1

theorem ensures_done {post : List Exchange → α → Prop} {value : α} (h : post [] value) :
    (done value).Ensures post := fun _ _ _ => h

theorem ensures_true (p : Script α) : p.Ensures fun _ _ => True :=
  fun _ _ _ => trivial

theorem ensures_ask {effect : Effect} {next : effect.Reply → Script α}
    {post : List Exchange → α → Prop}
    (h : ∀ reply, (next reply).Ensures fun later => post (⟨effect, reply⟩ :: later)) :
    (ask effect next).Ensures post :=
  fun σ answer _ => h _ σ answer _

theorem Ensures.mono {p : Script α} {mid post : List Exchange → α → Prop} (hp : p.Ensures mid)
    (h : ∀ log value, mid log value → post log value) : p.Ensures post :=
  fun σ answer s => h _ _ (hp σ answer s)

theorem ensures_bind {p : Script α} {f : α → Script β} {mid : List Exchange → α → Prop}
    {post : List Exchange → β → Prop} (hp : p.Ensures mid)
    (hf : ∀ log value, mid log value → (f value).Ensures fun later => post (log ++ later)) :
    (p.bind f).Ensures post := by
  intro σ answer s
  rw [history_bind, run_bind]
  exact hf _ _ (hp σ answer s) σ answer _

end Script

end FlowRunner
