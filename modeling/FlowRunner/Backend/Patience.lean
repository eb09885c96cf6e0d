import FlowRunner.Duration

/-!
# Patience

How long a program goes on waiting for one item after another: for some time, which every item uses
up as much of as it took to come. Items may come at the same moment, but not without end: while no
time passes, the number of those at hand goes down. So a program that waits as long as it has
patience comes to an end (`Patience.measure_after_lt`).
-/

namespace FlowRunner

/-- How long a program goes on waiting. -/
structure Patience where
  /-- The time that is left. -/
  time : Duration
  /-- How many items can yet come at this moment; nothing while that is not known. -/
  atHand : Option Nat
  deriving DecidableEq, Repr

namespace Patience

/-- The patience of a program that starts to wait. -/
def start (time : Duration) : Patience := ⟨time, none⟩

/-- Whether an item can come after some time, with so many more at hand then: it is in time, and if
no time passes, it is one of those that were at hand. -/
def Allows (left : Patience) (spent : Duration) (atHand : Nat) : Prop :=
  spent.nanos ≤ left.time.nanos ∧ (spent.nanos = 0 → ∀ n ∈ left.atHand, atHand < n)

instance (left : Patience) (spent : Duration) (atHand : Nat) :
    Decidable (left.Allows spent atHand) :=
  inferInstanceAs (Decidable (_ ∧ _))

/-- The patience that is left after an item. -/
def after (left : Patience) (spent : Duration) (atHand : Nat) : Patience :=
  ⟨left.time.minus spent, some atHand⟩

/-- The measure of patience: first the time, then whether it is known what is at hand, then how much
that is. -/
def measure (left : Patience) : Nat × Nat × Nat :=
  match left.atHand with
  | none => (left.time.nanos, 1, 0)
  | some n => (left.time.nanos, 0, n)

/-- Every item leaves less patience. -/
theorem measure_after_lt {left : Patience} {spent : Duration} {atHand : Nat}
    (h : left.Allows spent atHand) :
    Prod.Lex (· < ·) (Prod.Lex (· < ·) (· < ·)) (left.after spent atHand).measure left.measure := by
  obtain ⟨time, known⟩ := left
  obtain ⟨htime, hatHand⟩ := h
  dsimp only at htime hatHand
  rcases Nat.eq_zero_or_pos spent.nanos with hspent | hspent
  -- Without time passing, less is at hand.
  · have hsame : (time.minus spent).nanos = time.nanos := by simp [Duration.minus, hspent]
    cases known with
    | none =>
      rw [after, measure, measure, hsame]
      exact Prod.Lex.right _ (Prod.Lex.left _ _ Nat.zero_lt_one)
    | some n =>
      rw [after, measure, measure, hsame]
      exact Prod.Lex.right _ (Prod.Lex.right _ (hatHand hspent n rfl))
  · have hless : (time.minus spent).nanos < time.nanos := by
      rw [Duration.minus]
      dsimp only
      omega
    cases known with
    | none => exact Prod.Lex.left _ _ hless
    | some n => exact Prod.Lex.left _ _ hless

/-- Induction on what is left after each item. -/
@[elab_as_elim]
theorem induction {motive : Patience → Prop}
    (step : ∀ left, (∀ spent atHand, left.Allows spent atHand →
      motive (left.after spent atHand)) → motive left) (left : Patience) : motive left :=
  step left fun spent atHand _ => induction step (left.after spent atHand)
termination_by left.measure
decreasing_by exact measure_after_lt ‹_›

end Patience

end FlowRunner
