import FlowRunner.Proofs.ExactNumbers
import FlowRunner.Proofs.Templates

/-!
# Texts without placeholders

Where no placeholder opens, a text stands for itself, or for a number when there is an increment in
it (`Placeholder.resolveText_of_unopened`). So a text or a null that comes out of such a text was
written just so.
-/

namespace FlowRunner

/-! ## Increments give numbers -/

theorem Number.fitsSigned_toSigned (x : Number) : Reading.FitsSigned x.toSigned := by
  rw [x.toSigned_eq_clampSigned]
  unfold Reading.FitsSigned clampSigned
  omega

namespace Increment

theorem fitsSigned_of_leading? {s : String} {n : Int} (h : leading? s = some n) :
    Reading.FitsSigned n :=
  of_decide_eq_true (Option.filter_eq_some_iff.mp h).2

theorem fitsSigned_of_base? {store : Store} {key : String} {n : Int}
    (h : base? store key = some n) : Reading.FitsSigned n := by
  unfold base? at h
  split at h
  · unfold ofValue? at h
    split at h
    · cases h
      exact Number.fitsSigned_toSigned _
    · exact fitsSigned_of_leading? h
    · cases h
  · exact fitsSigned_of_leading? h

/-- An increment gives the successor of its base, which is never too large for a number. -/
theorem next_eq_ok_iff {store : Store} {key : String} {v : Value} :
    next store key = .ok v ↔
      ∃ n, base? store key = some n ∧ n < largest ∧
        ∃ hrange : Number.InRange (n + 1), v = .number (.integer (n + 1) hrange) := by
  have hrange : ∀ {n}, base? store key = some n → n < largest → Number.InRange (n + 1) := by
    intro n hbase hlarge
    have hfits := fitsSigned_of_base? hbase
    unfold Reading.FitsSigned at hfits
    unfold largest at hlarge
    unfold Number.InRange
    omega
  have hnumber : ∀ {n} (h : Number.InRange n), Value.ofInt n = .number (.integer n h) := by
    intro n h
    rw [Value.ofInt, Number.ofInt?, dif_pos h]
  constructor
  · intro h
    unfold next at h
    split at h
    · rename_i n hbase
      split at h
      · rename_i hlarge
        cases h
        exact ⟨n, hbase, hlarge, hrange hbase hlarge, hnumber _⟩
      · cases h
    · split at h <;> cases h
  · rintro ⟨n, hbase, hlarge, hsucc, rfl⟩
    simp only [next, hbase, if_pos hlarge, hnumber hsucc]

theorem eq_number_of_next {store : Store} {key : String} {v : Value}
    (h : next store key = .ok v) : ∃ n, v = .number n := by
  obtain ⟨n, -, -, hrange, rfl⟩ := next_eq_ok_iff.mp h
  exact ⟨.integer (n + 1) hrange, rfl⟩

end Increment

/-! ## Texts -/

namespace Placeholder

theorem substitute_of_unopened {s : List Char} (h : ¬ ['<', '<'] <:+: s) (store : Store) :
    substitute store s = s := by
  induction s with
  | nil => rw [substitute]
  | cons c rest ih =>
    have hrest : ¬ ['<', '<'] <:+: rest := fun hin => h (List.infix_cons hin)
    rw [substitute_cons, ih hrest]
    rintro tail heq
    exact h (heq ▸ ⟨[], tail, rfl⟩)

theorem wholeKey?_of_unopened {s : List Char} (h : ¬ ['<', '<'] <:+: s) : wholeKey? s = none := by
  refine Option.eq_none_iff_forall_ne_some.mpr fun key hkey => ?_
  obtain ⟨rfl, -⟩ := wholeKey?_eq_some_iff.mp hkey
  exact h ⟨[], key ++ ['>', '>'], by simp [token]⟩

theorem resolveText_of_unopened {store : Store} {s : String} {v : Value}
    (h : ¬ ['<', '<'] <:+: s.toList) (hresolve : resolveText store s = .ok v) :
    v = .text s ∨ ∃ n, v = .number n := by
  unfold resolveText at hresolve
  split at hresolve
  · dsimp only at hresolve
    split at hresolve
    · rename_i hnext
      cases hresolve
      exact .inr (Increment.eq_number_of_next hnext)
    · cases hresolve
  · cases hresolve
    rw [resolvePlain, wholeKey?_of_unopened h, substitute_of_unopened h, String.ofList_toList]
    exact .inl rfl

end Placeholder

end FlowRunner
