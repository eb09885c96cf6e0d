import FlowRunner.Proofs.ControlFields
import FlowRunner.Proofs.ExactNumbers
import FlowRunner.Proofs.Passage
import FlowRunner.Proofs.References
import FlowRunner.Rehearsal.Stage
import Mathlib.Tactic.MkIffOfInductiveProp

/-!
# Delays that are too long

A delay is read as a float, and the wait for it is the nearest whole number of nanoseconds; what is
not positive or not finite is no time. The exception is a number of `2 ^ 64` seconds or more, for
which there is no duration (`Duration.ofSeconds?_spec`).

A step with such a delay is read like any other one. Where it asks for the wait, there is none, and
that is the only way in which a step aborts a run (`Step.waits_spec`). The delay between attempts is
asked for before the first attempt, so that it aborts the run of a step that is tried only once
(`Step.overlong_retry_delay_aborts`).
-/

namespace FlowRunner

/-- The seconds that are waited for: what is not positive or not finite is no time. -/
def Real64.awaited : Real64 → ℚ
  | .finite x => max x.value 0
  | _ => 0

/-! ## Durations -/

namespace Binary64

theorem ratio_eq (x : Binary64) : (x.ratio.1 : ℚ) / x.ratio.2 = x.magnitude := by
  unfold ratio magnitude
  rw [Nat.shiftLeft_eq, Nat.shiftLeft_eq, one_mul]
  push_cast
  rw [mul_div_assoc, ← zpow_natCast, ← zpow_natCast, ← zpow_sub₀ two_ne_zero]
  congr 2
  omega

theorem negative_or_isZero_iff (x : Binary64) :
    (x.negative || x.isZero) = true ↔ x.value ≤ 0 := by
  cases hsign : x.negative with
  | true =>
    have hvalue : x.value = -x.magnitude := if_pos hsign
    rw [hvalue]
    exact iff_of_true rfl (neg_nonpos.mpr x.magnitude_nonneg)
  | false =>
    have hvalue : x.value = x.magnitude := if_neg (by simp [hsign])
    have hnonneg : 0 ≤ x.value := hvalue ▸ x.magnitude_nonneg
    rw [Bool.false_or, isZero_iff]
    exact ⟨le_of_eq, fun hnonpos => le_antisymm hnonpos hnonneg⟩

end Binary64

/-- Rounding a quotient moves it by half a unit at most. -/
theorem roundQuotient_nearest (n : Nat) {d : Nat} (hd : 0 < d) :
    |(roundQuotient n d : ℚ) - n / d| ≤ 1 / 2 := by
  have hpos : (0 : ℚ) < d := Nat.cast_pos.mpr hd
  have hsplit : (n : ℚ) / d = (n / d : ℕ) + (n % d : ℕ) / d := by
    rw [div_eq_iff hpos.ne', add_mul, div_mul_cancel₀ _ hpos.ne']
    exact_mod_cast (Nat.div_add_mod' n d).symm
  have hrest : (0 : ℚ) ≤ (n % d : ℕ) / d := by positivity
  rw [hsplit, abs_le]
  unfold roundQuotient
  dsimp only
  split
  · have hhalf : ((n % d : ℕ) : ℚ) / d ≤ 1 / 2 := by
      rw [div_le_div_iff₀ hpos two_pos]
      exact_mod_cast (by omega : n % d * 2 ≤ 1 * d)
    constructor <;> linarith
  · have hhalf : 1 / 2 ≤ ((n % d : ℕ) : ℚ) / d := by
      rw [div_le_div_iff₀ two_pos hpos]
      exact_mod_cast (by omega : 1 * d ≤ n % d * 2)
    have hunit : ((n % d : ℕ) : ℚ) / d ≤ 1 := by
      rw [div_le_one hpos]
      exact_mod_cast (Nat.mod_lt n hd).le
    push_cast
    constructor <;> linarith

namespace Duration

/-- A duration that is as near to a number of seconds as whole nanoseconds can be. -/
def Nearest (time : Duration) (seconds : ℚ) : Prop :=
  |(time.nanos : ℚ) - seconds * 10 ^ 9| ≤ 1 / 2

/-- The nearest duration to a number of seconds, unless it is too long for one. -/
structure NearestIfShort (seconds : ℚ) (time? : Option Duration) : Prop where
  long : time? = none ↔ 2 ^ 64 ≤ seconds
  nearest : ∀ time, time? = some time → time.Nearest seconds

theorem nearestIfShort_zero : NearestIfShort 0 (some zero) := by
  refine ⟨iff_of_false nofun (by norm_num), ?_⟩
  rintro time ⟨⟩
  simp [Nearest, zero]

theorem ofSeconds?_of_pos {x : Binary64} (hpos : 0 < x.value) :
    NearestIfShort x.value (ofSeconds? (.finite x)) := by
  have hsign : ¬ (x.negative || x.isZero) = true := by
    rw [x.negative_or_isZero_iff]
    exact not_le.mpr hpos
  have hshort : Reading.fits 64 x.floorMagnitude = true ↔ x.value < 2 ^ 64 := by
    unfold Reading.fits
    rw [decide_eq_true_iff, x.floorMagnitude_lt_iff, abs_of_pos hpos, Nat.one_shiftLeft]
    push_cast
    rfl
  have hratio : ((x.ratio.1 * 1000000000 : ℕ) : ℚ) / x.ratio.2 = x.value * 10 ^ 9 := by
    rw [← abs_of_pos hpos, x.abs_value, ← x.ratio_eq]
    push_cast
    ring
  have hdenominator : 0 < x.ratio.2 := by
    simp [Binary64.ratio, Nat.one_shiftLeft]
  unfold ofSeconds?
  dsimp only
  rw [if_neg hsign]
  by_cases hfits : x.value < 2 ^ 64
  · rw [hshort.mpr hfits, if_neg (by decide)]
    refine ⟨iff_of_false nofun (not_le.mpr hfits), ?_⟩
    rintro time ⟨⟩
    rw [Nearest, ← hratio]
    exact roundQuotient_nearest _ hdenominator
  · rw [Bool.eq_false_iff.mpr (mt hshort.mp hfits), if_pos (by decide)]
    exact ⟨iff_of_true rfl (not_lt.mp hfits), nofun⟩

theorem ofSeconds?_spec (seconds : Real64) :
    NearestIfShort seconds.awaited (ofSeconds? seconds) := by
  cases seconds with
  | finite x =>
    rcases le_or_gt x.value 0 with hnonpos | hpos
    · have hzero : ofSeconds? (.finite x) = some zero :=
        if_pos (x.negative_or_isZero_iff.mpr hnonpos)
      rw [hzero, Real64.awaited, max_eq_right hnonpos]
      exact nearestIfShort_zero
    · rw [Real64.awaited, max_eq_left hpos.le]
      exact ofSeconds?_of_pos hpos
  | infinite negative => exact nearestIfShort_zero
  | undefined => exact nearestIfShort_zero

end Duration

/-! ## The delays of a step -/

namespace Step

/-- The delay that a resolved step has under a key: a number, or a text for one. -/
def Asks (raw : RawStep) (key : String) (seconds : Real64) : Prop :=
  ∃ v, Members.get? key raw = some v ∧ readDelay v = .ok (some seconds)

/-- The delay between attempts: one of their own or, without that, the delay after the step. -/
@[mk_iff]
inductive AsksBetween (raw : RawStep) : Real64 → Prop
  | own {seconds : Real64} (h : Asks raw "retry_delay" seconds) : AsksBetween raw seconds
  | shared {seconds : Real64} (hnone : ∀ own, ¬ Asks raw "retry_delay" own)
    (h : Asks raw "delay" seconds) : AsksBetween raw seconds

/-- A wait, if there is one that is short enough: for the delay that is asked for or, without one,
for no time. -/
structure Waits (asks : Real64 → Prop) (wait? : Option Duration) : Prop where
  asked : ∀ seconds, asks seconds → Duration.NearestIfShort seconds.awaited wait?
  idle : (∀ seconds, ¬ asks seconds) → wait? = some .zero

theorem Waits.exists_long {asks : Real64 → Prop} (h : Waits asks none) :
    ∃ seconds, asks seconds ∧ 2 ^ 64 ≤ seconds.awaited := by
  by_contra hshort
  have hnone : ∀ seconds, ¬ asks seconds := fun seconds hasks =>
    hshort ⟨seconds, hasks, (h.asked seconds hasks).long.mp rfl⟩
  exact nomatch h.idle hnone

def waitFor? (delay : Option Real64) : Option Duration :=
  match delay with
  | some seconds => Duration.ofSeconds? seconds
  | none => some .zero

theorem postDelay?_eq (step : Step) : step.postDelay? = waitFor? step.delay :=
  rfl

theorem retryWait?_eq (step : Step) :
    step.retryWait? = waitFor? (step.retryDelay <|> step.delay) :=
  rfl

theorem waits_waitFor? {delay : Option Real64} {asks : Real64 → Prop}
    (h : ∀ seconds, delay = some seconds ↔ asks seconds) : Waits asks (waitFor? delay) := by
  constructor
  · intro seconds hasks
    rw [(h seconds).mpr hasks]
    exact Duration.ofSeconds?_spec seconds
  · intro hnone
    have hdelay : delay = none :=
      Option.eq_none_iff_forall_ne_some.mpr fun seconds hseconds =>
        hnone seconds ((h seconds).mp hseconds)
    rw [hdelay]
    rfl

theorem field_eq_some_iff {raw : RawStep} {step : Step} (c : Control (Option Real64))
    (hread : c.read = readDelay) (hdefault : c.value {} = none) (hkeys : Members.Distinct raw)
    (h : ofRaw raw = .ok step) (seconds : Real64) :
    c.value step = some seconds ↔ Asks raw c.key seconds := by
  obtain ⟨hset, -⟩ := of_ofRaw h
  unfold Asks
  cases hget : Members.get? c.key raw with
  | none =>
    rw [c.value_of_not_mem hset (Members.get?_eq_none_iff.mp hget), hdefault]
    simp
  | some v =>
    have hvalue := c.read_of_get? hkeys hset hget
    rw [hread] at hvalue
    simp [hvalue]

theorem delay_eq_some_iff {raw : RawStep} {step : Step} (hkeys : Members.Distinct raw)
    (h : ofRaw raw = .ok step) (seconds : Real64) :
    step.delay = some seconds ↔ Asks raw "delay" seconds :=
  field_eq_some_iff .delay rfl rfl hkeys h seconds

theorem retryDelay_eq_some_iff {raw : RawStep} {step : Step} (hkeys : Members.Distinct raw)
    (h : ofRaw raw = .ok step) (seconds : Real64) :
    (step.retryDelay <|> step.delay) = some seconds ↔ AsksBetween raw seconds := by
  have hown : ∀ own, step.retryDelay = some own ↔ Asks raw "retry_delay" own :=
    field_eq_some_iff .retryDelay rfl rfl hkeys h
  have hnone : step.retryDelay = none ↔ ∀ own, ¬ Asks raw "retry_delay" own := by
    rw [Option.eq_none_iff_forall_ne_some]
    exact forall_congr' fun own => not_congr (hown own)
  have hfirst : (step.retryDelay <|> step.delay) = some seconds ↔
      step.retryDelay = some seconds ∨ step.retryDelay = none ∧ step.delay = some seconds := by
    cases step.retryDelay <;> simp
  rw [hfirst, hown, hnone, delay_eq_some_iff hkeys h, asksBetween_iff]

/-- A run is aborted only by a step that asks for a wait that there is not. -/
theorem wait_eq_none_of_aborted {σ : Type} {answer : Backends σ} {config : Config} {index : Nat}
    {store : Store} {s : σ} {raw : RawStep}
    (h : ((runRaw config index store raw).run answer s).1 = .ended .aborted) :
    ∃ step, ofRawWith store raw = .ok step ∧
      (step.retryWait? = none ∨ step.postDelay? = none) := by
  rcases passes_or_ends answer config index store s raw with
    ⟨_, _, _, _, hpasses⟩ | ⟨outcome, t, log, hends⟩
  · rw [(hpasses.run_eq index).1] at h
    cases h
  · rw [hends.run_eq.1] at h
    cases h
    cases hends with
    | overlongWait _ hresolves _ hwait => exact ⟨_, hresolves, .inl hwait⟩
    | overlongDelay hstep _ _ hdelay => exact ⟨_, hstep.resolves, .inr hdelay⟩

/-- For a resolved step that can be read, the waits are there and are as near to its delays as they
can be, except for delays that are too long. Without such a delay the step as written, whatever of
it comes from the store, does not abort a run. -/
theorem waits_spec {raw : RawStep} (hkeys : Members.Distinct raw) {step : Step}
    (h : ofRaw raw = .ok step) :
    Waits (Asks raw "delay") step.postDelay? ∧ Waits (AsksBetween raw) step.retryWait? ∧
      ∀ {σ : Type} (answer : Backends σ) (config : Config) (index : Nat) (store : Store) (s : σ)
        (written : RawStep), Placeholder.resolveMembers store written = .ok raw →
        ((runRaw config index store written).run answer s).1 = .ended .aborted →
          ∃ seconds, (Asks raw "delay" seconds ∨ AsksBetween raw seconds) ∧
            2 ^ 64 ≤ seconds.awaited := by
  have hafter : Waits (Asks raw "delay") step.postDelay? :=
    step.postDelay?_eq ▸ waits_waitFor? (delay_eq_some_iff hkeys h)
  have hbetween : Waits (AsksBetween raw) step.retryWait? :=
    step.retryWait?_eq ▸ waits_waitFor? (retryDelay_eq_some_iff hkeys h)
  refine ⟨hafter, hbetween, ?_⟩
  intro σ answer config index store s written hwritten haborted
  obtain ⟨aborting, hresolves, hnone⟩ := wait_eq_none_of_aborted haborted
  obtain ⟨members, hmembers, hread⟩ := exists_members_of_ofRawWith hresolves
  cases hmembers.symm.trans hwritten
  cases hread.symm.trans h
  rcases hnone with hnone | hnone
  · obtain ⟨seconds, hasks, hlong⟩ := (hnone ▸ hbetween).exists_long
    exact ⟨seconds, .inr hasks, hlong⟩
  · obtain ⟨seconds, hasks, hlong⟩ := (hnone ▸ hafter).exists_long
    exact ⟨seconds, .inl hasks, hlong⟩

/-- A step with a delay in a text, and one between attempts that is nearest to `2 ^ 64`. -/
def patientRead : RawStep :=
  [("action", .text "read"), ("filename", .text "f"), ("delay", .text " 1.5 "),
    ("retry_delay", .ofInt 18446744073709551615)]

theorem waits_spec_patient :
    ∃ step, ofRaw patientRead = .ok step ∧ step.postDelay? = some (.ofMillis 1500) ∧
      (∀ seconds, Asks patientRead "delay" seconds →
        (Duration.ofMillis 1500).Nearest seconds.awaited) ∧
      ∃ seconds, AsksBetween patientRead seconds ∧ 2 ^ 64 ≤ seconds.awaited := by
  have hkeys : Members.Distinct patientRead := by decide
  obtain ⟨step, hstep, hafter, hbetween⟩ : ∃ step, ofRaw patientRead = .ok step ∧
      step.postDelay? = some (.ofMillis 1500) ∧ step.retryWait? = none :=
    ⟨_, rfl, by decide +kernel, by decide +kernel⟩
  obtain ⟨hdelay, hretry, -⟩ := waits_spec hkeys hstep
  refine ⟨step, hstep, hafter, ?_, (hbetween ▸ hretry).exists_long⟩
  intro seconds hasks
  exact (hdelay.asked seconds hasks).nearest _ hafter

/-- A step that is tried once, with a delay of `10 ^ 20` seconds between attempts. -/
def onceRead : RawStep :=
  [("action", .text "read"), ("filename", .text "f"),
    ("retry_delay", .number (.real ⟨false, 6103515625000000, 14, by decide⟩)),
    ("return", .bool true)]

/-- A delay between attempts aborts a run although there is no second attempt to wait for. -/
theorem overlong_retry_delay_aborts :
    ∃ step, ofRaw onceRead = .ok step ∧ step.retry = 0 ∧ step.retryWait? = none ∧
      ((runRaw {} 0 Store.empty onceRead).run Stage.answer Stage.empty).1 = .ended .aborted := by
  obtain ⟨step, hstep, hretry, hwait, hroutes⟩ : ∃ step, ofRaw onceRead = .ok step ∧
      step.retry = 0 ∧ step.retryWait? = none ∧ Route.ofStep step = .ok ⟨.file, "read"⟩ :=
    ⟨_, rfl, rfl, by decide +kernel, by decide +kernel⟩
  -- No text of the step refers to a parameter, so that the step as written is the resolved one.
  have hsettled : ∀ member ∈ onceRead, ∀ s ∈ member.2.texts, Placeholder.references s = [] := by
    decide +kernel
  have hmembers : Placeholder.resolveMembers Store.empty onceRead = .ok onceRead :=
    Placeholder.resolveMembers_of_fixed fun member hmember =>
      Placeholder.resolve_of_settled (hsettled member hmember) Store.empty
  have hresolves : ofRawWith Store.empty onceRead = .ok step := by
    simp only [ofRawWith, hmembers, bind, Except.bind, hstep]
  have hends : Ends Stage.answer {} 0 Store.empty Stage.empty onceRead .aborted Stage.empty [] :=
    .overlongWait rfl hresolves hroutes hwait
  exact ⟨step, hstep, hretry, hwait, congrArg Prod.fst hends.run_eq.1⟩

end Step

end FlowRunner
