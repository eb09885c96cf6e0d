import FlowRunner.Flow.Step
import FlowRunner.Proofs.DistinctKeys
import FlowRunner.Proofs.Placeholders

/-!
# Control fields

Members are set one after another, so that a control field of a step is what its own member reads
as, whatever the members around it are (`Step.Control.read_of_get?`), and is as before where there
is no such member (`Step.Control.value_of_not_mem`). No member comes twice in a step as written;
with a second one the last would count. So a control field of a step with placeholders is settled by
its own member alone (`Step.Control.of_ofRawWith`).
-/

namespace FlowRunner.Step

/-- A control field: the name of its member, its place in a step, and how the member is read. -/
structure Control (β : Type) where
  key : String
  value : Step → β
  read : Value → Except Misfit β
  reads : ∀ {step next : Step} {v : Value},
    step.withMember key v = .ok next → read v = .ok (value next)
  keeps : ∀ {step next : Step} {other : String} {v : Value},
    other ≠ key → step.withMember other v = .ok next → value next = value step

/-- The control fields of a step are those of another one, but for the field of a key. -/
structure AgreesBut (key : String) (next step : Step) : Prop where
  ordinal : key ≠ "step" → next.ordinal = step.ordinal
  name : key ≠ "step name" → next.name = step.name
  flowName : key ≠ "flow name" → next.flowName = step.flowName
  action : key ≠ "action" → next.action = step.action
  family : key ≠ "type" → next.family = step.family
  retry : key ≠ "retry" → next.retry = step.retry
  delay : key ≠ "delay" → next.delay = step.delay
  retryDelay : key ≠ "retry_delay" → next.retryDelay = step.retryDelay
  skip : key ≠ "skip_step" → next.skip = step.skip
  expected : key ≠ "validate_response" → next.expected = step.expected
  valueMap : key ≠ "value_map" → next.valueMap = step.valueMap
  returns : key ≠ "return" → next.returns = step.returns
  log : key ≠ "log" → next.log = step.log

theorem withMember_keeps {step next : Step} {key : String} {v : Value}
    (h : step.withMember key v = .ok next) : AgreesBut key next step := by
  unfold withMember at h
  -- A member is read, which may fail, or kept as it is.
  split at h
  all_goals
    first
    | obtain ⟨value, -, rfl⟩ := Except.map_eq_ok_iff.mp h
    | cases h
    constructor <;> simp

namespace Control

/-- The ordinal. -/
def ordinal : Control (Option Value) where
  key := "step"
  value := Step.ordinal
  read := fun v => .ok (if v.isNull then none else some v)
  reads := by
    intro step next v h
    cases h
    rfl
  keeps := fun hother h => (withMember_keeps h).ordinal hother

/-- The name. -/
def name : Control (Option String) where
  key := "step name"
  value := Step.name
  read := readName
  reads := by
    intro step next v h
    obtain ⟨name, hread, rfl⟩ := Except.map_eq_ok_iff.mp h
    exact hread
  keeps := fun hother h => (withMember_keeps h).name hother

/-- The name of a nested flow. -/
def flowName : Control (Option String) where
  key := "flow name"
  value := Step.flowName
  read := readName
  reads := by
    intro step next v h
    obtain ⟨name, hread, rfl⟩ := Except.map_eq_ok_iff.mp h
    exact hread
  keeps := fun hother h => (withMember_keeps h).flowName hother

/-- The action. -/
def action : Control String where
  key := "action"
  value := Step.action
  read := readAction
  reads := by
    intro step next v h
    obtain ⟨text, hread, rfl⟩ := Except.map_eq_ok_iff.mp h
    exact hread
  keeps := fun hother h => (withMember_keeps h).action hother

/-- The family that is asked for. -/
def family : Control (Option String) where
  key := "type"
  value := Step.family
  read := readName
  reads := by
    intro step next v h
    obtain ⟨name, hread, rfl⟩ := Except.map_eq_ok_iff.mp h
    exact hread
  keeps := fun hother h => (withMember_keeps h).family hother

/-- The delay after the step. -/
def delay : Control (Option Real64) where
  key := "delay"
  value := Step.delay
  read := readDelay
  reads := by
    intro step next v h
    obtain ⟨seconds, hread, rfl⟩ := Except.map_eq_ok_iff.mp h
    exact hread
  keeps := fun hother h => (withMember_keeps h).delay hother

/-- The delay between attempts. -/
def retryDelay : Control (Option Real64) where
  key := "retry_delay"
  value := Step.retryDelay
  read := readDelay
  reads := by
    intro step next v h
    obtain ⟨seconds, hread, rfl⟩ := Except.map_eq_ok_iff.mp h
    exact hread
  keeps := fun hother h => (withMember_keeps h).retryDelay hother

/-- Whether the step is skipped. -/
def skip : Control Bool where
  key := "skip_step"
  value := Step.skip
  read := readFlag
  reads := by
    intro step next v h
    obtain ⟨flag, hread, rfl⟩ := Except.map_eq_ok_iff.mp h
    exact hread
  keeps := fun hother h => (withMember_keeps h).skip hother

variable {β : Type} (c : Control β) {step next : Step} {members : List (String × Value)}

theorem value_of_not_mem (h : step.withMembers members = .ok next)
    (hkey : c.key ∉ Members.keys members) : c.value next = c.value step := by
  induction members generalizing step with
  | nil =>
    cases h
    rfl
  | cons member rest ih =>
    obtain ⟨key, v⟩ := member
    obtain ⟨mid, hmid, hrest⟩ := Except.bind_eq_ok_iff.mp h
    rw [Members.keys_cons, List.mem_cons, not_or] at hkey
    obtain ⟨hne, hkey⟩ := hkey
    rw [ih hrest hkey, c.keeps (Ne.symm hne) hmid]

theorem read_of_get? (hdistinct : Members.Distinct members)
    (h : step.withMembers members = .ok next) {v : Value}
    (hget : Members.get? c.key members = some v) : c.read v = .ok (c.value next) := by
  induction members generalizing step with
  | nil => cases hget
  | cons member rest ih =>
    obtain ⟨key, u⟩ := member
    obtain ⟨hkey, hrestdistinct⟩ := List.nodup_cons.mp hdistinct
    obtain ⟨mid, hmid, hrest⟩ := Except.bind_eq_ok_iff.mp h
    by_cases heq : key = c.key
    · subst heq
      rw [Members.get?, if_pos rfl] at hget
      cases hget
      rw [c.value_of_not_mem hrest hkey]
      exact c.reads hmid
    · rw [Members.get?, if_neg heq] at hget
      exact ih hrestdistinct hrest hget

end Control

/-- A typed step has an action, and what its members set. -/
theorem of_ofRaw {members : List (String × Value)} {step : Step} (h : ofRaw members = .ok step) :
    withMembers {} members = .ok step ∧ Members.has "action" members = true := by
  obtain ⟨read, hread, h⟩ := Except.bind_eq_ok_iff.mp h
  split at h
  · rename_i haction
    cases h
    exact ⟨hread, haction⟩
  · cases h

theorem exists_members_of_ofRawWith {store : Store} {raw : RawStep} {step : Step}
    (h : ofRawWith store raw = .ok step) :
    ∃ members, Placeholder.resolveMembers store raw = .ok members ∧ ofRaw members = .ok step := by
  obtain ⟨members, hmembers, h⟩ := Except.bind_eq_ok_iff.mp h
  split at h
  · rename_i read hread
    cases h
    exact ⟨members, hmembers, hread⟩
  · cases h

/-- A control field of a step with placeholders is what its own member resolves to and then reads
as; without such a member it has its default. -/
theorem Control.of_ofRawWith {β : Type} (c : Control β) {store : Store} {raw : RawStep}
    {step : Step} (hkeys : Members.Distinct raw) (h : ofRawWith store raw = .ok step) :
    (Members.get? c.key raw = none ∧ c.value step = c.value {}) ∨
      ∃ v w, Members.get? c.key raw = some v ∧ Placeholder.resolve store v = .ok w ∧
        c.read w = .ok (c.value step) := by
  obtain ⟨members, hmembers, hread⟩ := exists_members_of_ofRawWith h
  obtain ⟨hset, -⟩ := of_ofRaw hread
  have hdistinct := Placeholder.distinct_of_resolveMembers hkeys hmembers
  rcases Placeholder.get?_resolveMembers_cases hmembers c.key with
    ⟨hraw, hnone⟩ | ⟨v, w, hv, hw, hresolve⟩
  · exact .inl ⟨hraw, c.value_of_not_mem hset (Members.get?_eq_none_iff.mp hnone)⟩
  · exact .inr ⟨v, w, hv, hresolve, c.read_of_get? hdistinct hset hw⟩

end FlowRunner.Step
