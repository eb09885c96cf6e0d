import FlowRunner.Proofs.ControlFields

/-!
# Steps that are written and read

A typed step is thirteen control fields and a payload. No member of a step as written is lost: those
of the control fields are read, and all others are the payload, in their order
(`Step.payload_of_ofRaw`). What reading makes sure of is `Step.Settled`; such a step is written in a
form that reads back as the same step (`Step.ofValue_toValue`), unless a delay is no number.

The proof goes along the members in the order in which they are written: each one sets its field of
a step that has the fields before it (`Step.withMembers_optionalMember`).
-/

namespace FlowRunner

/-- A float that is a number. -/
def Real64.IsFinite (x : Real64) : Prop := ∃ value, x = .finite value

theorem ValueMap.ofValue_toValue (valueMap : ValueMap) :
    ValueMap.ofValue valueMap.toValue = .ok valueMap := by
  cases valueMap with
  | fields names =>
    have hnames : (names.map Value.text).mapM Value.asText? = some names := by
      induction names with
      | nil => rfl
      | cons name rest ih => simp [List.mapM_cons, Value.asText?, ih]
    simp only [ValueMap.ofValue, ValueMap.toValue, Value.ofTexts, hnames]
  | paths entries => rfl

namespace Step

/-- The names of the control fields, in the order in which they are written. -/
def controlNames : List String :=
  ["step", "step name", "flow name", "action", "type", "retry", "delay", "retry_delay",
    "skip_step", "validate_response", "value_map", "return", "log"]

/-! ## Payloads -/

theorem withMember_of_not_mem {key : String} (h : key ∉ controlNames) (step : Step) (v : Value) :
    step.withMember key v = .ok { step with payload := step.payload ++ [(key, v)] } := by
  simp only [controlNames, List.mem_cons, List.not_mem_nil, or_false, not_or] at h
  unfold withMember
  split
  all_goals first | rfl | simp at h

/-- A control field is read whatever the payload is, and leaves it alone. -/
theorem withMember_of_mem {key : String} (h : key ∈ controlNames) (step : Step)
    (payload : List (String × Value)) (v : Value) :
    ({ step with payload } : Step).withMember key v =
      (step.withMember key v).map fun next => { next with payload } := by
  simp only [controlNames, List.mem_cons, List.not_mem_nil, or_false] at h
  rcases h with rfl | rfl | rfl | rfl | rfl | rfl | rfl | rfl | rfl | rfl | rfl | rfl | rfl
  all_goals first | rfl | simp only [withMember, Except.map_map]

theorem withMember_payload {step next : Step} {key : String} {v : Value}
    (hkey : key ∈ controlNames) (h : step.withMember key v = .ok next) :
    next.payload = step.payload := by
  have hnext := withMember_of_mem hkey step step.payload v
  rw [h] at hnext
  have hkept : next = { next with payload := step.payload } := Except.ok.inj hnext
  rw [hkept]

theorem withMembers_of_mem {members : List (String × Value)}
    (h : ∀ member ∈ members, member.1 ∈ controlNames) (step : Step)
    (payload : List (String × Value)) :
    ({ step with payload } : Step).withMembers members =
      (step.withMembers members).map fun next => { next with payload } := by
  induction members generalizing step with
  | nil => rfl
  | cons member rest ih =>
    obtain ⟨key, v⟩ := member
    obtain ⟨hkey, hrest⟩ := List.forall_mem_cons.mp h
    rw [withMembers, withMembers, withMember_of_mem hkey]
    cases step.withMember key v with
    | error misfit => rfl
    | ok next => exact ih hrest next

/-- The members of control fields. -/
def controlsOf (members : List (String × Value)) : List (String × Value) :=
  members.filter fun member => member.1 ∈ controlNames

/-- The members of the payload. -/
def payloadOf (members : List (String × Value)) : List (String × Value) :=
  members.filter fun member => member.1 ∉ controlNames

/-- Reading sorts the members: those of control fields alone decide what these are, and all others
are the payload. -/
theorem withMembers_eq (step : Step) (members : List (String × Value)) :
    step.withMembers members = (step.withMembers (controlsOf members)).map fun next =>
      { next with payload := step.payload ++ payloadOf members } := by
  induction members generalizing step with
  | nil => simp [controlsOf, payloadOf, withMembers, Except.map]
  | cons member rest ih =>
    obtain ⟨key, v⟩ := member
    by_cases hkey : key ∈ controlNames
    · have hcontrols : controlsOf ((key, v) :: rest) = (key, v) :: controlsOf rest := by
        simp [controlsOf, hkey]
      have hpayload : payloadOf ((key, v) :: rest) = payloadOf rest := by
        simp [payloadOf, hkey]
      rw [hcontrols, hpayload, withMembers, withMembers]
      cases hnext : step.withMember key v with
      | error misfit => rfl
      | ok next =>
        rw [← withMember_payload hkey hnext]
        exact ih next
    · have hcontrols : controlsOf ((key, v) :: rest) = controlsOf rest := by
        simp [controlsOf, hkey]
      have hpayload : payloadOf ((key, v) :: rest) = (key, v) :: payloadOf rest := by
        simp [payloadOf, hkey]
      have hrest : ∀ member ∈ controlsOf rest, member.1 ∈ controlNames :=
        fun member hmember => of_decide_eq_true (List.mem_filter.mp hmember).2
      rw [hcontrols, hpayload, withMembers, withMember_of_not_mem hkey]
      refine (ih _).trans ?_
      rw [withMembers_of_mem hrest, Except.map_map]
      simp only [List.append_assoc, List.singleton_append]

theorem withMembers_payload {step next : Step} {members : List (String × Value)}
    (h : step.withMembers members = .ok next) :
    next.payload = step.payload ++ payloadOf members := by
  rw [withMembers_eq] at h
  obtain ⟨mid, -, rfl⟩ := Except.map_eq_ok_iff.mp h
  rfl

theorem withMembers_of_not_mem {payload : List (String × Value)}
    (h : ∀ member ∈ payload, member.1 ∉ controlNames) (step : Step) :
    step.withMembers payload = .ok { step with payload := step.payload ++ payload } := by
  have hcontrols : controlsOf payload = [] :=
    List.filter_eq_nil_iff.mpr fun member hmember => by simpa using h member hmember
  have hpayload : payloadOf payload = payload :=
    List.filter_eq_self.mpr fun member hmember => by simpa using h member hmember
  rw [withMembers_eq, hcontrols, hpayload]
  rfl

/-! ## What reading makes sure of -/

/-- A step that is as reading leaves one. -/
structure Settled (step : Step) : Prop where
  ordinal : step.ordinal ≠ some .null
  retry : Reading.fits 32 step.retry = true
  payload : ∀ member ∈ step.payload, member.1 ∉ controlNames

theorem fits_of_readRetry {v : Value} {count : Nat} (h : readRetry v = .ok count) :
    Reading.fits 32 count = true := by
  unfold readRetry at h
  split at h
  · cases h
    decide
  · split at h
    · rename_i hcount
      cases h
      exact (Option.filter_eq_some_iff.mp hcount).2
    · cases h
  · dsimp only at h
    split at h
    · cases h
      decide
    · split at h
      · rename_i hcount
        cases h
        exact (Option.filter_eq_some_iff.mp hcount).2
      · cases h
  · cases h

theorem settled_default : Settled {} where
  ordinal := by simp
  retry := by decide
  payload := List.forall_mem_nil _

theorem Settled.withMember {step next : Step} (hstep : step.Settled) {key : String} {v : Value}
    (h : step.withMember key v = .ok next) : next.Settled := by
  refine ⟨?_, ?_, ?_⟩
  · by_cases hkey : key = "step"
    · subst hkey
      cases h
      cases v <;> simp [Value.isNull]
    · rw [(withMember_keeps h).ordinal hkey]
      exact hstep.ordinal
  · by_cases hkey : key = "retry"
    · subst hkey
      obtain ⟨count, hcount, rfl⟩ := Except.map_eq_ok_iff.mp h
      exact fits_of_readRetry hcount
    · rw [(withMember_keeps h).retry hkey]
      exact hstep.retry
  · by_cases hkey : key ∈ controlNames
    · rw [withMember_payload hkey h]
      exact hstep.payload
    · rw [withMember_of_not_mem hkey] at h
      cases h
      refine List.forall_mem_append.mpr ⟨hstep.payload, fun member hmember => ?_⟩
      rw [List.mem_singleton.mp hmember]
      exact hkey

theorem Settled.withMembers {step next : Step} (hstep : step.Settled)
    {members : List (String × Value)} (h : step.withMembers members = .ok next) :
    next.Settled := by
  induction members generalizing step with
  | nil =>
    cases h
    exact hstep
  | cons member rest ih =>
    obtain ⟨mid, hmid, hrest⟩ := Except.bind_eq_ok_iff.mp h
    exact ih (hstep.withMember hmid) hrest

theorem settled_of_ofRaw {raw : RawStep} {step : Step} (h : ofRaw raw = .ok step) :
    step.Settled :=
  settled_default.withMembers (of_ofRaw h).1

theorem payload_of_ofRaw {raw : RawStep} {step : Step} (h : ofRaw raw = .ok step) :
    step.payload = raw.filter fun member => member.1 ∉ controlNames :=
  (withMembers_payload (of_ofRaw h).1).trans (List.nil_append _)

/-! ## Reading what is written -/

theorem readValueMap_toValue (valueMap : ValueMap) :
    readValueMap valueMap.toValue = .ok (some valueMap) := by
  have hread : readValueMap valueMap.toValue = (ValueMap.ofValue valueMap.toValue).map some := by
    cases valueMap <;> rfl
  rw [hread, ValueMap.ofValue_toValue]
  rfl

theorem readRetry_ofInt {count : Nat} (h : Reading.fits 32 count = true) :
    readRetry (.ofInt count) = .ok count := by
  have hcount : count < 4294967296 := by simpa [Reading.fits] using h
  have hrange : Number.InRange count := by
    unfold Number.InRange
    omega
  have hvalue : Value.ofInt count = .number (.integer count hrange) := by
    rw [Value.ofInt, Number.ofInt?, dif_pos hrange]
  have hnatural : (Number.integer count hrange).natural? = some count := by
    simp [Number.natural?]
  rw [hvalue, readRetry, hnatural, Option.filter_some, if_pos h]

theorem readDelay_ofReal {seconds : Real64} (h : seconds.IsFinite) :
    readDelay (.ofReal seconds) = .ok (some seconds) := by
  obtain ⟨x, rfl⟩ := h
  rfl

/-- A member that is written for a field sets it, and without one the field stays empty. -/
theorem withMembers_optionalMember {β : Type} {key : String} {write : β → Value} {step : Step}
    {field : Option β} {v : Option Value} (put : Step → Option β → Step)
    (hv : v = field.map write) (hnone : put step none = step)
    (h : ∀ b, field = some b → step.withMember key (write b) = .ok (put step (some b)))
    (rest : List (String × Value)) :
    step.withMembers (optionalMember key v ++ rest) = (put step field).withMembers rest := by
  subst hv
  cases field with
  | none =>
    rw [hnone]
    rfl
  | some b =>
    rw [Option.map_some, optionalMember, List.singleton_append, Step.withMembers, h b rfl]
    rfl

theorem withMembers_cons {step next : Step} {key : String} {v : Value}
    (h : step.withMember key v = .ok next) (rest : List (String × Value)) :
    step.withMembers ((key, v) :: rest) = next.withMembers rest := by
  rw [Step.withMembers, h]
  rfl

theorem withMember_retry {count : Nat} (h : Reading.fits 32 count = true) (step : Step) :
    step.withMember "retry" (.ofInt count) = .ok { step with retry := count } := by
  simp [withMember, readRetry_ofInt h, Except.map]

theorem withMember_delay {seconds : Real64} (h : seconds.IsFinite) (step : Step) :
    step.withMember "delay" (.ofReal seconds) = .ok { step with delay := some seconds } := by
  simp [withMember, readDelay_ofReal h, Except.map]

theorem withMember_retryDelay {seconds : Real64} (h : seconds.IsFinite) (step : Step) :
    step.withMember "retry_delay" (.ofReal seconds) =
      .ok { step with retryDelay := some seconds } := by
  simp [withMember, readDelay_ofReal h, Except.map]

theorem withMember_valueMap (valueMap : ValueMap) (step : Step) :
    step.withMember "value_map" valueMap.toValue =
      .ok { step with valueMap := some valueMap } := by
  simp [withMember, readValueMap_toValue, Except.map]

/-- The members that are written for the control fields. -/
def controlMembers (step : Step) : List (String × Value) :=
  optionalMember "step" step.ordinal ++
  (optionalMember "step name" (step.name.map .text) ++
  (optionalMember "flow name" (step.flowName.map .text) ++
  ("action", .text step.action) ::
  (optionalMember "type" (step.family.map .text) ++
  ("retry", .ofInt step.retry) ::
  (optionalMember "delay" (step.delay.map .ofReal) ++
  (optionalMember "retry_delay" (step.retryDelay.map .ofReal) ++
  ("skip_step", .bool step.skip) ::
  (optionalMember "validate_response" step.expected ++
  (optionalMember "value_map" (step.valueMap.map ValueMap.toValue) ++
  [("return", .bool step.returns), ("log", .bool step.log)])))))))

theorem toValue_eq (step : Step) :
    step.toValue = .object (step.controlMembers ++ step.payload) := by
  simp [toValue, controlMembers]

theorem withMembers_controlMembers {step : Step} (hstep : step.Settled)
    (hdelay : ∀ seconds ∈ step.delay, seconds.IsFinite)
    (hretryDelay : ∀ seconds ∈ step.retryDelay, seconds.IsFinite) :
    withMembers {} (step.controlMembers ++ step.payload) = .ok step := by
  simp only [controlMembers, List.append_assoc, List.cons_append, List.nil_append]
  have hordinal : ∀ v, step.ordinal = some v →
      withMember {} "step" v = .ok { ordinal := some v } := by
    intro v hv
    have hnull : v.isNull = false := by
      cases v with
      | null => exact absurd hv hstep.ordinal
      | _ => rfl
    simp [withMember, hnull]
  -- A member is read onto the fields before it, which are one record again after each line.
  refine (withMembers_optionalMember (fun s ordinal => { s with ordinal }) Option.map_id'.symm rfl
    hordinal _).trans ?_
  dsimp only
  refine (withMembers_optionalMember (fun s name => { s with name }) rfl rfl
    (fun _ _ => rfl) _).trans ?_
  dsimp only
  refine (withMembers_optionalMember (fun s flowName => { s with flowName }) rfl rfl
    (fun _ _ => rfl) _).trans ?_
  dsimp only
  refine (withMembers_cons rfl _).trans ?_
  dsimp only
  refine (withMembers_optionalMember (fun s family => { s with family }) rfl rfl
    (fun _ _ => rfl) _).trans ?_
  dsimp only
  refine (withMembers_cons (withMember_retry hstep.retry _) _).trans ?_
  dsimp only
  refine (withMembers_optionalMember (fun s delay => { s with delay }) rfl rfl
    (fun _ hseconds => withMember_delay (hdelay _ hseconds) _) _).trans ?_
  dsimp only
  refine (withMembers_optionalMember (fun s retryDelay => { s with retryDelay }) rfl rfl
    (fun _ hseconds => withMember_retryDelay (hretryDelay _ hseconds) _) _).trans ?_
  dsimp only
  refine (withMembers_cons rfl _).trans ?_
  dsimp only
  refine (withMembers_optionalMember (fun s expected => { s with expected }) Option.map_id'.symm rfl
    (fun _ _ => rfl) _).trans ?_
  dsimp only
  refine (withMembers_optionalMember (fun s valueMap => { s with valueMap }) rfl rfl
    (fun _ _ => withMember_valueMap _ _) _).trans ?_
  dsimp only
  refine (withMembers_cons rfl _).trans ?_
  dsimp only
  refine (withMembers_cons rfl _).trans ?_
  dsimp only
  exact withMembers_of_not_mem hstep.payload _

theorem ofValue_toValue {step : Step} (hstep : step.Settled)
    (hdelay : ∀ seconds ∈ step.delay, seconds.IsFinite)
    (hretryDelay : ∀ seconds ∈ step.retryDelay, seconds.IsFinite) :
    ofValue step.toValue = .ok step := by
  have haction : Members.has "action" (step.controlMembers ++ step.payload) = true := by
    have hkey : "action" ∈ Members.keys (step.controlMembers ++ step.payload) := by
      simp [Members.keys, controlMembers]
    rw [Members.has, Option.isSome_iff_ne_none, Ne, Members.get?_eq_none_iff, not_not]
    exact hkey
  rw [toValue_eq, ofValue, ofRaw, withMembers_controlMembers hstep hdelay hretryDelay]
  simp only [haction, if_true]
  rfl

theorem keys_controlMembers_sublist (step : Step) :
    (Members.keys step.controlMembers).Sublist controlNames := by
  have hoptional : ∀ (key : String) (v : Option Value) (rest : List (String × Value)) names,
      (Members.keys rest).Sublist names →
        (Members.keys (optionalMember key v ++ rest)).Sublist (key :: names) := by
    intro key v rest names hrest
    cases v with
    | none => exact hrest.cons key
    | some v => exact hrest.cons_cons key
  unfold controlMembers controlNames
  refine hoptional _ _ _ _ (hoptional _ _ _ _ (hoptional _ _ _ _ (.cons_cons _ ?_)))
  refine hoptional _ _ _ _ (.cons_cons _ (hoptional _ _ _ _ (hoptional _ _ _ _ (.cons_cons _ ?_))))
  exact hoptional _ _ _ _ (hoptional _ _ _ _ (.refl _))

/-- No key of a written step comes twice. -/
theorem distinct_written {step : Step} (hstep : step.Settled)
    (hpayload : Members.Distinct step.payload) :
    Members.Distinct (step.controlMembers ++ step.payload) := by
  have hcontrol := step.keys_controlMembers_sublist
  unfold Members.Distinct Members.keys
  rw [List.map_append, List.nodup_append]
  refine ⟨hcontrol.nodup (by decide), hpayload, ?_⟩
  rintro key hkey _ hmember rfl
  obtain ⟨member, hmem, rfl⟩ := List.mem_map.mp hmember
  exact hstep.payload member hmem (hcontrol.subset hkey)

/-- What a raw step is read as has all members besides the control fields, and is written as an
object that reads back as the same step. -/
theorem written_reads_back {raw : RawStep} {step : Step} (h : ofRaw raw = .ok step) :
    (step.payload = raw.filter fun member => member.1 ∉ controlNames) ∧
    ((∀ seconds ∈ step.delay, seconds.IsFinite) →
      (∀ seconds ∈ step.retryDelay, seconds.IsFinite) → ofValue step.toValue = .ok step) ∧
    (Members.Distinct raw →
      ∃ members, step.toValue = .object members ∧ Members.Distinct members) := by
  have hsettled := settled_of_ofRaw h
  refine ⟨payload_of_ofRaw h, ofValue_toValue hsettled, fun hraw => ?_⟩
  have hpayload : Members.Distinct step.payload := by
    rw [payload_of_ofRaw h]
    exact hraw.sublist List.filter_sublist
  exact ⟨_, step.toValue_eq, distinct_written hsettled hpayload⟩

/-- A step with texts for numbers and flags, and with two nulls: an expectation and a payload
field. -/
def lenient : RawStep :=
  [("encoding", .null), ("action", .text "read"), ("retry", .text " 3 "), ("delay", .text "0.25"),
    ("skip_step", .text "no"), ("validate_response", .null), ("filename", .text "in"),
    ("value_map", .list [.text "line"])]

/-- What that step is read as. -/
def lenientRead : Step where
  action := "read"
  retry := 3
  delay := some (.finite ⟨false, 4503599627370496, -54, by decide⟩)
  expected := some .null
  valueMap := some (.fields ["line"])
  payload := [("encoding", .null), ("filename", .text "in")]

theorem written_reads_back_lenient :
    ofRaw lenient = .ok lenientRead ∧ Members.Distinct lenient ∧
      ofValue lenientRead.toValue = .ok lenientRead ∧
      ∃ members, lenientRead.toValue = .object members ∧ Members.Distinct members := by
  have hread : ofRaw lenient = .ok lenientRead := by rfl
  have hdistinct : Members.Distinct lenient := by decide
  obtain ⟨-, hback, hmembers⟩ := written_reads_back hread
  have hdelay : ∀ seconds ∈ lenientRead.delay, seconds.IsFinite := by
    rintro seconds hseconds
    cases hseconds
    exact ⟨_, rfl⟩
  have hretryDelay : ∀ seconds ∈ lenientRead.retryDelay, seconds.IsFinite := by
    rintro seconds hseconds
    cases hseconds
  exact ⟨hread, hdistinct, hback hdelay hretryDelay, hmembers hdistinct⟩

end Step

end FlowRunner
