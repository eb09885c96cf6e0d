import FlowRunner.Proofs.AbsentFields
import FlowRunner.Proofs.SkippedSteps
import FlowRunner.Proofs.StepLabels
import FlowRunner.Proofs.WrittenNaturals

/-!
# Control values that are written as text

A value that comes out of a placeholder inside other text is a text, so numbers and flags that say
how a step is run may arrive as one. A natural number in decimal digits and a truth value in any
case, both with blanks around them, are then read as the number and the truth value would be, up to
the ends of the range of a number.

* `Step.readRetry_alike`, `Step.natural?_alike`, `Step.flag?_alike`: one value is read alike in both
  forms.
* `Step.ofRaw_alike_of_retry`, `Step.ofRaw_alike_of_count`, `Step.ofRaw_eq_of_flag`: so is a step
  with that value among its members.
* `Step.spelled_alike`: a step whose member resolves to the text runs as one whose member resolves
  to the value.
-/

namespace FlowRunner

/-- Both fail, or both succeed with values that are related. -/
inductive Except.Alike {ε α : Type} (R : α → α → Prop) : Except ε α → Except ε α → Prop
  | error {e e' : ε} : Alike R (.error e) (.error e')
  | ok {a b : α} (h : R a b) : Alike R (.ok a) (.ok b)

namespace Except.Alike

variable {ε ε' α β : Type} {R : α → α → Prop} {S : β → β → Prop} {x y : Except ε α}

theorem refl (x : Except ε α) : Alike Eq x x := by
  cases x with
  | error e => exact .error
  | ok a => exact .ok rfl

theorem imp (h : Alike R x y) {T : α → α → Prop} (himp : ∀ a b, R a b → T a b) :
    Alike T x y := by
  cases h with
  | error => exact .error
  | ok hab => exact .ok (himp _ _ hab)

theorem map {f g : α → β} (h : Alike R x y) (hfg : ∀ a b, R a b → S (f a) (g b)) :
    Alike S (x.map f) (y.map g) := by
  cases h with
  | error => exact .error
  | ok hab => exact .ok (hfg _ _ hab)

theorem mapError (h : Alike R x y) (f : ε → ε') : Alike R (x.mapError f) (y.mapError f) := by
  cases h with
  | error => exact .error
  | ok hab => exact .ok hab

theorem bind {f g : α → Except ε β} (h : Alike R x y) (hfg : ∀ a b, R a b → Alike S (f a) (g b)) :
    Alike S (x >>= f) (y >>= g) := by
  cases h with
  | error => exact .error
  | ok hab => exact hfg _ _ hab

end Except.Alike

/-! ## Texts of a number and of a truth value -/

namespace Text

/-- A text with blanks at its ends around some characters. -/
def Around (core : List Char) (s : String) : Prop :=
  ∃ left right, s.toList = left ++ core ++ right ∧ (∀ c ∈ left, isBlank c = true) ∧
    ∀ c ∈ right, isBlank c = true

theorem Around.trim_eq {core : List Char} {s : String} (h : Around core s) (hne : core ≠ [])
    (hcore : ∀ c ∈ core, isBlank c = false) : trim s.toList = core := by
  obtain ⟨left, right, hs, hleft, hright⟩ := h
  rw [hs]
  exact trim_append hleft hright (trim_eq_self_of_forall hcore) hne

/-- A blank is no letter, so it is its own lower case. -/
theorem toLower_of_isBlank {c : Char} (h : isBlank c = true) : c.toLower = c := by
  unfold Char.toLower
  split
  · rename_i hupper
    have hrange : 65 ≤ c.toNat ∧ c.toNat ≤ 90 := by
      simpa [UInt32.le_iff_toNat_le] using hupper
    simp only [isBlank, Bool.or_eq_true, Bool.and_eq_true, decide_eq_true_eq, beq_iff_eq] at h
    omega
  · rfl

end Text

/-- A text is a natural number in decimal digits, with blanks around it. -/
def SpellsNatural (s : String) (n : Nat) : Prop :=
  Text.Around (toString n).toList s

/-- A text is the word for a truth value in any case, with blanks around it. -/
def SpellsTruth (s : String) (b : Bool) : Prop :=
  ∃ word, word.map Char.toLower = (Value.boolText b).toList ∧ Text.Around word s

theorem SpellsNatural.trim_eq {s : String} {n : Nat} (h : SpellsNatural s n) :
    Text.trim s.toList = (toString n).toList :=
  Text.Around.trim_eq h (Reading.toList_toString_ne_nil n) fun _ hc =>
    Text.isBlank_of_isDigit (Reading.isDigit_of_mem_toString hc)

theorem SpellsTruth.map_trim {s : String} {b : Bool} (h : SpellsTruth s b) :
    (Text.trim s.toList).map Char.toLower = (Value.boolText b).toList := by
  obtain ⟨word, hword, hs⟩ := h
  have hne : word ≠ [] := by
    rintro rfl
    cases b <;> cases hword
  have hletters : (Value.boolText b).toList.any Text.isBlank = false := by
    cases b <;> rfl
  have hblank : ∀ c ∈ word, Text.isBlank c = false := by
    intro c hc
    refine Bool.eq_false_iff.mpr fun hblank => ?_
    have hmem : c.toLower ∈ word.map Char.toLower := List.mem_map_of_mem hc
    rw [hword, Text.toLower_of_isBlank hblank] at hmem
    exact List.any_eq_false.mp hletters c hmem hblank
  rw [hs.trim_eq hne hblank, hword]

namespace Step

/-! ## One value in both forms -/

variable {s : String} {n : Nat} {b : Bool}

theorem natural?_number (hn : Number.InRange n) : (Number.integer n hn).natural? = some n := by
  simp [Number.natural?]

/-- A number of retries is accepted in both forms, with the same count, or in none. -/
theorem readRetry_alike (hn : Number.InRange n) (hs : SpellsNatural s n) :
    Except.Alike Eq (readRetry (.number (.integer n hn))) (readRetry (.text s)) := by
  have hne : (toString n).toList.isEmpty = false :=
    List.isEmpty_eq_false_iff.mpr (Reading.toList_toString_ne_nil n)
  simp only [readRetry, hne, hs.trim_eq, natural?_number, Reading.natural?_toString_eq,
    Bool.false_eq_true, if_false]
  cases (some n).filter (Reading.fits 32) with
  | none => exact .error
  | some count => exact .ok rfl

theorem flag?_alike (hs : SpellsTruth s b) : (Value.text s).flag? = (Value.bool b).flag? := by
  have hletters : Text.sameLetters (Text.trimmed s) "true" = b := by
    rw [Text.sameLetters, Text.trimmed, String.toList_ofList, hs.map_trim]
    cases b <;> decide
  rw [Value.flag?, Value.flag?, hletters]

theorem readFlag_alike (hs : SpellsTruth s b) : readFlag (.text s) = readFlag (.bool b) := by
  rw [readFlag, flag?_alike hs]
  rfl

/-- A payload field is the same number in both forms. -/
theorem natural?_alike (hn : Number.InRange n) (hs : SpellsNatural s n) {key : String}
    {left right : List (String × Value)} {step other : Step}
    (hstep : step.payload = left ++ (key, .number (.integer n hn)) :: right)
    (hother : other.payload = left ++ (key, .text s) :: right) :
    other.natural? key = step.natural? key := by
  have hfits : Reading.fits 64 n = true := by
    have hrange := hn.2
    simp only [Reading.fits, decide_eq_true_eq]
    omega
  unfold natural? get?
  rw [hstep, hother, Members.get?_append, Members.get?_append]
  cases Members.get? key left with
  | some v => rfl
  | none =>
    simp only [Members.get?, if_true]
    change Reading.natural? 64 (Text.trim s.toList) = (Number.integer n hn).natural?
    rw [hs.trim_eq, natural?_number hn, Reading.natural?_toString hfits]

/-! ## A step with one member in both forms -/

/-- The payload fields that are read as natural numbers. -/
def countNames : List String := ["status", "waitTime", "max_message_count"]

/-- The control fields that are flags. -/
def flagNames : List String := ["skip_step", "return", "log"]

/-- Which routes read a payload field as a natural number. -/
inductive CountsBy : String → Route → Prop
  | status (action : String) : CountsBy "status" ⟨.api, action⟩
  | polls : CountsBy "waitTime" ⟨.cloud, "batch"⟩
  | messages : CountsBy "max_message_count" ⟨.cloud, "receivesqs"⟩

/-- Two steps have the same control fields, the same natural number in a payload field, and the same
programs where that number is read. -/
structure CountedAlike (key : String) (step other : Step) : Prop where
  controls : ∃ payload, other = { step with payload }
  number : other.natural? key = step.natural? key
  operation : ∀ route, CountsBy key route → ∀ config,
    route.family.run config other route.action = route.family.run config step route.action

variable {key : String} {step other : Step}

section

variable (hothers : ∀ name, name ≠ key → other.get? name = step.get? name)
  (hnumber : other.natural? key = step.natural? key)

include hothers

theorem text?_of_ne (name : String) (hne : name ≠ key) : other.text? name = step.text? name := by
  rw [text?, text?, hothers name hne]

theorem required_of_ne (name : String) (hne : name ≠ key) :
    Program.required other name = Program.required step name := by
  rw [Program.required, Program.required, text?_of_ne hothers _ hne]

theorem roleOf_of_ne (hne : "access_role" ≠ key) : Cloud.roleOf other = Cloud.roleOf step := by
  rw [Cloud.roleOf, Cloud.roleOf, text?_of_ne hothers _ hne]

include hnumber

/-- An operation sees of a step the field as a number and the other fields. -/
theorem run_of_countsBy {route : Route} (h : CountsBy key route) (config : Config) :
    route.family.run config other route.action = route.family.run config step route.action := by
  cases h with
  | status action =>
    have hsend : ∀ method url headers body,
        Api.send other method url headers body = Api.send step method url headers body := by
      intro method url headers body
      unfold Api.send Api.statusOf
      rw [hnumber]
    have hheaders : Api.headersOf other = Api.headersOf step := by
      unfold Api.headersOf
      rw [hothers "header" (by decide)]
    have hurl : Api.endPoint other = Api.endPoint step :=
      required_of_ne hothers "end point" (by decide)
    have hbody : other.get? "body" = step.get? "body" := hothers "body" (by decide)
    have hparams : other.text? "value_params" = step.text? "value_params" :=
      text?_of_ne hothers "value_params" (by decide)
    simp only [Family.run, Api.run, Api.sendBody, Api.graphql, hsend, hheaders, hurl, hbody,
      hparams]
  | polls =>
    have hcommand : Cloud.Batch.commandOf other = Cloud.Batch.commandOf step := by
      unfold Cloud.Batch.commandOf
      rw [hothers "command" (by decide)]
    change Cloud.Batch.run config.batch other = Cloud.Batch.run config.batch step
    unfold Cloud.Batch.run
    rw [required_of_ne hothers "job_name" (by decide),
      required_of_ne hothers "job_queue" (by decide),
      required_of_ne hothers "job_definition" (by decide), text?_of_ne hothers "status" (by decide),
      roleOf_of_ne hothers (by decide), hcommand, hnumber]
  | messages =>
    change Cloud.receiveMessages config.queue other = Cloud.receiveMessages config.queue step
    unfold Cloud.receiveMessages
    rw [required_of_ne hothers "queue_name" (by decide), roleOf_of_ne hothers (by decide), hnumber]

end

theorem withMembers_append_cons (step : Step) (before after : List (String × Value)) (key : String)
    (v : Value) : step.withMembers (before ++ (key, v) :: after) =
      (step.withMembers before >>= fun mid => mid.withMember key v >>= fun next =>
        next.withMembers after) := by
  induction before generalizing step with
  | nil => rfl
  | cons member rest ih =>
    rw [List.cons_append, withMembers, withMembers]
    cases step.withMember member.1 member.2 with
    | error misfit => rfl
    | ok next => exact ih next

theorem has_append_cons (name : String) (before after : List (String × Value)) (key : String)
    (v w : Value) : Members.has name (before ++ (key, v) :: after) =
      Members.has name (before ++ (key, w) :: after) := by
  rw [Members.has, Members.has, Members.get?_append, Members.get?_append, Members.get?,
    Members.get?]
  by_cases h : key = name
  · rw [if_pos h, if_pos h]
    cases Members.get? name before <;> rfl
  · rw [if_neg h, if_neg h]

/-- A step in which a control field is read alike. -/
theorem ofRaw_alike {v w : Value} (before after : List (String × Value))
    (h : ∀ mid : Step, Except.Alike Eq (mid.withMember key v) (mid.withMember key w)) :
    Except.Alike Eq (ofRaw (before ++ (key, v) :: after))
      (ofRaw (before ++ (key, w) :: after)) := by
  have hset : Except.Alike Eq (withMembers {} (before ++ (key, v) :: after))
      (withMembers {} (before ++ (key, w) :: after)) := by
    rw [withMembers_append_cons, withMembers_append_cons]
    refine (Except.Alike.refl _).bind fun mid _ hmid => hmid ▸ (h mid).bind ?_
    exact fun next _ hnext => hnext ▸ Except.Alike.refl _
  refine hset.bind fun next _ hnext => ?_
  rw [hnext, has_append_cons "action" before after key w v]
  exact Except.Alike.refl _

theorem ofRaw_alike_of_retry (hn : Number.InRange n) (hs : SpellsNatural s n)
    (before after : List (String × Value)) :
    Except.Alike Eq (ofRaw (before ++ ("retry", .number (.integer n hn)) :: after))
      (ofRaw (before ++ ("retry", .text s) :: after)) := by
  refine ofRaw_alike before after fun mid => ?_
  exact (readRetry_alike hn hs).map fun count _ hcount => hcount ▸ rfl

theorem ofRaw_eq_of_flag (hkey : key ∈ flagNames) (hs : SpellsTruth s b)
    (before after : List (String × Value)) :
    ofRaw (before ++ (key, .text s) :: after) = ofRaw (before ++ (key, .bool b) :: after) := by
  have hmember : ∀ mid : Step, mid.withMember key (.text s) = mid.withMember key (.bool b) := by
    intro mid
    simp only [flagNames, List.mem_cons, List.not_mem_nil, or_false] at hkey
    rcases hkey with rfl | rfl | rfl <;> simp only [withMember, readFlag_alike hs]
  have hset : withMembers {} (before ++ (key, .text s) :: after) =
      withMembers {} (before ++ (key, .bool b) :: after) := by
    rw [withMembers_append_cons, withMembers_append_cons]
    simp only [hmember]
  rw [ofRaw, ofRaw, hset, has_append_cons "action" before after key (.text s) (.bool b)]

/-- A payload field keeps its place in a step, whatever its value is. -/
theorem ofRaw_alike_of_payload (hkey : key ∉ controlNames) (v w : Value)
    (before after : List (String × Value)) :
    Except.Alike (fun step other => step.payload = payloadOf before ++ (key, v) :: payloadOf after ∧
        other = { step with payload := payloadOf before ++ (key, w) :: payloadOf after })
      (ofRaw (before ++ (key, v) :: after)) (ofRaw (before ++ (key, w) :: after)) := by
  have hcontrols : ∀ u, controlsOf (before ++ (key, u) :: after) =
      controlsOf before ++ controlsOf after := by
    simp [controlsOf, hkey]
  have hpayload : ∀ u, payloadOf (before ++ (key, u) :: after) =
      payloadOf before ++ (key, u) :: payloadOf after := by
    simp [payloadOf, hkey]
  unfold ofRaw
  rw [withMembers_eq {} (before ++ (key, v) :: after),
    withMembers_eq {} (before ++ (key, w) :: after), hcontrols, hcontrols, hpayload, hpayload,
    has_append_cons "action" before after key w v]
  cases withMembers {} (controlsOf before ++ controlsOf after) with
  | error misfit => exact .error
  | ok step =>
    cases Members.has "action" (before ++ (key, v) :: after) with
    | false => exact .error
    | true => exact .ok ⟨rfl, rfl⟩

theorem not_mem_controlNames_of_count (hkey : key ∈ countNames) : key ∉ controlNames := by
  revert key
  decide

theorem ofRaw_alike_of_count (hkey : key ∈ countNames) (hn : Number.InRange n)
    (hs : SpellsNatural s n) (before after : List (String × Value)) :
    Except.Alike (CountedAlike key) (ofRaw (before ++ (key, .number (.integer n hn)) :: after))
      (ofRaw (before ++ (key, .text s) :: after)) := by
  refine (ofRaw_alike_of_payload (not_mem_controlNames_of_count hkey) _ _ before after).imp ?_
  rintro step other ⟨hstep, hcontrols⟩
  have hother : other.payload = payloadOf before ++ (key, .text s) :: payloadOf after := by
    rw [hcontrols]
  have hnumber := natural?_alike hn hs hstep hother
  refine ⟨⟨_, hcontrols⟩, hnumber, fun route hroute => run_of_countsBy ?_ hnumber hroute⟩
  intro name hne
  rw [get?, get?, hstep, hother, Members.get?_append_cons_of_ne hne,
    Members.get?_append_cons_of_ne hne]

/-! ## Members that resolve to one form or the other -/

/-- A value of a member and a text that spells it. -/
inductive Respelled : String → Value → String → Prop
  | retry {n : Nat} (hn : Number.InRange n) {s : String} (hs : SpellsNatural s n) :
    Respelled "retry" (.number (.integer n hn)) s
  | count {key : String} (hkey : key ∈ countNames) {n : Nat} (hn : Number.InRange n) {s : String}
    (hs : SpellsNatural s n) : Respelled key (.number (.integer n hn)) s
  | flag {key : String} (hkey : key ∈ flagNames) {b : Bool} {s : String} (hs : SpellsTruth s b) :
    Respelled key (.bool b) s

/-- A step as written runs like another one which reads as the given step, if the route of that step
is one that reads the member as a number, in case it is a field of the payload. -/
def RunsAs (store : Store) (key : String) (raw other : RawStep) (step : Step) : Prop :=
  (key ∈ countNames → ∀ route, Route.ofStep step = .ok route → CountsBy key route) →
    ∀ config index, runRaw config index store other = runRaw config index store raw

variable {store : Store} {typed v w : Value}

theorem Respelled.not_mem_labelNames (h : Respelled key typed s) : key ∉ labelNames := by
  cases h with
  | retry => decide
  | count hkey =>
    revert hkey key
    decide
  | flag hkey =>
    revert hkey key
    decide

theorem Respelled.ofRaw_alike (h : Respelled key typed s) (before after : List (String × Value)) :
    Except.Alike (fun step other => other = step ∨ key ∈ countNames ∧ CountedAlike key step other)
      (ofRaw (before ++ (key, typed) :: after)) (ofRaw (before ++ (key, .text s) :: after)) := by
  cases h with
  | retry hn hs =>
    exact (ofRaw_alike_of_retry hn hs before after).imp fun step other hsame => .inl hsame.symm
  | count hkey hn hs =>
    exact (ofRaw_alike_of_count hkey hn hs before after).imp fun step other halike =>
      .inr ⟨hkey, halike⟩
  | flag hkey hs =>
    rw [ofRaw_eq_of_flag hkey hs]
    exact (Except.Alike.refl _).imp fun step other hsame => .inl hsame.symm

theorem Respelled.flag?_eq (h : Respelled key typed s) (hkey : key ∈ flagNames) :
    (Value.text s).flag? = typed.flag? := by
  have hcounts : ∀ key ∈ countNames, key ∉ flagNames := by decide
  cases h with
  | retry => exact absurd hkey (by decide)
  | count hcount => exact absurd hkey (hcounts key hcount)
  | flag _ hs => exact flag?_alike hs

/-- A step is skipped alike. -/
theorem Respelled.skipRequested_eq (h : Respelled key typed s)
    (hv : Placeholder.resolve store v = .ok typed)
    (hw : Placeholder.resolve store w = .ok (.text s)) (before after : List (String × Value)) :
    skipRequested store (before ++ (key, w) :: after) =
      skipRequested store (before ++ (key, v) :: after) := by
  unfold skipRequested
  by_cases hkey : key = "skip_step"
  · subst hkey
    rw [Members.get?_append, Members.get?_append]
    cases Members.get? "skip_step" before with
    | some u => rfl
    | none => simp [Members.get?, hv, hw, Except.map, h.flag?_eq (by decide)]
  · rw [Members.get?_append_cons_of_ne (Ne.symm hkey),
      Members.get?_append_cons_of_ne (Ne.symm hkey)]

/-- A resolved step with another payload runs alike if its operation does. -/
theorem perform_with_payload (config : Config) (index : Nat) (store : Store) {step : Step}
    {payload : List (String × Value)}
    (h : ∀ route, Route.ofStep step = .ok route →
      route.family.run config { step with payload } route.action =
        route.family.run config step route.action) :
    perform config index store { step with payload } = perform config index store step := by
  have hroute : Route.ofStep { step with payload } = Route.ofStep step := rfl
  unfold perform
  rw [hroute]
  cases hfound : Route.ofStep step with
  | error e => rfl
  | ok route =>
    have hrun : ∀ wait, Attempt.run config route { step with payload } wait =
        Attempt.run config route step wait := by
      intro wait
      unfold Attempt.run Attempt.once
      rw [h route hfound]
      rfl
    simp only [hrun]
    rfl

theorem CountedAlike.perform_eq (h : CountedAlike key step other)
    (hroutes : ∀ route, Route.ofStep step = .ok route → CountsBy key route) (config : Config)
    (index : Nat) (store : Store) :
    perform config index store other = perform config index store step := by
  obtain ⟨payload, hother⟩ := h.controls
  have hoperation : ∀ route, Route.ofStep step = .ok route →
      route.family.run config { step with payload } route.action =
        route.family.run config step route.action :=
    fun route hroute => hother ▸ h.operation route (hroutes route hroute) config
  rw [hother]
  exact perform_with_payload config index store hoperation

/-- Two values of a member that both resolve leave all others to decide whether the members do. -/
theorem resolveMembers_replaced {v' w' : Value} (hv : Placeholder.resolve store v = .ok v')
    (hw : Placeholder.resolve store w = .ok w') (before after : List (String × Value))
    (key : String) :
    (∃ e, Placeholder.resolveMembers store (before ++ (key, v) :: after) = .error e ∧
        Placeholder.resolveMembers store (before ++ (key, w) :: after) = .error e) ∨
      ∃ resolved others,
        Placeholder.resolveMembers store (before ++ (key, v) :: after) =
          .ok (resolved ++ (key, v') :: others) ∧
        Placeholder.resolveMembers store (before ++ (key, w) :: after) =
          .ok (resolved ++ (key, w') :: others) := by
  rw [Placeholder.resolveMembers_append, Placeholder.resolveMembers_append,
    Placeholder.resolveMembers, Placeholder.resolveMembers, hv, hw]
  cases Placeholder.resolveMembers store before with
  | error e => exact .inl ⟨e, rfl, rfl⟩
  | ok resolved =>
    cases Placeholder.resolveMembers store after with
    | error e => exact .inl ⟨e, rfl, rfl⟩
    | ok others => exact .inr ⟨resolved, others, rfl, rfl⟩

theorem Respelled.ofRawWith_alike (h : Respelled key typed s)
    (hv : Placeholder.resolve store v = .ok typed)
    (hw : Placeholder.resolve store w = .ok (.text s)) (before after : List (String × Value)) :
    Except.Alike (fun step other => other = step ∨ key ∈ countNames ∧ CountedAlike key step other)
      (ofRawWith store (before ++ (key, v) :: after))
      (ofRawWith store (before ++ (key, w) :: after)) := by
  rcases resolveMembers_replaced hv hw before after key with
    ⟨e, hraw, hother⟩ | ⟨resolved, others, hraw, hother⟩
  · rw [ofRawWith_of_resolveMembers_error hraw, ofRawWith_of_resolveMembers_error hother]
    exact .error
  · rw [ofRawWith_of_resolved hraw, ofRawWith_of_resolved hother]
    exact (h.ofRaw_alike resolved others).mapError ResolveError.badStep

theorem Respelled.runsAs (h : Respelled key typed s)
    (hv : Placeholder.resolve store v = .ok typed)
    (hw : Placeholder.resolve store w = .ok (.text s)) (before after : List (String × Value)) :
    Except.Alike
      (fun step _ =>
        RunsAs store key (before ++ (key, v) :: after) (before ++ (key, w) :: after) step)
      (ofRawWith store (before ++ (key, v) :: after))
      (ofRawWith store (before ++ (key, w) :: after)) := by
  have hlabel : ∀ index, rawLabel (before ++ (key, w) :: after) index =
      rawLabel (before ++ (key, v) :: after) index := by
    refine rawLabel_congr fun name hname => ?_
    have hne : name ≠ key := fun heq => h.not_mem_labelNames (heq ▸ hname)
    rw [Members.get?_append_cons_of_ne hne, Members.get?_append_cons_of_ne hne]
  have hskip := h.skipRequested_eq hv hw before after
  have halike := h.ofRawWith_alike hv hw before after
  generalize hraw : ofRawWith store (before ++ (key, v) :: after) = read at halike ⊢
  generalize hother : ofRawWith store (before ++ (key, w) :: after) = reread at halike ⊢
  cases halike with
  | error => exact .error
  | @ok step other hsteps =>
    refine .ok fun hroutes config index => ?_
    have hperform : perform config index store other = perform config index store step := by
      rcases hsteps with hsame | ⟨hkey, hcounted⟩
      · exact congrArg (perform config index store) hsame
      · exact hcounted.perform_eq (hroutes hkey) config index store
    unfold runRaw
    rw [hlabel, hskip, hraw, hother]
    simp only [hperform]

/-- A member in the form of a text is read like the number or the truth value that the text spells:
a number of retries is accepted or refused in both forms; an accepted step has the same number in a
payload field, for the operations that read it as one; and a flag gives the same step. So a step
whose member resolves to the text runs like one whose member resolves to the value. -/
theorem spelled_alike (before after : List (String × Value)) :
    (∀ (n : Nat) (hn : Number.InRange n) (s : String), SpellsNatural s n →
      Except.Alike Eq (ofRaw (before ++ ("retry", .number (.integer n hn)) :: after))
        (ofRaw (before ++ ("retry", .text s) :: after))) ∧
    (∀ key ∈ countNames, ∀ (n : Nat) (hn : Number.InRange n) (s : String), SpellsNatural s n →
      Except.Alike (CountedAlike key) (ofRaw (before ++ (key, .number (.integer n hn)) :: after))
        (ofRaw (before ++ (key, .text s) :: after))) ∧
    (∀ key ∈ flagNames, ∀ (b : Bool) (s : String), SpellsTruth s b →
      ofRaw (before ++ (key, .text s) :: after) = ofRaw (before ++ (key, .bool b) :: after)) ∧
    ∀ (store : Store) (key : String) (v w typed : Value) (s : String), Respelled key typed s →
      Placeholder.resolve store v = .ok typed → Placeholder.resolve store w = .ok (.text s) →
        Except.Alike
          (fun step _ =>
            RunsAs store key (before ++ (key, v) :: after) (before ++ (key, w) :: after) step)
          (ofRawWith store (before ++ (key, v) :: after))
          (ofRawWith store (before ++ (key, w) :: after)) :=
  ⟨fun _ hn _ hs => ofRaw_alike_of_retry hn hs before after,
    fun _ hkey _ hn _ hs => ofRaw_alike_of_count hkey hn hs before after,
    fun _ hkey _ _ hs => ofRaw_eq_of_flag hkey hs before after,
    fun _ _ _ _ _ _ h hv hw => h.runsAs hv hw before after⟩

/-- The members around one of a step that asks for an address. -/
def fetchBefore : List (String × Value) := [("action", .text "GET")]

def fetchAfter : List (String × Value) := [("end point", .text "http://localhost/orders")]

/-- Parameters with a status and with the end of one. -/
def statusStore : Store :=
  .ofPairs [("status", .ofInt 201), ("end", .text "01")]

theorem spelled_alike_fetch :
    let whole (key : String) (v : Value) := fetchBefore ++ (key, v) :: fetchAfter
    (SpellsNatural "\t4294967295 " 4294967295 ∧
        Except.Alike Eq (ofRaw (whole "retry" (.ofInt 4294967295)))
          (ofRaw (whole "retry" (.text "\t4294967295 ")))) ∧
      (SpellsNatural "65736\n" 65736 ∧
        Except.Alike (CountedAlike "status") (ofRaw (whole "status" (.ofInt 65736)))
          (ofRaw (whole "status" (.text "65736\n")))) ∧
      (SpellsTruth " tRUe" true ∧
        ofRaw (whole "return" (.text " tRUe")) = ofRaw (whole "return" (.bool true))) ∧
      Placeholder.resolve statusStore (.text "<<status>>") = .ok (.ofInt 201) ∧
      Placeholder.resolve statusStore (.text " 2<<end>>") = .ok (.text " 201") ∧
      ∀ config index,
        runRaw config index statusStore (whole "status" (.text " 2<<end>>")) =
          runRaw config index statusStore (whole "status" (.text "<<status>>")) := by
  intro whole
  have hretry : SpellsNatural "\t4294967295 " 4294967295 :=
    ⟨['\t'], [' '], by decide, List.all_eq_true.mp rfl, List.all_eq_true.mp rfl⟩
  have hstatus : SpellsNatural "65736\n" 65736 :=
    ⟨[], ['\n'], by decide, List.all_eq_true.mp rfl, List.all_eq_true.mp rfl⟩
  have hreturn : SpellsTruth " tRUe" true :=
    ⟨"tRUe".toList, by decide, [' '], [], by decide, List.all_eq_true.mp rfl,
      List.all_eq_true.mp rfl⟩
  have hcreated : SpellsNatural " 201" 201 :=
    ⟨[' '], [], by decide, List.all_eq_true.mp rfl, List.all_eq_true.mp rfl⟩
  have hnumber : Placeholder.resolve statusStore (.text "<<status>>") = .ok (.ofInt 201) := by rfl
  have htext : Placeholder.resolve statusStore (.text " 2<<end>>") = .ok (.text " 201") := by
    with_unfolding_all rfl
  have hcount : "status" ∈ countNames := by decide
  obtain ⟨hretries, hcounts, hflags, hruns⟩ := spelled_alike fetchBefore fetchAfter
  refine ⟨⟨hretry, hretries _ (by decide) _ hretry⟩,
    ⟨hstatus, hcounts "status" hcount _ (by decide) _ hstatus⟩,
    ⟨hreturn, hflags "return" (by decide) true _ hreturn⟩, hnumber, htext, ?_⟩
  have hrespelled : Respelled "status" (.ofInt 201) " 201" := .count hcount (by decide) hcreated
  have hstep : ofRawWith statusStore (whole "status" (.text "<<status>>")) =
      .ok { action := "GET", payload := ("status", .ofInt 201) :: fetchAfter } := by
    with_unfolding_all rfl
  have hroute : Route.find "GET" none = .ok ⟨.api, "get"⟩ := by decide +kernel
  have halike := hruns statusStore "status" _ _ _ _ hrespelled hnumber htext
  rw [hstep] at halike
  generalize ofRawWith statusStore (fetchBefore ++ ("status", .text " 2<<end>>") :: fetchAfter) =
    reread at halike
  cases halike with
  | ok hrun =>
    refine hrun fun _ route hfound => ?_
    cases hroute.symm.trans hfound
    exact .status "get"

/-- The largest number of retries is accepted in both forms, and the next one in neither. -/
example :
    ([.ofInt 4294967295, .text "\t4294967295 ", .ofInt 4294967296, .text "4294967296"].map fun v =>
      (ofRaw (fetchBefore ++ ("retry", v) :: fetchAfter)).toOption.map Step.retry) =
        [some 4294967295, some 4294967295, none, none] := by
  decide +kernel

end Step

end FlowRunner
