import FlowRunner.Proofs.Attempts

/-!
# Waiting for an event

`read_event` opens a subscription, takes one item after another until one decides, and closes the
subscription. What the backends have to give is a `Subscription`: asked for one item after another,
they give its items and then its end, or nothing more in time (`Subscription.Delivers`). Backends
always have some subscription to give, since patience runs out (`Subscription.exists_delivers`).

The first item that is a failure or an event that passes the filter decides, and nothing behind it
is taken; without such an item the end of the stream decides, or that it falls silent
(`Event.listen_heard`). The subscription is closed once, whatever was heard and whatever comes of
closing it (`Event.awaits_subscription`).
-/

namespace FlowRunner

open Event (Heard)

/-- What an item is, whatever the patience with which it was waited for. -/
def Arrival.heard {left : Patience} : Arrival left → Heard
  | .event value _ _ _ => .event value
  | .ended => .ended
  | .late => .late

/-- What was heard, when a subscription was asked for an item. -/
def Exchange.heard? : Exchange → Option (Except BackendError Heard)
  | ⟨.nextEvent _, reply⟩ => some (reply.map Arrival.heard)
  | _ => none

/-- What a subscription has to give: events and failures, and then the end of the stream, or
silence. -/
structure Subscription where
  items : List (Except BackendError Value)
  ends : Bool

namespace Subscription

/-- What backends give to a program that asks for one item after another, starting in a state with
some patience. Behind a failure it does not ask for more. -/
inductive Delivers {σ : Type} (answer : Backends σ) : Patience → σ → Subscription → Prop
  | silent {left : Patience} {s : σ} (h : (answer (.nextEvent left) s).1 = .ok .late) :
    Delivers answer left s ⟨[], false⟩
  | ended {left : Patience} {s : σ} (h : (answer (.nextEvent left) s).1 = .ok .ended) :
    Delivers answer left s ⟨[], true⟩
  | failure {left : Patience} {s : σ} {e : BackendError}
    (h : (answer (.nextEvent left) s).1 = .error e) (later : List (Except BackendError Value))
    (ends : Bool) : Delivers answer left s ⟨.error e :: later, ends⟩
  | event {left : Patience} {s : σ} {value : Value} {spent : Duration} {atHand : Nat}
    {hallows : left.Allows spent atHand} {later : List (Except BackendError Value)} {ends : Bool}
    (h : (answer (.nextEvent left) s).1 = .ok (.event value spent atHand hallows))
    (hlater : Delivers answer (left.after spent atHand) (answer (.nextEvent left) s).2
      ⟨later, ends⟩) :
    Delivers answer left s ⟨.ok value :: later, ends⟩

/-- Whatever the backends are, they give some subscription. -/
theorem exists_delivers {σ : Type} (answer : Backends σ) (left : Patience) (s : σ) :
    ∃ sub, Delivers answer left s sub := by
  induction left using Patience.induction generalizing s with
  | step left ih =>
    cases h : (answer (.nextEvent left) s).1 with
    | error e => exact ⟨_, .failure h [] false⟩
    | ok arrival =>
      cases arrival with
      | late => exact ⟨_, .silent h⟩
      | ended => exact ⟨_, .ended h⟩
      | event value spent atHand hallows =>
        obtain ⟨⟨later, ends⟩, hlater⟩ := ih spent atHand hallows (answer (.nextEvent left) s).2
        exact ⟨_, .event h hlater⟩

/-- Whether an item decides what comes of the waiting. -/
def decides (filter : List (String × Value)) : Except BackendError Value → Bool
  | .ok event => Event.passes filter event
  | .error _ => true

/-- The item that decides, if there is one. -/
def decisive? (sub : Subscription) (filter : List (String × Value)) :
    Option (Except BackendError Value) :=
  sub.items.find? (decides filter)

/-- What is heard when there are no more items. -/
def parting (sub : Subscription) : Heard :=
  if sub.ends then .ended else .late

/-- What is taken of a subscription: the items up to the one that decides; without such an item all
of them, and then the end or the silence. -/
def taken (sub : Subscription) (filter : List (String × Value)) :
    List (Except BackendError Heard) :=
  (sub.items.map (Except.map Heard.event) ++ [Except.ok sub.parting]).take
    (sub.items.findIdx (decides filter) + 1)

/-- What comes of waiting for an event. -/
def verdict (sub : Subscription) (filter : List (String × Value)) : Except BackendError Heard :=
  match sub.decisive? filter with
  | some item => item.map .event
  | none => .ok sub.parting

/-- What an operation that waits for an event ends with. -/
def outcome (sub : Subscription) (topic : String) (filter : List (String × Value)) :
    Except Failure Value :=
  match sub.decisive? filter with
  | some (.ok event) => .ok event
  | some (.error e) => .error (.backend e)
  | none =>
    if sub.ends then
      .error (.backend (.messaging
        ("Subscription to " ++ topic ++ " ended before a matching message arrived")))
    else .error (.timeout ("Timeout waiting for message on " ++ topic))

theorem resultOf_verdict (sub : Subscription) (topic : String) (filter : List (String × Value)) :
    Event.resultOf topic (sub.verdict filter) = sub.outcome topic filter := by
  unfold verdict outcome parting
  cases sub.decisive? filter with
  | none => cases sub.ends <;> rfl
  | some item => cases item <;> rfl

section

variable {filter : List (String × Value)} {item : Except BackendError Value}
  {later : List (Except BackendError Value)} {ends : Bool}

theorem taken_of_decides (h : decides filter item = true) :
    (mk (item :: later) ends).taken filter = [item.map .event] := by
  simp [taken, List.findIdx_cons, h]

theorem verdict_of_decides (h : decides filter item = true) :
    (mk (item :: later) ends).verdict filter = item.map .event := by
  simp [verdict, decisive?, h]

theorem taken_of_not_decides (h : ¬ decides filter item = true) :
    (mk (item :: later) ends).taken filter = item.map .event :: (mk later ends).taken filter := by
  simp [taken, List.findIdx_cons, h, parting]

theorem verdict_of_not_decides (h : ¬ decides filter item = true) :
    (mk (item :: later) ends).verdict filter = (mk later ends).verdict filter := by
  simp [verdict, decisive?, h, parting]

end

end Subscription

namespace Event

open Subscription (Delivers)

variable {σ : Type} {answer : Backends σ}

/-- The items are taken one by one up to the one that decides, and nothing else is asked for. -/
theorem listen_heard (filter : List (String × Value)) {left : Patience} {s : σ} {sub : Subscription}
    (h : Delivers answer left s sub) :
    ((listen filter left).history answer s).map Exchange.heard? =
        (sub.taken filter).map some ∧
      ((listen filter left).run answer s).1 = sub.verdict filter := by
  induction h with
  | silent h =>
    rw [listen]
    simp only [Script.history, Script.run, h]
    exact ⟨rfl, rfl⟩
  | ended h =>
    rw [listen]
    simp only [Script.history, Script.run, h]
    exact ⟨rfl, rfl⟩
  | @failure left s e h later ends =>
    have hdecides : Subscription.decides filter (.error e) = true := rfl
    rw [listen, Subscription.taken_of_decides hdecides, Subscription.verdict_of_decides hdecides]
    simp only [Script.history, Script.run, h]
    exact ⟨rfl, rfl⟩
  | @event left s value spent atHand hallows later ends h hlater ih =>
    rw [listen]
    simp only [Script.history, Script.run, h]
    by_cases hpasses : passes filter value = true
    · have hdecides : Subscription.decides filter (.ok value) = true := hpasses
      rw [if_pos hpasses, Subscription.taken_of_decides hdecides,
        Subscription.verdict_of_decides hdecides]
      exact ⟨rfl, rfl⟩
    · have hdecides : ¬ Subscription.decides filter (.ok value) = true := hpasses
      rw [if_neg hpasses, Subscription.taken_of_not_decides hdecides,
        Subscription.verdict_of_not_decides hdecides]
      rw [List.map_cons, List.map_cons, ih.1]
      exact ⟨rfl, ih.2⟩

/-- The group that a step joins. -/
def groupOf (config : Config.Kafka) (step : Step) : String :=
  (step.text? "group_id").getD config.defaultGroupId

/-- The patience of an operation that waits for an event. -/
def patienceOf (config : Config.Kafka) : Patience :=
  .start (.ofSecs config.readTimeoutSecs)

theorem run_await {config : Config.Kafka} {step : Step} {topic : String}
    (htopic : step.text? "topic" = some topic) :
    (await config step).run = .ask (.subscribe topic (groupOf config step)) fun reply =>
      match reply with
      | .error e => .done (.error (.backend e))
      | .ok _ => (listen (filterOf step) (patienceOf config)).bind fun heard =>
          .ask .close fun _ => .done (resultOf topic heard) := by
  unfold await Program.required
  rw [htopic]
  refine congrArg (Script.ask _) (funext fun reply => ?_)
  cases reply with
  | error e => rfl
  | ok _ =>
    change ((listen (filterOf step) (patienceOf config)).bind _).bind _ = _
    rw [Script.bind_assoc]
    rfl

/-- An operation that has subscribed takes what the subscription gives up to the item that decides,
and nothing behind it. It closes the subscription once, and what it ends with depends on what
decided alone. -/
theorem awaits_subscription {config : Config} {step : Step} {topic : String} {s opened : σ}
    {sub : Subscription} (htopic : step.text? "topic" = some topic)
    (hopen : answer (.subscribe topic (groupOf config.kafka step)) s = (.ok (), opened))
    (hdelivers : Delivers answer (patienceOf config.kafka) opened sub) :
    ∃ asked last, asked.map Exchange.heard? = (sub.taken (filterOf step)).map some ∧
      (Attempt.invocation config ⟨.messaging, "read_event"⟩ step).history answer s =
        ⟨.subscribe topic (groupOf config.kafka step), .ok ()⟩ ::
          (asked ++ [⟨.close, (answer .close last).1⟩]) ∧
      (Attempt.invocation config ⟨.messaging, "read_event"⟩ step).run answer s =
        (sub.outcome topic (filterOf step), (answer .close last).2) := by
  obtain ⟨hheard, hverdict⟩ := listen_heard (filterOf step) hdelivers
  refine ⟨_, ((listen (filterOf step) (patienceOf config.kafka)).run answer opened).2, hheard,
    ?_, ?_⟩
  · change (await config.kafka step).run.history answer s = _
    rw [run_await htopic]
    simp only [Script.history, hopen, Script.history_bind]
  · change (await config.kafka step).run.run answer s = _
    rw [run_await htopic]
    simp only [Script.run, hopen, Script.run_bind]
    rw [hverdict, Subscription.resultOf_verdict]

end Event

/-! ## Subscriptions of a stage -/

namespace Subscription

/-- A subscription with one more item, before the others. -/
def cons (item : Except BackendError Value) (sub : Subscription) : Subscription :=
  ⟨item :: sub.items, sub.ends⟩

/-- What deliveries amount to: the items up to the end of the stream, if it comes. -/
def ofDeliveries : List Delivery → Subscription
  | [] => ⟨[], false⟩
  | ⟨_, .ok none⟩ :: _ => ⟨[], true⟩
  | ⟨_, .ok (some event)⟩ :: later => (ofDeliveries later).cons (.ok event)
  | ⟨_, .error e⟩ :: later => (ofDeliveries later).cons (.error e)

end Subscription

namespace Stage

/-- The milliseconds after which everything is delivered. -/
def deliveryMillis : List Delivery → Nat
  | [] => 0
  | delivery :: later => delivery.after.millisUp + deliveryMillis later

theorem subscribe_of_opens {s : Stage} {script : EventScript} (hevents : s.events = some script)
    (hopens : (nextFailure script.subscribeFailures).1 = none) (effect : Effect) :
    ∃ opened, s.subscribe effect = (.ok (), opened) ∧
      opened.events.map EventScript.pending = some (script.subscriptions.head?.getD []) := by
  unfold subscribe
  rw [hevents]
  dsimp only
  rw [hopens]
  exact ⟨_, rfl, rfl⟩

/-- A span of milliseconds for which there is time has time for its first part, and then for the
rest. -/
theorem millisUp_le_of_span {time : Duration} {first rest : Nat}
    (h : (Duration.ofMillis (first + rest)).nanos ≤ time.nanos) :
    first ≤ time.millisUp ∧ (Duration.ofMillis first).nanos ≤ time.nanos ∧
      (Duration.ofMillis rest).nanos ≤ (time.minus (.ofMillis first)).nanos := by
  simp only [Duration.ofMillis, Duration.millisUp, Duration.minus] at h ⊢
  omega

/-- The next delivery comes in time, if there is time for it. -/
theorem nextEvent_of_pending {delivery : Delivery} {later : List Delivery} {left : Patience}
    {s : Stage} (hpending : s.events.map EventScript.pending = some (delivery :: later))
    (htime : delivery.after.millisUp ≤ left.time.millisUp) :
    ∃ t, t.events.map EventScript.pending = some later ∧
      s.nextEvent left = (match delivery.content with
        | .error e => .error e
        | .ok none => .ok .ended
        | .ok (some event) =>
          .ok (.ofEvent left event (.ofMillis delivery.after.millisUp) later.length), t) := by
  obtain ⟨script, hevents, hscript⟩ := Option.map_eq_some_iff.mp hpending
  unfold nextEvent
  rw [hevents]
  dsimp only
  rw [hscript]
  dsimp only
  rw [if_neg (Nat.not_lt.mpr htime)]
  cases delivery.content with
  | error e => exact ⟨_, rfl, rfl⟩
  | ok content => cases content <;> exact ⟨_, rfl, rfl⟩

/-- An open subscription gives what is pending, if there is time for all of it. -/
theorem delivers_pending {deliveries : List Delivery} {left : Patience} {s : Stage}
    (hpending : s.events.map EventScript.pending = some deliveries)
    (htime : (Duration.ofMillis (deliveryMillis deliveries)).nanos ≤ left.time.nanos)
    (hatHand : ∀ n ∈ left.atHand, deliveries.length ≤ n) :
    Subscription.Delivers answer left s (.ofDeliveries deliveries) := by
  induction deliveries generalizing left s with
  | nil =>
    obtain ⟨script, hevents, hnone⟩ := Option.map_eq_some_iff.mp hpending
    refine .silent ?_
    simp only [answer, nextEvent, hevents, hnone]
  | cons delivery later ih =>
    obtain ⟨after, content⟩ := delivery
    have hspan : deliveryMillis (⟨after, content⟩ :: later) =
        after.millisUp + deliveryMillis later := rfl
    rw [hspan] at htime
    obtain ⟨hmillis, hspent, hrest⟩ := millisUp_le_of_span htime
    obtain ⟨t, ht, hnext⟩ := nextEvent_of_pending hpending hmillis
    have hreply : answer (.nextEvent left) s = _ := hnext
    match content with
    | .error e => exact .failure (congrArg Prod.fst hreply) _ _
    | .ok none => exact .ended (congrArg Prod.fst hreply)
    | .ok (some event) =>
      have hallows : left.Allows (.ofMillis after.millisUp) later.length :=
        ⟨hspent, fun _ n hn => hatHand n hn⟩
      simp only [Arrival.ofEvent, dif_pos hallows] at hreply
      refine .event (congrArg Prod.fst hreply) ?_
      rw [hreply]
      exact ih ht hrest fun n hn => (Option.some.inj hn).le

end Stage

namespace Event

open Subscription (Delivers)

/-- A step that waits for an event with a given value. -/
def readOrder : Step where
  action := "read_event"
  payload := [("topic", .text "orders"), ("event", .object [("order.id", .ofInt 7)])]

/-- An event about an order. -/
def orderEvent (id : Int) : Value :=
  .object [("order", .object [("id", .ofInt id)])]

/-- Two events, a failure, and the end of the stream. -/
def orders : List Delivery :=
  [⟨.zero, .ok (some (orderEvent 6))⟩, ⟨.ofMillis 5, .ok (some (orderEvent 7))⟩,
    ⟨.ofMillis 5, .error (.messaging "broken")⟩, ⟨.zero, .ok none⟩]

/-- Events that play the subscription, which cannot be closed. -/
def orderScript : EventScript where
  publishFailures := []
  subscribeFailures := []
  closeFailures := [some (.messaging "still open")]
  subscriptions := [orders]
  pending := []
  closing := none

/-- A stage with these events. -/
def orderStage : Stage :=
  { Stage.empty with events := some orderScript }

theorem awaits_subscription_orders :
    ∃ asked last, asked.map Exchange.heard? =
        [some (.ok (.event (orderEvent 6))), some (.ok (.event (orderEvent 7)))] ∧
      (Attempt.invocation {} ⟨.messaging, "read_event"⟩ readOrder).history Stage.answer orderStage =
        ⟨.subscribe "orders" "automation-consumer-group", .ok ()⟩ ::
          (asked ++ [⟨.close, (Stage.answer .close last).1⟩]) ∧
      (Attempt.invocation {} ⟨.messaging, "read_event"⟩ readOrder).run Stage.answer orderStage =
        (.ok (orderEvent 7), (Stage.answer .close last).2) := by
  have htopic : readOrder.text? "topic" = some "orders" := rfl
  have hevents : orderStage.events = some orderScript := rfl
  obtain ⟨opened, hopened, hpending⟩ := Stage.subscribe_of_opens hevents rfl
    (.subscribe "orders" "automation-consumer-group")
  have hdelivers : Delivers Stage.answer (patienceOf ({} : Config).kafka) opened
      (.ofDeliveries orders) :=
    Stage.delivers_pending hpending (by decide) fun n hn => nomatch hn
  exact awaits_subscription htopic hopened hdelivers

end Event

end FlowRunner
