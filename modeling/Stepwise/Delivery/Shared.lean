import Stepwise.Delivery.Dispatcher

/-!
# Shared dispatchers

A dispatcher that is shared may be asked to deliver an event while it delivers another
one. It refuses, so that no event is handled in the middle of another one. Main
statement: however deep deliveries are nested, each of them is an ordinary delivery.
-/

namespace Stepwise

/-- What a handler does that may deliver events and look at the subscriber through the
shared dispatcher. While it does, the subscriber is as far as the handler got. -/
inductive Action (σ : Type)
  /-- The handler ends. -/
  | finish (handled : Handled σ)
  /-- The handler delivers an event and goes on with the subscriber and the result. -/
  | deliver (subscriber : σ) (event : Event)
      (next : σ → Except DeliveryError Unit → Action σ)
  /-- The handler looks at the subscriber and goes on with what it sees, if anything. -/
  | inspect (subscriber : σ) (next : Option σ → Action σ)

/-- A dispatcher that several handles share. -/
structure Shared (σ : Type) where
  subscriptions : List (Subscription (σ → Event → Action σ))
  subscriber : σ
  /-- Whether an event is being delivered. -/
  busy : Bool := false
  /-- The number of handles. -/
  handles : Nat := 1

namespace Shared

variable {σ : Type}

/-- The subscriber, unless an event is being delivered. -/
def inspect? (shared : Shared σ) : Option σ :=
  if shared.busy then none else some shared.subscriber

/-- Performs what a handler does; `nested` is how it delivers events. -/
def perform (nested : Shared σ → Event → Delivery (Shared σ)) :
    Action σ → Shared σ → Handled (Shared σ)
  | .finish handled, shared =>
      { handled with subscriber := { shared with subscriber := handled.subscriber } }
  | .deliver subscriber event next, shared =>
      let inner := nested { shared with subscriber := subscriber } event
      let rest := perform nested (next inner.receiver.subscriber inner.result) inner.receiver
      { rest with log := inner.log ++ rest.log }
  | .inspect subscriber next, shared =>
      let seen := { shared with subscriber := subscriber }
      perform nested (next seen.inspect?) seen

/-- A handler of a subscriber as a handler of its shared dispatcher. -/
def handlerOf (nested : Shared σ → Event → Delivery (Shared σ))
    (handler : σ → Event → Action σ) : Handler (Shared σ) :=
  fun shared event => perform nested (handler shared.subscriber event) shared

/-- The handlers of a kind of event in the order in which they run. -/
def handlers (nested : Shared σ → Event → Delivery (Shared σ)) (shared : Shared σ)
    (kind : EventKind) : List (Handler (Shared σ)) :=
  (Subscription.arranged shared.subscriptions kind).map fun sub =>
    handlerOf nested sub.handler

def refuse (shared : Shared σ) (event : Event) : Delivery (Shared σ) where
  receiver := shared
  result := .error (.reentrant event.kind)
  log := [.rejectedDelivery event.kind]

/-- Delivers an event unless another one is being delivered; `nested` is how handlers
deliver events. -/
def deliverVia (nested : Shared σ → Event → Delivery (Shared σ)) (shared : Shared σ)
    (event : Event) : Delivery (Shared σ) :=
  if shared.busy then refuse shared event
  else
    let delivery :=
      deliverTo (handlers nested shared event.kind) { shared with busy := true } event
    { delivery with receiver := { delivery.receiver with busy := false } }

/-- Delivers an event unless another one is being delivered. What a handler delivers is
refused, so that deliveries need not be followed any deeper. -/
def deliver (shared : Shared σ) (event : Event) : Delivery (Shared σ) :=
  deliverVia (deliverVia refuse) shared event

/-- Adds a handle. -/
def share (shared : Shared σ) : Shared σ :=
  { shared with handles := shared.handles + 1 }

/-- Gives a handle up. -/
def release (shared : Shared σ) : Shared σ :=
  { shared with handles := shared.handles - 1 }

/-- The subscriber, if only one handle is left. -/
def unwrap? (shared : Shared σ) : Option σ :=
  if shared.handles = 1 then some shared.subscriber else none

/-- Lets a handler that delivers no events itself act for a shared dispatcher. -/
def ofDispatcher (dispatcher : Dispatcher σ) : Shared σ where
  subscriptions := dispatcher.subscriptions.map fun sub =>
    { sub with handler := fun subscriber event => .finish (sub.handler subscriber event) }
  subscriber := dispatcher.subscriber

theorem deliverVia_of_busy (nested : Shared σ → Event → Delivery (Shared σ))
    (shared : Shared σ) (h : shared.busy = true) (event : Event) :
    deliverVia nested shared event = refuse shared event := by
  simp [deliverVia, h]

/-- A busy dispatcher stays busy whatever a handler does. -/
theorem busy_perform (nested : Shared σ → Event → Delivery (Shared σ)) (action : Action σ)
    (shared : Shared σ) (h : shared.busy = true) :
    (perform (deliverVia nested) action shared).subscriber.busy = true := by
  induction action generalizing shared with
  | finish handled => exact h
  | deliver subscriber event next ih =>
      simp only [perform]
      rw [deliverVia_of_busy nested { shared with subscriber := subscriber } h]
      exact ih _ _ _ h
  | inspect subscriber next ih => exact ih _ _ h

/-- While a dispatcher is busy, it does not matter how nested deliveries would be
handled. -/
theorem perform_congr (f g : Shared σ → Event → Delivery (Shared σ)) (action : Action σ)
    (shared : Shared σ) (h : shared.busy = true) :
    perform (deliverVia f) action shared = perform (deliverVia g) action shared := by
  induction action generalizing shared with
  | finish handled => rfl
  | deliver subscriber event next ih =>
      simp only [perform]
      rw [deliverVia_of_busy f { shared with subscriber := subscriber } h,
        deliverVia_of_busy g { shared with subscriber := subscriber } h]
      rw [ih _ _ (refuse { shared with subscriber := subscriber } event).receiver h]
  | inspect subscriber next ih =>
      simp only [perform]
      exact ih _ _ h

theorem runHandlers_congr (f g : Shared σ → Event → Delivery (Shared σ)) (event : Event)
    (subs : List (Subscription (σ → Event → Action σ))) (shared : Shared σ)
    (h : shared.busy = true) :
    runHandlers event (subs.map fun sub => handlerOf (deliverVia f) sub.handler) shared =
      runHandlers event (subs.map fun sub => handlerOf (deliverVia g) sub.handler) shared := by
  induction subs generalizing shared with
  | nil => rfl
  | cons sub rest ih =>
      simp only [List.map_cons, runHandlers, handlerOf]
      rw [perform_congr f g (sub.handler shared.subscriber event) shared h,
        ih _ (busy_perform g (sub.handler shared.subscriber event) shared h)]

/-- However deep deliveries are nested, each of them is an ordinary delivery. -/
theorem deliver_eq_deliverVia (shared : Shared σ) (event : Event) :
    deliver shared event = deliverVia deliver shared event := by
  have inner : (deliver : Shared σ → Event → Delivery (Shared σ)) =
      deliverVia (deliverVia refuse) := rfl
  rw [inner]
  cases hbusy : shared.busy with
  | true => simp [deliverVia, hbusy]
  | false =>
      simp only [deliverVia, hbusy, handlers, Bool.false_eq_true, if_false]
      cases Subscription.arranged shared.subscriptions event.kind with
      | nil => rfl
      | cons sub rest =>
          have same := runHandlers_congr refuse (deliverVia refuse) event (sub :: rest)
            { shared with busy := true } rfl
          simp only [List.map_cons] at same
          simp only [deliverTo, List.map_cons]
          rw [same, List.length_cons, List.length_cons, List.length_map, List.length_map]

end Shared

end Stepwise
