import Stepwise.Delivery.Subscription
import Stepwise.Log

/-!
# Dispatchers

A dispatcher delivers events to a subscriber. An event runs all handlers of its kind,
one after the other, until one of them fails.
-/

namespace Stepwise

/-- Why an event was not delivered. -/
inductive DeliveryError
  /-- It arrived while another event was being handled. -/
  | reentrant (kind : EventKind)
  /-- A handler could not write its output. -/
  | output (text : String)
deriving DecidableEq, Repr

def DeliveryError.message : DeliveryError → String
  | reentrant kind =>
      "`" ++ kind.name ++ "` event delivered while another event is being handled"
  | output text => "Failed to write output: " ++ text

/-- What a handler leaves behind: the subscriber, the text of its error if it failed,
and what it logged. -/
structure Handled (σ : Type) where
  subscriber : σ
  failure : Option String := none
  log : List LogEntry := []

/-- What a subscriber does about an event. -/
abbrev Handler (σ : Type) := σ → Event → Handled σ

/-- What a delivery leaves behind: the receiver, its result, and what was logged. -/
structure Delivery (ρ : Type) where
  receiver : ρ
  result : Except DeliveryError Unit
  log : List LogEntry

variable {σ : Type}

/-- Runs handlers in order until one of them fails. -/
def runHandlers (event : Event) : List (Handler σ) → σ → Handled σ
  | [], subscriber => { subscriber }
  | handler :: rest, subscriber =>
      let first := handler subscriber event
      match first.failure with
      | some _ => first
      | none =>
          let others := runHandlers event rest first.subscriber
          { others with log := first.log ++ others.log }

/-- The result of a delivery whose handlers ended with or without a failure. -/
def resultOf : Option String → Except DeliveryError Unit
  | none => .ok ()
  | some text => .error (.output text)

def deliverTo (handlers : List (Handler σ)) (subscriber : σ) (event : Event) : Delivery σ :=
  match handlers with
  | [] => { receiver := subscriber, result := .ok (), log := [.noHandlers event.kind] }
  | handlers =>
      let handled := runHandlers event handlers subscriber
      { receiver := handled.subscriber
        result := resultOf handled.failure
        log := .dispatching event.kind handlers.length :: handled.log }

/-- A subscriber and its subscriptions as they are declared. -/
structure Dispatcher (σ : Type) where
  subscriptions : List (Subscription (Handler σ))
  subscriber : σ

namespace Dispatcher

/-- The handlers of a kind of event in the order in which they run. -/
def handlers (dispatcher : Dispatcher σ) (kind : EventKind) : List (Handler σ) :=
  (Subscription.arranged dispatcher.subscriptions kind).map (·.handler)

def deliver (dispatcher : Dispatcher σ) (event : Event) : Delivery (Dispatcher σ) :=
  let delivery := deliverTo (dispatcher.handlers event.kind) dispatcher.subscriber event
  { delivery with receiver := { dispatcher with subscriber := delivery.receiver } }

end Dispatcher

end Stepwise
