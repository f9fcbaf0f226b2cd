import Stepwise.Delivery.Shared

/-!
# Deliveries inside deliveries

A handler of a shared dispatcher may deliver events and look at the subscriber through any of
its handles. Main statement: each event that it delivers is refused, it never sees the
subscriber, and apart from that the shared dispatcher is a plain one, which takes the next
event after every delivery, whether a handler failed or not.
-/

namespace Stepwise

variable {σ τ η θ α ρ ρ' : Type}

/-! Plain data that goes along. -/

def Subscription.mapHandler (f : η → θ) (sub : Subscription η) : Subscription θ :=
  { sub with handler := f sub.handler }

/-- Subscriptions of which each handler knows its position. -/
def Subscription.numbered (subs : List (Subscription η)) : List (Subscription (Nat × η)) :=
  subs.zipIdx.map fun (sub, i) => sub.mapHandler (Prod.mk i)

theorem Subscription.map_numbered (subs : List (Subscription η)) :
    (numbered subs).map (mapHandler Prod.snd) = subs := by
  rw [numbered, List.map_map]
  exact List.zipIdx_map_fst 0 subs

/-- The order of handlers does not depend on what they do. -/
theorem Subscription.arranged_map (f : η → θ) (subs : List (Subscription η)) (kind : EventKind) :
    arranged (subs.map (mapHandler f)) kind = (arranged subs kind).map (mapHandler f) := by
  rw [arranged, List.filter_map, arranged, List.map_mergeSort]
  · rfl
  · exact fun a _ b _ => rfl

/-- What a handler leaves behind, with another view of the subscriber. -/
def Handled.map (f : σ → τ) (handled : Handled σ) : Handled τ :=
  { handled with subscriber := f handled.subscriber }

/-- What a delivery leaves behind, with another view of the receiver. -/
def Delivery.map (f : ρ → ρ') (delivery : Delivery ρ) : Delivery ρ' :=
  { delivery with receiver := f delivery.receiver }

/-- Handlers that do the same on two views of a subscriber do the same one after the other. -/
theorem runHandlers_map (f : α → Handler σ) (g : α → Handler τ) (view : σ → τ) (event : Event)
    (h : ∀ a s, g a (view s) event = (f a s event).map view) (l : List α) (s : σ) :
    runHandlers event (l.map g) (view s) = (runHandlers event (l.map f) s).map view := by
  induction l generalizing s with
  | nil => rfl
  | cons a rest ih =>
      rw [List.map_cons, List.map_cons, runHandlers, runHandlers, h]
      cases hfailure : (f a s event).failure with
      | some text => simp only [Handled.map, hfailure]
      | none =>
          simp only [Handled.map, hfailure] at ih ⊢
          rw [ih]

theorem deliverTo_map (f : α → Handler σ) (g : α → Handler τ) (view : σ → τ) (event : Event)
    (h : ∀ a s, g a (view s) event = (f a s event).map view) (l : List α) (s : σ) :
    deliverTo (l.map g) (view s) event = (deliverTo (l.map f) s event).map view := by
  cases l with
  | nil => rfl
  | cons a rest =>
      have hrun := runHandlers_map f g view event h (a :: rest) s
      rw [List.map_cons, List.map_cons] at hrun ⊢
      simp only [deliverTo, hrun, List.length_cons, List.length_map]
      rfl

/-- What every handler keeps is kept by all of them. -/
theorem runHandlers_keeps {P : σ → Prop} {event : Event} {handlers : List (Handler σ)}
    (h : ∀ handler ∈ handlers, ∀ s, P s → P (handler s event).subscriber) {s : σ} (hs : P s) :
    P (runHandlers event handlers s).subscriber := by
  induction handlers generalizing s with
  | nil => exact hs
  | cons handler rest ih =>
      have hfirst := h handler List.mem_cons_self s hs
      rw [runHandlers]
      cases (handler s event).failure with
      | some text => exact hfirst
      | none => exact ih (fun g hg => h g (List.mem_cons_of_mem handler hg)) hfirst

theorem deliverTo_keeps {P : σ → Prop} {event : Event} {handlers : List (Handler σ)}
    (h : ∀ handler ∈ handlers, ∀ s, P s → P (handler s event).subscriber) {s : σ} (hs : P s) :
    P (deliverTo handlers s event).receiver := by
  cases handlers with
  | nil => exact hs
  | cons handler rest => exact runHandlers_keeps h hs

/-- A handler that fails does not refuse an event. -/
theorem resultOf_ne_reentrant (failure : Option String) (kind : EventKind) :
    resultOf failure ≠ .error (.reentrant kind) := by
  cases failure with
  | none => exact nofun
  | some text => simp [resultOf]

/-! Requests through handles. -/

/-- What is asked of a dispatcher from outside, through any of its handles. -/
inductive Request
  | deliver (event : Event)
  | inspect
  | share
  | release

/-- The answer to a request. -/
inductive Answer (σ : Type)
  | delivered (result : Except DeliveryError Unit) (log : List LogEntry)
  | inspected (seen : Option σ)
  | done

/-- An answer with another view of the subscriber. -/
def Answer.map (f : σ → τ) : Answer σ → Answer τ
  | delivered result log => delivered result log
  | inspected seen => inspected (seen.map f)
  | done => done

/-- The request was taken: an event was not refused, and the subscriber was seen. -/
def Answer.Accepted : Answer σ → Prop
  | delivered result _ => ∀ kind, result ≠ .error (.reentrant kind)
  | inspected seen => seen.isSome = true
  | done => True

/-- Serves requests one after the other. -/
def serveAll (serve : ρ → Request → ρ × Answer σ) (receiver : ρ) :
    List Request → ρ × List (Answer σ)
  | [] => (receiver, [])
  | request :: rest =>
      let served := serve receiver request
      let others := serveAll serve served.1 rest
      (others.1, served.2 :: others.2)

/-- Receivers that serve each request alike serve all of them alike. -/
theorem serveAll_map {serve : ρ → Request → ρ × Answer σ} {serve' : ρ' → Request → ρ' × Answer τ}
    {I : ρ → Prop} (view : ρ → ρ') (f : Answer σ → Answer τ)
    (h : ∀ r request, I r →
      I (serve r request).1 ∧
        serve' (view r) request = (view (serve r request).1, f (serve r request).2))
    (requests : List Request) {r : ρ} (hr : I r) :
    I (serveAll serve r requests).1 ∧
      serveAll serve' (view r) requests =
        (view (serveAll serve r requests).1, (serveAll serve r requests).2.map f) := by
  induction requests generalizing r with
  | nil => exact ⟨hr, rfl⟩
  | cons request rest ih =>
      obtain ⟨hnext, hserve⟩ := h r request hr
      obtain ⟨hlast, hrest⟩ := ih hnext
      refine ⟨hlast, ?_⟩
      simp only [serveAll, hserve, hrest, List.map_cons]

namespace Dispatcher

/-- Serves a request without any handles: the subscriber can always be seen. -/
def serve (dispatcher : Dispatcher σ) : Request → Dispatcher σ × Answer σ
  | .deliver event =>
      let delivery := dispatcher.deliver event
      (delivery.receiver, .delivered delivery.result delivery.log)
  | .inspect => (dispatcher, .inspected (some dispatcher.subscriber))
  | .share => (dispatcher, .done)
  | .release => (dispatcher, .done)

theorem accepted_serve (dispatcher : Dispatcher σ) (request : Request) :
    (dispatcher.serve request).2.Accepted := by
  cases request with
  | deliver event =>
      intro kind
      change (deliverTo (dispatcher.handlers event.kind) dispatcher.subscriber event).result ≠ _
      cases dispatcher.handlers event.kind with
      | nil => exact nofun
      | cons handler rest => exact resultOf_ne_reentrant _ kind
  | inspect => rfl
  | share => trivial
  | release => trivial

theorem accepted_serveAll (dispatcher : Dispatcher σ) (requests : List Request) :
    ∀ answer ∈ (serveAll serve dispatcher requests).2, answer.Accepted := by
  induction requests generalizing dispatcher with
  | nil => exact fun answer h => absurd h List.not_mem_nil
  | cons request rest ih =>
      intro answer h
      rcases List.mem_cons.mp h with rfl | h
      · exact dispatcher.accepted_serve request
      · exact ih (dispatcher.serve request).1 answer h

end Dispatcher

/-- What a handler does if each event that it delivers is refused and it never sees the
subscriber. -/
def Action.answered : Action σ → Handled σ
  | finish handled => handled
  | deliver subscriber event next =>
      let rest := (next subscriber (.error (.reentrant event.kind))).answered
      { rest with log := .rejectedDelivery event.kind :: rest.log }
  | inspect _ next => (next none).answered

/-- A handler that is always answered so. -/
def answeredHandler (handler : σ → Event → Action σ) : Handler σ :=
  fun subscriber event => (handler subscriber event).answered

namespace Shared

def serve (shared : Shared σ) : Request → Shared σ × Answer σ
  | .deliver event =>
      let delivery := shared.deliver event
      (delivery.receiver, .delivered delivery.result delivery.log)
  | .inspect => (shared, .inspected shared.inspect?)
  | .share => (shared.share, .done)
  | .release => (shared.release, .done)

/-- The dispatcher whose handlers are given the same answer to each event that they deliver. -/
def plain (shared : Shared σ) : Dispatcher σ where
  subscriptions := shared.subscriptions.map (Subscription.mapHandler answeredHandler)
  subscriber := shared.subscriber

/-- The shared dispatcher in the middle of a delivery. -/
def during (shared : Shared σ) (subscriber : σ) : Shared σ :=
  { shared with subscriber := subscriber, busy := true }

@[simp] theorem subscriber_during (shared : Shared σ) (subscriber : σ) :
    (shared.during subscriber).subscriber = subscriber :=
  rfl

/-- In the middle of a delivery whatever a handler delivers is refused. -/
theorem perform_during (nested : Shared σ → Event → Delivery (Shared σ)) (action : Action σ)
    (shared : Shared σ) (subscriber : σ) :
    perform (deliverVia nested) action (shared.during subscriber) =
      action.answered.map shared.during := by
  induction action generalizing subscriber with
  | finish handled => rfl
  | deliver s event next ih =>
      have hinner : deliverVia nested { shared.during subscriber with subscriber := s } event =
          refuse (shared.during s) event :=
        deliverVia_of_busy nested (shared.during s) rfl event
      have hnext := ih s (.error (.reentrant event.kind)) s
      simp only [perform, Action.answered, hinner, refuse, subscriber_during, hnext]
      rfl
  | inspect s next ih => exact ih none s

theorem handlerOf_during (nested : Shared σ → Event → Delivery (Shared σ))
    (handler : σ → Event → Action σ) (shared : Shared σ) (subscriber : σ) (event : Event) :
    handlerOf (deliverVia nested) handler (shared.during subscriber) event =
      (answeredHandler handler subscriber event).map shared.during :=
  perform_during nested (handler subscriber event) shared subscriber

/-- A shared dispatcher that is not busy delivers an event as the plain one does. -/
theorem deliver_eq_plain {shared : Shared σ} (h : shared.busy = false) (event : Event) :
    shared.deliver event =
      (shared.plain.deliver event).map fun reached =>
        { shared with subscriber := reached.subscriber } := by
  let subs := Subscription.arranged shared.subscriptions event.kind
  have hhandlers : shared.plain.handlers event.kind =
      subs.map fun sub => answeredHandler sub.handler := by
    rw [Dispatcher.handlers, plain, Subscription.arranged_map, List.map_map]
    rfl
  have hdeliver := deliverTo_map _ _ shared.during event
    (fun sub subscriber => handlerOf_during refuse sub.handler shared subscriber event) subs
    shared.subscriber
  have hbusy : ({ shared with busy := true } : Shared σ) = shared.during shared.subscriber := rfl
  rw [deliver, deliverVia, if_neg (by simp [h]), handlers, hbusy, hdeliver, ← hhandlers]
  simp only [Delivery.map, during, Dispatcher.deliver, ← h]
  rfl

/-- A request is served as by the plain dispatcher, and the dispatcher is not busy then. -/
theorem serve_plain (shared : Shared σ) (request : Request) (h : shared.busy = false) :
    (shared.serve request).1.busy = false ∧
      shared.plain.serve request =
        ((shared.serve request).1.plain, (shared.serve request).2) := by
  cases request with
  | deliver event =>
      rw [serve, deliver_eq_plain h]
      exact ⟨h, rfl⟩
  | inspect =>
      refine ⟨h, ?_⟩
      rw [serve, inspect?, h]
      rfl
  | share => exact ⟨h, rfl⟩
  | release => exact ⟨h, rfl⟩

end Shared

/-! Notes of what handlers meet with. -/

/-- What a handler writes down while it acts. -/
inductive Note (σ : Type)
  /-- The handler with a position among the subscriptions was called. -/
  | called (position : Nat) (event : Event) (subscriber : σ)
  /-- An event was delivered while the subscriber was as given; what was found then. -/
  | delivered (event : Event) (subscriber found : σ) (result : Except DeliveryError Unit)
  /-- The subscriber was asked for. -/
  | inspected (seen : Option σ)

/-- An event that is delivered is refused and leaves the subscriber alone, and the subscriber is
not seen. -/
def Note.Refused : Note σ → Prop
  | called .. => True
  | delivered event subscriber found result =>
      found = subscriber ∧ result = .error (.reentrant event.kind)
  | inspected seen => seen = none

/-- Does the same and writes down, behind the notes so far, what it meets with. -/
def Action.noted : Action σ → List (Note σ) → Action (σ × List (Note σ))
  | finish handled, notes => .finish (handled.map (·, notes))
  | deliver subscriber event next, notes =>
      .deliver (subscriber, notes) event fun found result =>
        (next found.1 result).noted (found.2 ++ [.delivered event subscriber found.1 result])
  | inspect subscriber next, notes =>
      .inspect (subscriber, notes) fun seen =>
        (next (seen.map Prod.fst)).noted (notes ++ [.inspected (seen.map Prod.fst)])

/-- Taking notes changes nothing else. -/
theorem Action.answered_noted (action : Action σ) (notes : List (Note σ)) :
    (action.noted notes).answered.map Prod.fst = action.answered := by
  induction action generalizing notes with
  | finish handled => rfl
  | deliver subscriber event next ih =>
      have hnext := ih subscriber (.error (.reentrant event.kind))
        (notes ++ [.delivered event subscriber subscriber (.error (.reentrant event.kind))])
      simp only [noted, answered, ← hnext]
      rfl
  | inspect subscriber next ih => exact ih none (notes ++ [.inspected none])

theorem Action.refused_noted (action : Action σ) {notes : List (Note σ)}
    (h : ∀ note ∈ notes, note.Refused) :
    ∀ note ∈ (action.noted notes).answered.subscriber.2, note.Refused := by
  induction action generalizing notes with
  | finish handled => exact h
  | deliver subscriber event next ih =>
      apply ih subscriber (.error (.reentrant event.kind))
      intro note hnote
      rcases List.mem_append.mp hnote with hnote | hnote
      · exact h note hnote
      · rw [List.mem_singleton.mp hnote]
        exact ⟨rfl, rfl⟩
  | inspect subscriber next ih =>
      apply ih none
      intro note hnote
      rcases List.mem_append.mp hnote with hnote | hnote
      · exact h note hnote
      · rw [List.mem_singleton.mp hnote]
        rfl

/-- A handler that writes down that it is called, and then what it meets with. -/
def notedHandler (handler : Nat × (σ → Event → Action σ)) (subscriber : σ × List (Note σ))
    (event : Event) : Action (σ × List (Note σ)) :=
  (handler.2 subscriber.1 event).noted
    (subscriber.2 ++ [.called handler.1 event subscriber.1])

theorem answeredHandler_noted (handler : Nat × (σ → Event → Action σ))
    (subscriber : σ × List (Note σ)) (event : Event) :
    answeredHandler handler.2 subscriber.1 event =
      (answeredHandler (notedHandler handler) subscriber event).map Prod.fst :=
  (Action.answered_noted _ _).symm

theorem refused_notedHandler (handler : Nat × (σ → Event → Action σ)) (event : Event)
    {subscriber : σ × List (Note σ)} (h : ∀ note ∈ subscriber.2, note.Refused) :
    ∀ note ∈ (answeredHandler (notedHandler handler) subscriber event).subscriber.2,
      note.Refused := by
  apply Action.refused_noted
  intro note hnote
  rcases List.mem_append.mp hnote with hnote | hnote
  · exact h note hnote
  · rw [List.mem_singleton.mp hnote]
    trivial

namespace Shared

/-- The shared dispatcher whose handlers take notes. -/
def noted (shared : Shared σ) : Shared (σ × List (Note σ)) where
  subscriptions := (Subscription.numbered shared.subscriptions).map
    (Subscription.mapHandler notedHandler)
  subscriber := (shared.subscriber, [])
  busy := shared.busy
  handles := shared.handles

/-- The plain dispatcher without the notes of its handlers. -/
def withoutNotes (shared : Shared σ) (dispatcher : Dispatcher (σ × List (Note σ))) :
    Dispatcher σ where
  subscriptions := shared.plain.subscriptions
  subscriber := dispatcher.subscriber.1

theorem handlers_plain_noted (shared : Shared σ) (subscriber : σ × List (Note σ))
    (kind : EventKind) :
    Dispatcher.handlers ⟨shared.noted.plain.subscriptions, subscriber⟩ kind =
      (Subscription.arranged (Subscription.numbered shared.subscriptions) kind).map
        fun sub => answeredHandler (notedHandler sub.handler) := by
  rw [Dispatcher.handlers, plain, noted, Subscription.arranged_map, Subscription.arranged_map,
    List.map_map, List.map_map]
  rfl

theorem handlers_plain (shared : Shared σ) (subscriber : σ) (kind : EventKind) :
    Dispatcher.handlers ⟨shared.plain.subscriptions, subscriber⟩ kind =
      (Subscription.arranged (Subscription.numbered shared.subscriptions) kind).map
        fun sub => answeredHandler sub.handler.2 := by
  conv =>
    lhs
    rw [Dispatcher.handlers, plain, ← Subscription.map_numbered shared.subscriptions]
  rw [Subscription.arranged_map, Subscription.arranged_map, List.map_map, List.map_map]
  rfl

/-- Without the notes an event is delivered in the same way. -/
theorem deliver_withoutNotes (shared : Shared σ) (subscriber : σ × List (Note σ))
    (event : Event) :
    Dispatcher.deliver ⟨shared.plain.subscriptions, subscriber.1⟩ event =
      (Dispatcher.deliver ⟨shared.noted.plain.subscriptions, subscriber⟩ event).map
        shared.withoutNotes := by
  have hdeliver := deliverTo_map _ _ Prod.fst event
    (fun sub s => answeredHandler_noted sub.handler s event)
    (Subscription.arranged (Subscription.numbered shared.subscriptions) event.kind) subscriber
  rw [Dispatcher.deliver, Dispatcher.deliver, handlers_plain, handlers_plain_noted, hdeliver]
  rfl

theorem refused_deliver (shared : Shared σ) {subscriber : σ × List (Note σ)} (event : Event)
    (h : ∀ note ∈ subscriber.2, note.Refused) :
    ∀ note ∈ (Dispatcher.deliver ⟨shared.noted.plain.subscriptions, subscriber⟩
      event).receiver.subscriber.2, note.Refused := by
  rw [Dispatcher.deliver, handlers_plain_noted]
  apply deliverTo_keeps (P := fun s : σ × List (Note σ) => ∀ note ∈ s.2, note.Refused) _ h
  intro handler hhandler s hs
  obtain ⟨sub, -, rfl⟩ := List.mem_map.mp hhandler
  exact refused_notedHandler sub.handler event hs

theorem serve_withoutNotes (shared : Shared σ) (noting : Dispatcher (σ × List (Note σ)))
    (request : Request) (h : noting.subscriptions = shared.noted.plain.subscriptions ∧
      ∀ note ∈ noting.subscriber.2, note.Refused) :
    ((noting.serve request).1.subscriptions = shared.noted.plain.subscriptions ∧
        ∀ note ∈ (noting.serve request).1.subscriber.2, note.Refused) ∧
      (shared.withoutNotes noting).serve request =
        (shared.withoutNotes (noting.serve request).1,
          (noting.serve request).2.map Prod.fst) := by
  obtain ⟨subscriptions, subscriber⟩ := noting
  obtain ⟨rfl, hrefused⟩ := h
  cases request with
  | deliver event =>
      refine ⟨⟨rfl, refused_deliver shared event hrefused⟩, ?_⟩
      rw [withoutNotes, Dispatcher.serve, deliver_withoutNotes]
      rfl
  | inspect => exact ⟨⟨rfl, hrefused⟩, rfl⟩
  | share => exact ⟨⟨rfl, hrefused⟩, rfl⟩
  | release => exact ⟨⟨rfl, hrefused⟩, rfl⟩

/-- Requests through the handles of a shared dispatcher, from outside of any delivery, are
served by it as by the plain dispatcher whose handlers are given the same answer to each event
that they deliver: with the same answers, the same calls of handlers, which write them down,
and the same subscriber. The notes, which change nothing else, say that every nested event was
refused and left the subscriber alone, and that no handler ever saw the subscriber. Outside, no
event is refused and the subscriber is always seen. -/
theorem serveAll_noted (subscriptions : List (Subscription (σ → Event → Action σ)))
    (subscriber : σ) (requests : List Request) :
    let shared : Shared σ := { subscriptions := subscriptions, subscriber := subscriber }
    let run := serveAll serve shared requests
    let notedRun := serveAll serve shared.noted requests
    let plainRun := serveAll Dispatcher.serve shared.noted.plain requests
    notedRun.2 = plainRun.2 ∧ notedRun.1.subscriber = plainRun.1.subscriber ∧
      run.2 = notedRun.2.map (Answer.map Prod.fst) ∧
      run.1.subscriber = notedRun.1.subscriber.1 ∧
      (∀ note ∈ notedRun.1.subscriber.2, note.Refused) ∧
      (∀ answer ∈ run.2, answer.Accepted) ∧
      run.1.inspect? = some run.1.subscriber := by
  intro shared run notedRun plainRun
  obtain ⟨hfree, hrun⟩ := serveAll_map plain id serve_plain requests (r := shared) rfl
  obtain ⟨-, hnoted⟩ := serveAll_map plain id serve_plain requests (r := shared.noted) rfl
  obtain ⟨⟨-, hrefused⟩, hforget⟩ := serveAll_map shared.withoutNotes (Answer.map Prod.fst)
    shared.serve_withoutNotes requests (r := shared.noted.plain)
    ⟨rfl, fun note h => absurd h List.not_mem_nil⟩
  rw [List.map_id] at hrun hnoted
  have hplain : shared.withoutNotes shared.noted.plain = shared.plain := rfl
  rw [hplain, hrun] at hforget
  obtain ⟨hreached, hanswers⟩ := Prod.mk.inj hforget
  have hsame : plainRun = (notedRun.1.plain, notedRun.2) := hnoted
  have hanswer : notedRun.2 = plainRun.2 := by rw [hsame]
  have hsubscriber : notedRun.1.subscriber = plainRun.1.subscriber := by
    rw [hsame]
    rfl
  refine ⟨hanswer, hsubscriber, ?_, ?_, ?_, ?_, ?_⟩
  · rw [hanswer]
    exact hanswers
  · rw [hsubscriber]
    exact congrArg Dispatcher.subscriber hreached
  · rw [hsubscriber]
    exact hrefused
  · have haccepted := Dispatcher.accepted_serveAll shared.plain requests
    rw [hrun] at haccepted
    exact haccepted
  · have hbusy : run.1.busy = false := hfree
    rw [inspect?, hbusy]
    rfl

end Shared

end Stepwise
