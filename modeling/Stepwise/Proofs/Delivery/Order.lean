import Mathlib.Data.List.Nodup
import Stepwise.Proofs.Delivery.Reentry
import Stepwise.Proofs.Report.CurrentRun

/-!
# The order of handlers

An event runs the handlers of its kind by descending priority, and those of the same priority
in the order in which they are declared. Main statement: whatever was delivered before, each
event runs the handlers of its kind in this order, each of them once, up to the first one that
fails.
-/

namespace Stepwise

variable {σ η : Type}

/-! The order in which subscriptions are arranged. -/

namespace Subscription

/-- The positions of the subscriptions of a kind in the order in which their handlers run. -/
def order (subs : List (Subscription η)) (kind : EventKind) : List Nat :=
  (arranged (numbered subs) kind).map (·.handler.1)

/-- Of the subscriptions at two positions the first one runs earlier: it has the higher priority,
or the same one and is declared earlier. -/
def Precedes (subs : List (Subscription η)) (i j : Nat) : Prop :=
  ∃ a b, subs[i]? = some a ∧ subs[j]? = some b ∧
    (b.priority < a.priority ∨ a.priority = b.priority ∧ i < j)

variable (subs : List (Subscription η)) (kind : EventKind)

theorem priority_le_trans (a b c : Subscription η) (hab : decide (b.priority ≤ a.priority) = true)
    (hbc : decide (c.priority ≤ b.priority) = true) :
    decide (c.priority ≤ a.priority) = true := by
  rw [decide_eq_true_eq] at hab hbc ⊢
  exact Int.le_trans hbc hab

theorem priority_le_total (a b : Subscription η) :
    (decide (b.priority ≤ a.priority) || decide (a.priority ≤ b.priority)) = true := by
  rw [Bool.or_eq_true, decide_eq_true_eq, decide_eq_true_eq]
  exact Int.le_total b.priority a.priority

theorem pairwise_priority_arranged :
    (arranged subs kind).Pairwise fun a b => b.priority ≤ a.priority := by
  have hsorted := List.pairwise_mergeSort priority_le_trans priority_le_total
    (subs.filter (·.kind = kind))
  exact hsorted.imp of_decide_eq_true

/-- Subscriptions of the same priority stay in the order in which they are declared. -/
theorem filter_priority_arranged (p : Int) :
    (arranged subs kind).filter (·.priority = p) =
      (subs.filter (·.kind = kind)).filter (·.priority = p) := by
  have hequal : ((subs.filter (·.kind = kind)).filter (·.priority = p)).Pairwise
      fun a b => decide (b.priority ≤ a.priority) = true := by
    apply List.pairwise_of_forall_mem_list
    intro a ha b hb
    have hpa : a.priority = p := of_decide_eq_true (List.mem_filter.mp ha).2
    have hpb : b.priority = p := of_decide_eq_true (List.mem_filter.mp hb).2
    rw [hpa, hpb]
    exact decide_eq_true (Int.le_refl p)
  have hsublist := List.sublist_mergeSort priority_le_trans priority_le_total hequal
    List.filter_sublist
  have hfiltered := hsublist.filter (·.priority = p)
  rw [List.filter_eq_self.mpr fun a ha => (List.mem_filter.mp ha).2] at hfiltered
  have hlength := ((arranged_perm subs kind).filter (·.priority = p)).length_eq
  exact (hfiltered.eq_of_length hlength.symm).symm

theorem mem_numbered {sub : Subscription (Nat × η)} (h : sub ∈ numbered subs) :
    subs[sub.handler.1]? = some (sub.mapHandler Prod.snd) := by
  rw [numbered, List.mem_map] at h
  obtain ⟨⟨original, i⟩, hmem, rfl⟩ := h
  exact List.mk_mem_zipIdx_iff_getElem?.mp hmem

theorem pairwise_position_numbered :
    (numbered subs).Pairwise fun a b => a.handler.1 < b.handler.1 := by
  have hpositions : (numbered subs).map (·.handler.1) = List.range' 0 subs.length := by
    rw [numbered, List.map_map]
    exact List.zipIdx_map_snd 0 subs
  rw [← List.pairwise_map (f := fun sub : Subscription (Nat × η) => sub.handler.1)
    (R := (· < ·)), hpositions]
  exact List.pairwise_lt_range' 1

theorem pairwise_order : (order subs kind).Pairwise (Precedes subs) := by
  rw [order, List.pairwise_map, List.pairwise_iff_forall_sublist]
  intro a b hab
  have hmem : ∀ sub ∈ [a, b], subs[sub.handler.1]? = some (sub.mapHandler Prod.snd) := by
    intro sub hsub
    have harranged := (arranged_perm (numbered subs) kind).mem_iff.mp (hab.subset hsub)
    exact mem_numbered subs (List.mem_filter.mp harranged).1
  refine ⟨_, _, hmem a (by simp), hmem b (by simp), ?_⟩
  have hle := List.pairwise_iff_forall_sublist.mp
    (pairwise_priority_arranged (numbered subs) kind) hab
  rcases Int.lt_or_eq_of_le hle with hlt | heq
  · exact .inl hlt
  · -- Both have the same priority, so they stand in this order among the declared ones.
    have hsame :
        [a, b].Sublist ((arranged (numbered subs) kind).filter (·.priority = a.priority)) := by
      have hfiltered := hab.filter (·.priority = a.priority)
      simpa [heq] using hfiltered
    rw [filter_priority_arranged] at hsame
    have hdeclared := (hsame.trans List.filter_sublist).trans List.filter_sublist
    exact .inr ⟨heq.symm,
      List.pairwise_iff_forall_sublist.mp (pairwise_position_numbered subs) hdeclared⟩

theorem nodup_order : (order subs kind).Nodup := by
  refine (pairwise_order subs kind).imp ?_
  rintro i j ⟨a, b, ha, hb, hprecedes⟩ rfl
  rw [ha] at hb
  rw [Option.some.inj hb] at hprecedes
  rcases hprecedes with hlt | ⟨-, hlt⟩
  · exact Int.lt_irrefl _ hlt
  · exact Nat.lt_irrefl i hlt

theorem mem_order_iff (i : Nat) :
    i ∈ order subs kind ↔ ∃ sub, subs[i]? = some sub ∧ sub.kind = kind := by
  rw [order, List.mem_map]
  constructor
  · rintro ⟨sub, hsub, rfl⟩
    obtain ⟨hnumbered, hkind⟩ :=
      List.mem_filter.mp ((arranged_perm (numbered subs) kind).mem_iff.mp hsub)
    exact ⟨_, mem_numbered subs hnumbered, of_decide_eq_true hkind⟩
  · rintro ⟨sub, hsub, hkind⟩
    refine ⟨sub.mapHandler (Prod.mk i), ?_, rfl⟩
    rw [(arranged_perm (numbered subs) kind).mem_iff, List.mem_filter]
    refine ⟨?_, decide_eq_true hkind⟩
    exact List.mem_map.mpr ⟨(sub, i), List.mk_mem_zipIdx_iff_getElem?.mpr hsub, rfl⟩

theorem arranged_eq_map_numbered :
    arranged subs kind = (arranged (numbered subs) kind).map (mapHandler Prod.snd) := by
  conv =>
    lhs
    rw [← map_numbered subs]
  exact arranged_map Prod.snd (numbered subs) kind

/-- The priorities of a kind are those at the positions in their order. -/
theorem priorities_eq :
    priorities subs kind = (order subs kind).filterMap fun i => subs[i]?.map (·.priority) := by
  have hposition : ∀ sub ∈ arranged (numbered subs) kind,
      (subs[sub.handler.1]?).map (·.priority) = some sub.priority := by
    intro sub hsub
    have hnumbered := (arranged_perm (numbered subs) kind).mem_iff.mp hsub
    rw [mem_numbered subs (List.mem_filter.mp hnumbered).1]
    rfl
  rw [priorities, arranged_eq_map_numbered, order, List.filterMap_map, List.map_map]
  rw [← List.filterMap_eq_map]
  exact List.filterMap_congr fun sub hsub => (hposition sub hsub).symm

end Subscription

/-! Calls of handlers. -/

/-- A call of a handler: the position of its subscription and, if it failed, its error. -/
structure Call where
  position : Nat
  failure : Option String

/-- A handler that writes down, behind the calls so far, that it was called and how it ended. -/
def recording (handler : Nat × Handler σ) : Handler (σ × List Call) :=
  fun reached event =>
    let handled := handler.2 reached.1 event
    handled.map (·, reached.2 ++ [⟨handler.1, handled.failure⟩])

/-- Calls follow an order from its beginning. All of them succeed, and they are called to the end
of the order, unless the last one fails, which is then the result. -/
def FollowsOrder (order : List Nat) (calls : List Call) (result : Except DeliveryError Unit) :
    Prop :=
  calls.map (·.position) <+: order ∧
    ((calls.length = order.length ∧ (∀ call ∈ calls, call.failure = none) ∧ result = .ok ()) ∨
      ∃ front position text, calls = front ++ [⟨position, some text⟩] ∧
        (∀ call ∈ front, call.failure = none) ∧ result = .error (.output text))

theorem followsOrder_nil : FollowsOrder [] [] (.ok ()) :=
  ⟨List.prefix_rfl, .inl ⟨rfl, fun _ h => absurd h List.not_mem_nil, rfl⟩⟩

theorem followsOrder_failed (position : Nat) (order : List Nat) (text : String) :
    FollowsOrder (position :: order) [⟨position, some text⟩] (.error (.output text)) :=
  ⟨List.prefix_append [position] order,
    .inr ⟨[], position, text, rfl, fun _ h => absurd h List.not_mem_nil, rfl⟩⟩

/-- A handler that succeeds is called before the others. -/
theorem FollowsOrder.cons {order : List Nat} {calls : List Call}
    {result : Except DeliveryError Unit} (h : FollowsOrder order calls result) (position : Nat) :
    FollowsOrder (position :: order) (⟨position, none⟩ :: calls) result := by
  have hall {front : List Call} (hfront : ∀ call ∈ front, call.failure = none) :
      ∀ call ∈ ⟨position, none⟩ :: front, Call.failure call = none := by
    rw [List.forall_mem_cons]
    exact ⟨rfl, hfront⟩
  obtain ⟨hfront, hend⟩ := h
  refine ⟨List.cons_prefix_cons.mpr ⟨rfl, hfront⟩, ?_⟩
  rcases hend with ⟨hlength, hnone, hresult⟩ | ⟨front, last, text, rfl, hnone, hresult⟩
  · exact .inl ⟨congrArg (· + 1) hlength, hall hnone, hresult⟩
  · exact .inr ⟨⟨position, none⟩ :: front, last, text, rfl, hall hnone, hresult⟩

/-- Handlers that are run one after the other are called in their order, up to the first one that
fails. -/
theorem runHandlers_recording (event : Event) (subs : List (Subscription (Nat × Handler σ)))
    (reached : σ × List Call) :
    let handled := runHandlers event (subs.map fun sub => recording sub.handler) reached
    ∃ calls, handled.subscriber.2 = reached.2 ++ calls ∧
      FollowsOrder (subs.map (·.handler.1)) calls (resultOf handled.failure) := by
  induction subs generalizing reached with
  | nil => exact ⟨[], (List.append_nil _).symm, followsOrder_nil⟩
  | cons sub rest ih =>
      simp only [List.map_cons, runHandlers]
      cases hfailure : (sub.handler.2 reached.1 event).failure with
      | some text =>
          refine ⟨[⟨sub.handler.1, some text⟩], ?_⟩
          simp only [recording, Handled.map, hfailure, resultOf]
          exact ⟨trivial, followsOrder_failed _ _ text⟩
      | none =>
          obtain ⟨calls, hcalls, hfollows⟩ := ih (recording sub.handler reached event).subscriber
          refine ⟨⟨sub.handler.1, none⟩ :: calls, ?_⟩
          simp only [recording, Handled.map, hfailure] at hcalls hfollows ⊢
          rw [hcalls, List.append_assoc]
          exact ⟨rfl, hfollows.cons sub.handler.1⟩

theorem deliverTo_recording (event : Event) (subs : List (Subscription (Nat × Handler σ)))
    (reached : σ × List Call) :
    let delivery := deliverTo (subs.map fun sub => recording sub.handler) reached event
    ∃ calls, delivery.receiver.2 = reached.2 ++ calls ∧
      FollowsOrder (subs.map (·.handler.1)) calls delivery.result := by
  cases subs with
  | nil => exact ⟨[], (List.append_nil _).symm, followsOrder_nil⟩
  | cons sub rest => exact runHandlers_recording event (sub :: rest) reached

namespace Dispatcher

/-- The dispatcher whose handlers write down their calls. -/
def recorded (dispatcher : Dispatcher σ) : Dispatcher (σ × List Call) where
  subscriptions := (Subscription.numbered dispatcher.subscriptions).map
    (Subscription.mapHandler recording)
  subscriber := (dispatcher.subscriber, [])

/-- The dispatcher without the calls that its handlers wrote down. -/
def withoutCalls (subscriptions : List (Subscription (Handler σ)))
    (dispatcher : Dispatcher (σ × List Call)) : Dispatcher σ :=
  ⟨subscriptions, dispatcher.subscriber.1⟩

variable (subscriptions : List (Subscription (Handler σ))) (reached : σ × List Call)

theorem handlers_recorded (kind : EventKind) :
    handlers ⟨(recorded ⟨subscriptions, reached.1⟩).subscriptions, reached⟩ kind =
      (Subscription.arranged (Subscription.numbered subscriptions) kind).map
        fun sub => recording sub.handler := by
  rw [handlers, recorded, Subscription.arranged_map, List.map_map]
  rfl

/-- Writing calls down changes nothing else. -/
theorem deliver_withoutCalls (event : Event) :
    deliver ⟨subscriptions, reached.1⟩ event =
      (deliver ⟨(recorded ⟨subscriptions, reached.1⟩).subscriptions, reached⟩ event).map
        (withoutCalls subscriptions) := by
  have hdeliver := deliverTo_map (fun sub => recording sub.handler)
    (fun sub : Subscription (Nat × Handler σ) => sub.handler.2) Prod.fst event
    (fun sub s => rfl)
    (Subscription.arranged (Subscription.numbered subscriptions) event.kind) reached
  have hhandlers : handlers ⟨subscriptions, reached.1⟩ event.kind =
      (Subscription.arranged (Subscription.numbered subscriptions) event.kind).map
        fun sub => sub.handler.2 := by
    rw [handlers, Subscription.arranged_eq_map_numbered, List.map_map]
    rfl
  rw [deliver, deliver, handlers_recorded, hhandlers, hdeliver]
  rfl

/-- After any events the dispatcher whose handlers write down their calls is as far as the plain
one. -/
theorem deliverAll_recorded (subscriber : σ) (events : List Event) :
    ∃ reached calls,
      deliverAll ⟨subscriptions, subscriber⟩ events = ⟨subscriptions, reached⟩ ∧
        (recorded ⟨subscriptions, subscriber⟩).deliverAll events =
          ⟨(recorded ⟨subscriptions, subscriber⟩).subscriptions, (reached, calls)⟩ := by
  induction events using List.reverseRecOn with
  | nil => exact ⟨subscriber, [], rfl, rfl⟩
  | append_singleton events event ih =>
      obtain ⟨reached, calls, hplain, hrecorded⟩ := ih
      have hforget := deliver_withoutCalls subscriptions (reached, calls) event
      simp only [deliverAll, List.foldl_append, List.foldl_cons, List.foldl_nil] at hplain hrecorded ⊢
      rw [hplain, hrecorded, hforget]
      exact ⟨_, _, rfl, rfl⟩

/-- Whatever events were delivered before and whatever became of them, an event runs the handlers
of its kind, and no others, in the order of their priorities and of their declarations, each of
them at most once, and stops at the first one that fails, which gives the result. The handlers
write down that they are called, which changes nothing else. -/
theorem deliver_followsOrder (subscriber : σ) (before : List Event) (event : Event) :
    let order := Subscription.order subscriptions event.kind
    let plain := deliverAll ⟨subscriptions, subscriber⟩ before
    let recording := (recorded ⟨subscriptions, subscriber⟩).deliverAll before
    (∀ i, i ∈ order ↔ ∃ sub, subscriptions[i]? = some sub ∧ sub.kind = event.kind) ∧
      order.Pairwise (Subscription.Precedes subscriptions) ∧
      order.Nodup ∧
      Subscription.priorities subscriptions event.kind =
        order.filterMap (fun i => subscriptions[i]?.map (·.priority)) ∧
      recording.subscriber.1 = plain.subscriber ∧
      ∃ calls,
        (recording.deliver event).receiver.subscriber =
          ((plain.deliver event).receiver.subscriber, recording.subscriber.2 ++ calls) ∧
        (recording.deliver event).result = (plain.deliver event).result ∧
        FollowsOrder order calls (plain.deliver event).result := by
  intro order plain recording
  obtain ⟨reached, earlier, hplain, hrecorded⟩ :=
    deliverAll_recorded subscriptions subscriber before
  have hforget := deliver_withoutCalls subscriptions (reached, earlier) event
  obtain ⟨calls, hbehind, hfollows⟩ := deliverTo_recording event
    (Subscription.arranged (Subscription.numbered subscriptions) event.kind) (reached, earlier)
  rw [← handlers_recorded] at hbehind hfollows
  refine ⟨Subscription.mem_order_iff subscriptions event.kind,
    Subscription.pairwise_order subscriptions event.kind,
    Subscription.nodup_order subscriptions event.kind,
    Subscription.priorities_eq subscriptions event.kind, ?_⟩
  simp only [plain, recording, hplain, hrecorded, hforget]
  exact ⟨trivial, calls, Prod.ext rfl hbehind, rfl, hfollows⟩

end Dispatcher

end Stepwise
