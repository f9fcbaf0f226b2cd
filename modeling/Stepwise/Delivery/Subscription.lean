import Stepwise.Run.Event

/-!
# Subscriptions

A subscription binds a handler to a kind of event. The handlers of a kind are arranged
by descending priority; those of the same priority keep the order in which they are
declared.
-/

namespace Stepwise

/-- A handler of a kind of event. Of two handlers the one with the higher priority runs
earlier. -/
structure Subscription (η : Type) where
  kind : EventKind
  priority : Int
  handler : η

namespace Subscription

variable {η : Type}

def text (sub : Subscription η) : String :=
  "Subscription \x7b kind: " ++ sub.kind.label ++ ", priority: " ++ toString sub.priority ++
    ", .. \x7d"

/-- The subscriptions of a kind in the order in which their handlers run. -/
def arranged (subs : List (Subscription η)) (kind : EventKind) : List (Subscription η) :=
  (subs.filter (·.kind = kind)).mergeSort fun a b => decide (b.priority ≤ a.priority)

/-- The priorities of a kind in the order in which its handlers run. -/
def priorities (subs : List (Subscription η)) (kind : EventKind) : List Int :=
  (arranged subs kind).map (·.priority)

theorem arranged_perm (subs : List (Subscription η)) (kind : EventKind) :
    (arranged subs kind).Perm (subs.filter (·.kind = kind)) :=
  List.mergeSort_perm _ _

end Subscription

end Stepwise
