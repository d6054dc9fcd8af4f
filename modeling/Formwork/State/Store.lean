import Formwork.State.Basic

/-!
# The store

A `Store` holds the latest state. A commit of the same state does nothing; any other is published
under the next revision, and subscribers can tell that it happened.
-/

namespace Formwork

/-- The latest state, and how often a new one was published. -/
structure Store where
  current : State
  published : Nat := 0

namespace Store

/-- Makes a state the latest one. -/
def commit (store : Store) (next : State) : Store :=
  if next == store.current then store
  else
    { current := { next with revision := store.current.revision + 1 }
      published := store.published + 1 }

/-- Commits a change of the latest state. -/
def update (store : Store) (change : State → State) : Store := store.commit (change store.current)

end Store

/-- Someone who follows a store: how many of its publications have been looked at. -/
structure Subscriber where
  seen : Nat

namespace Subscriber

/-- A subscriber who knows the latest state. -/
def ofStore (store : Store) : Subscriber := ⟨store.published⟩

/-- Whether there is a state that the subscriber has not looked at. -/
def hasNews (subscriber : Subscriber) (store : Store) : Bool := subscriber.seen != store.published

end Subscriber

end Formwork
