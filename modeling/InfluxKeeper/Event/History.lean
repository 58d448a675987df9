import InfluxKeeper.Event.Bus
import InfluxKeeper.Event.Reader

/-!
# Histories of a bus

What happens on a bus, and what its subscribers see of it. Subscribers come and go, read, and may close their
subscription themselves, which leaves them on the bus.
-/

namespace InfluxKeeper

/-- What one subscriber does. -/
inductive Deed
  | unsubscribe
  | read
  | close
  deriving DecidableEq, Repr

/-- What happens on a bus. A number that no subscriber has is unknown to the bus. -/
inductive Occurrence
  | subscribe (filter : Event → Bool)
  | publish (e : Event)
  | act (number : Nat) (deed : Deed)

namespace Bus

/-- What publishing an event shows to the subscribers it is offered to. -/
def offers (b : Bus) (e : Event) : List (Nat × Note) :=
  b.subscribers.filterMap fun s =>
    if s.attached then some (s.number, .delivered e (s.subscription.deliver e).1) else none

/-- One occurrence, with what each subscriber sees of it. -/
def step (b : Bus) : Occurrence → List (Nat × Note) × Bus
  | .subscribe filter => ([], (b.subscribe filter).2)
  | .publish e => (b.offers e, b.publish e)
  | .act number .unsubscribe => ([], b.unsubscribe number)
  | .act number .close => ([], (b.on number fun s => ((), s.close)).2)
  | .act number .read =>
    let (reading, b) := b.on number Subscription.read
    (reading.toList.map fun r => (number, .reading r), b)

/-- Occurrences one after the other. -/
def run (b : Bus) : List Occurrence → List (Nat × Note) × Bus
  | [] => ([], b)
  | o :: history =>
    let (seen, b) := b.step o
    let (later, b) := b.run history
    (seen ++ later, b)

end Bus

end InfluxKeeper
