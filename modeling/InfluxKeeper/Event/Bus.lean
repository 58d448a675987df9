import InfluxKeeper.Event.Subscription

/-!
# The event bus

A bus delivers every event published on it to all of its subscriptions. A subscription that takes no more
loses the event; nobody waits for it. Subscriptions are known by number, in the order in which they were
made, and keep what was delivered to them when they leave the bus.

Main statement: `find?_publish` says that publishing delivers to each subscription as if it were alone.
-/

namespace InfluxKeeper

/-- A subscription of a bus: its number, whether the bus delivers to it, and the subscription. -/
structure Subscriber where
  number : Nat
  attached : Bool
  subscription : Subscription

/-- What publishing an event does to a subscriber. -/
def Subscriber.offer (e : Event) (s : Subscriber) : Subscriber :=
  if s.attached then { s with subscription := (s.subscription.deliver e).2 } else s

/-- A bus: the bound of its queues, and the subscribers so far. -/
structure Bus where
  bound : Int
  subscribers : List Subscriber

namespace Bus

/-- A bus without subscribers. -/
def new (bound : Int) : Bus := ⟨bound, []⟩

/-- The subscriber of a number. -/
def find? (b : Bus) (number : Nat) : Option Subscriber :=
  b.subscribers.find? (·.number = number)

/-- A bus with a change made to the subscriber of a number. -/
def modify (b : Bus) (number : Nat) (change : Subscriber → Subscriber) : Bus :=
  { b with subscribers := b.subscribers.map fun s => if s.number = number then change s else s }

/-- Adds a subscription; its number is the number of subscriptions before. -/
def add (b : Bus) (attached : Bool) (s : Subscription) : Nat × Bus :=
  let number := b.subscribers.length
  (number, { b with subscribers := b.subscribers ++ [⟨number, attached, s⟩] })

/-- Subscribes to the events that a filter lets through. -/
def subscribe (b : Bus) (filter : Event → Bool) : Nat × Bus := b.add true (.new b.bound filter)

/-- Publishes an event. -/
def publish (b : Bus) (e : Event) : Bus :=
  { b with subscribers := b.subscribers.map (Subscriber.offer e) }

/-- Publishing delivers to each subscriber as if it were alone. -/
theorem find?_publish (b : Bus) (e : Event) (number : Nat) :
    (b.publish e).find? number = (b.find? number).map (Subscriber.offer e) := by
  have keeps : ∀ s : Subscriber, (Subscriber.offer e s).number = s.number := fun s => by
    unfold Subscriber.offer; split <;> rfl
  simp only [find?, publish, List.find?_map]
  congr 2
  funext s
  simp [keeps]

/-- Ends a subscription: the bus delivers nothing more to it, and it is closed. -/
def unsubscribe (b : Bus) (number : Nat) : Bus :=
  b.modify number fun s =>
    if s.attached then { s with attached := false, subscription := s.subscription.close } else s

/-- Lets the subscriber of a number, if there is one, act on its subscription. -/
def on {α : Type} (b : Bus) (number : Nat) (act : Subscription → α × Subscription) :
    Option α × Bus :=
  match b.find? number with
  | none => (none, b)
  | some s =>
    let (a, new) := act s.subscription
    (some a, b.modify number fun s => { s with subscription := new })

end Bus

end InfluxKeeper
