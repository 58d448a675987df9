import InfluxKeeper.Event.Subscription

/-!
# Readers that stay

A reader that finds nothing in its queue gives up, at once or later, or stays until something is put there, be it
an event or an end mark. What is put wakes a reader that stays but is not kept for it: the reader has its turn
later, and a read that comes before that turn takes what is there. A reader that finds the queue empty at its turn
stays again, and so does one whose filter lets nothing through. While it stays it looks at the queue only, not at
whether the subscription was closed meanwhile.

The readers of a subscription share its filter, so it is enough to know how many of them stay.
-/

namespace InfluxKeeper

/-- The turn of a reader that stays: it stays on an empty queue and reads on otherwise. -/
def Subscription.resume (s : Subscription) : Reading × Subscription :=
  if s.queue.isEmpty then (.blocked, s) else s.read

/-- A subscription, and how many readers stay on it. -/
structure Readership where
  subscription : Subscription
  waiting : Nat

/-- What can happen to a subscription, in any order. -/
inductive Move
  | deliver (e : Event)
  | close
  /-- a read that gives up where nothing is there yet -/
  | read
  /-- a read that stays where nothing is there yet -/
  | wait
  /-- a reader that stays has its turn -/
  | turn
  /-- a reader that stays gives up -/
  | leave
  deriving DecidableEq, Repr

/-- What is seen of it: whether a delivered event was taken, what a read gave, and that a reader gave up. -/
inductive Note
  | delivered (e : Event) (taken : Bool)
  | reading (r : Reading)
  | left
  deriving DecidableEq, Repr

namespace Readership

/-- A new subscription that nobody waits on. -/
def new (bound : Int) (filter : Event → Bool) : Readership := ⟨.new bound filter, 0⟩

/-- What the read of a reader that stays leads to, beside the others that wait: it waits if there was nothing. -/
def afterRead (others : Nat) : Reading × Subscription → List Note × Readership
  | (.blocked, s) => ([], ⟨s, others + 1⟩)
  | (reading, s) => ([.reading reading], ⟨s, others⟩)

/-- One move. -/
def step (r : Readership) : Move → List Note × Readership
  | .deliver e =>
    let (taken, s) := r.subscription.deliver e
    ([.delivered e taken], { r with subscription := s })
  | .close => ([], { r with subscription := r.subscription.close })
  | .read =>
    let (reading, s) := r.subscription.read
    ([.reading reading], { r with subscription := s })
  | .wait => afterRead r.waiting r.subscription.read
  | .turn =>
    -- Each entry that is put wakes one reader; a reader that is awake takes an entry or finds none, and one that
    -- gives up then wakes the next. So while the queue holds something, one of those that wait is awake.
    match r.waiting with
    | 0 => ([], r)
    | others + 1 => afterRead others r.subscription.resume
  | .leave =>
    match r.waiting with
    | 0 => ([], r)
    | others + 1 => ([.left], { r with waiting := others })

/-- Moves one after the other. -/
def run (r : Readership) : List Move → List Note × Readership
  | [] => ([], r)
  | m :: moves =>
    let (notes, r) := r.step m
    let (later, r) := r.run moves
    (notes ++ later, r)

end Readership

end InfluxKeeper
