import InfluxKeeper.Event.Basic

/-!
# Subscriptions

A subscription queues the events delivered to it until its reader takes them. A bounded queue takes no
event beyond its bound; the event is dropped. The reader skips the events that its filter does not let
through. Closing puts an end mark into the queue if there is room, so that a reader that waits on the
empty queue wakes up; after that nothing more is delivered, and the reader reads to the end.

Main statements: `length_queue_deliver_le` says that a bounded queue stays within its bound, and
`read_ne_blocked` that no read of a closed subscription waits.
-/

namespace InfluxKeeper

/-- A queue of events for one reader; an entry that is no event is an end mark. A bound of zero or less is
none. -/
structure Subscription where
  bound : Int
  filter : Event → Bool
  queue : List (Option Event)
  closed : Bool

/-- What a read gives: an event, the end, or nothing yet. -/
inductive Reading
  | event (e : Event)
  | ended
  | blocked
  deriving DecidableEq, Repr

namespace Subscription

/-- A new subscription. -/
def new (bound : Int) (filter : Event → Bool) : Subscription := ⟨bound, filter, [], false⟩

/-- Whether the queue takes nothing more. -/
def full (s : Subscription) : Bool := 0 < s.bound && s.bound ≤ s.queue.length

/-- Delivers an event, and tells whether it was taken. -/
def deliver (e : Event) (s : Subscription) : Bool × Subscription :=
  if s.closed || s.full then (false, s) else (true, { s with queue := s.queue ++ [some e] })

/-- A delivery that is not taken changes nothing. -/
theorem deliver_of_not_taken {e : Event} {s : Subscription} (h : (s.deliver e).1 = false) :
    (s.deliver e).2 = s := by
  unfold deliver at h ⊢
  split at h
  · rename_i hs
    rw [if_pos hs]
  · cases h

/-- A bounded queue stays within its bound. -/
theorem length_queue_deliver_le {e : Event} {s : Subscription} (bounded : 0 < s.bound)
    (fits : (s.queue.length : Int) ≤ s.bound) :
    ((s.deliver e).2.queue.length : Int) ≤ s.bound := by
  unfold deliver
  split
  · exact fits
  · rename_i h
    have room : (s.queue.length : Int) < s.bound := by
      rcases Int.lt_or_le (s.queue.length : Int) s.bound with hl | hl
      · exact hl
      · exact absurd (by simp [full, bounded, hl]) h
    simp only [List.length_append, List.length_singleton]
    omega

/-- Closes a subscription. -/
def close (s : Subscription) : Subscription :=
  -- a full queue has no room for its end
  if s.full then { s with closed := true }
  else { s with closed := true, queue := s.queue ++ [none] }

/-- The first of a queue that is read, with the queue after it. -/
def readQueue (filter : Event → Bool) (closed : Bool) : List (Option Event) →
    Reading × List (Option Event)
  | [] => (if closed then .ended else .blocked, [])
  | none :: rest => (.ended, rest)
  | some e :: rest => if filter e then (.event e, rest) else readQueue filter closed rest

/-- Reads once. -/
def read (s : Subscription) : Reading × Subscription :=
  let (reading, queue) := readQueue s.filter s.closed s.queue
  (reading, { s with queue })

/-- No read of a closed subscription waits. -/
theorem read_ne_blocked {s : Subscription} (h : s.closed = true) : s.read.1 ≠ .blocked := by
  have : ∀ q, (readQueue s.filter s.closed q).1 ≠ .blocked := by
    intro q
    induction q with
    | nil => simp [readQueue, h]
    | cons entry rest ih =>
      cases entry with
      | none => simp [readQueue]
      | some e => by_cases hf : s.filter e = true <;> simp [readQueue, hf, ih]
  exact this s.queue

/-- Reads until the end or until nothing is there yet. Every read before takes an entry, so the length of
the queue bounds their number. -/
def drainFor (s : Subscription) : Nat → List Reading × Subscription
  | 0 => ([], s)
  | fuel + 1 =>
    match s.read with
    | (.event e, s) =>
      let (readings, s) := drainFor s fuel
      (.event e :: readings, s)
    | (last, s) => ([last], s)

/-- All readings up to the first that gives no event, that one included. -/
def drain (s : Subscription) : List Reading × Subscription := s.drainFor (s.queue.length + 1)

end Subscription

end InfluxKeeper
