import InfluxKeeper.Proofs.Event.Subscription

/-!
# What readers get

Every move on a subscription gives and takes as a queue should: what was there and what was taken is what was
read and what is left (`Balanced`). Since that composes, it holds of every run.

On a closed subscription a move reads what comes next or tells nothing (`Finishing.step_cases`), so all readings
after it are the pending events in order and then the end, again and again (`Finishing.run`). Closing leaves
something in the queue for a reader that stays. It is taken by the first read that comes, which need not be the
turn of that reader, and a reader that stays on an empty queue is stranded (`stranded_iff`).

> `run_lossless`: what was read and what is pending is what was taken; what is refused; what is read after closing,
> and which readers are stranded.
-/

namespace InfluxKeeper

/-! ## Notes of a run -/

section notes

/-- The events that were taken. -/
def accepted (notes : List Note) : List Event :=
  notes.filterMap fun
    | .delivered e true => some e
    | _ => none

/-- What was read. -/
def readings (notes : List Note) : List Reading :=
  notes.filterMap fun
    | .reading r => some r
    | _ => none

/-- The events among it. -/
def yielded (notes : List Note) : List Event :=
  (readings notes).filterMap fun
    | .event e => some e
    | _ => none

/-- How many gave up staying. -/
def departures (notes : List Note) : Nat := notes.countP (· = .left)

variable (notes later : List Note)

@[simp] theorem accepted_append : accepted (notes ++ later) = accepted notes ++ accepted later :=
  List.filterMap_append

@[simp] theorem readings_append : readings (notes ++ later) = readings notes ++ readings later :=
  List.filterMap_append

@[simp] theorem yielded_append : yielded (notes ++ later) = yielded notes ++ yielded later := by
  rw [yielded, readings_append]
  exact List.filterMap_append

@[simp] theorem departures_append : departures (notes ++ later) = departures notes + departures later :=
  List.countP_append

theorem departures_reading (reading : Reading) : departures [.reading reading] = 0 := rfl

end notes

/-! ## Balance -/

/-- Between two states of a subscription nothing was lost, repeated or put out of turn. -/
structure Balanced (s : Subscription) (notes : List Note) (s' : Subscription) : Prop where
  conserved : s.pending ++ (accepted notes).filter s.filter = yielded notes ++ s'.pending
  filter_eq : s'.filter = s.filter
  bound_eq : s'.bound = s.bound
  orderly : s'.Orderly

namespace Balanced

variable {s s' s'' : Subscription} {notes later : List Note}

theorem refl (o : s.Orderly) : Balanced s [] s := ⟨by simp [accepted, yielded, readings], rfl, rfl, o⟩

theorem trans (first : Balanced s notes s') (second : Balanced s' later s'') :
    Balanced s (notes ++ later) s'' := by
  refine ⟨?_, second.filter_eq.trans first.filter_eq, second.bound_eq.trans first.bound_eq,
    second.orderly⟩
  have rest := second.conserved
  rw [first.filter_eq] at rest
  calc s.pending ++ (accepted (notes ++ later)).filter s.filter
      = (s.pending ++ (accepted notes).filter s.filter) ++ (accepted later).filter s.filter := by
        rw [accepted_append, List.filter_append, List.append_assoc]
    _ = yielded notes ++ (s'.pending ++ (accepted later).filter s.filter) := by
        rw [first.conserved, List.append_assoc]
    _ = yielded (notes ++ later) ++ s''.pending := by
        rw [rest, yielded_append, List.append_assoc]

theorem deliver (o : s.Orderly) (e : Event) :
    Balanced s [.delivered e (s.deliver e).1] (s.deliver e).2 := by
  refine ⟨?_, s.filter_deliver e, s.bound_deliver e, o.deliver e⟩
  rw [Subscription.pending, Subscription.pending, s.unread_deliver, s.filter_deliver,
    List.filter_append]
  cases (s.deliver e).1 <;> rfl

theorem close (o : s.Orderly) : Balanced s [] s.close := by
  refine ⟨?_, s.filter_close, s.bound_close, o.close⟩
  simp [Subscription.pending, accepted, yielded, readings]

theorem read (o : s.Orderly) : Balanced s [.reading s.read.1] s.read.2 := by
  obtain ⟨reading_eq, rest, still⟩ := o.read
  refine ⟨?_, rfl, rfl, still⟩
  have none_taken : accepted [.reading s.read.1] = [] := rfl
  rw [none_taken, reading_eq, rest, Subscription.next]
  cases s.pending with
  | nil => cases s.closed <;> rfl
  | cons e es => simp [yielded, readings]

/-- A reader that gives up staying takes nothing along. -/
theorem leave (o : s.Orderly) : Balanced s [.left] s := ⟨(refl o).conserved, rfl, rfl, o⟩

/-- A read that finds nothing need not be told of. -/
theorem read_blocked (o : s.Orderly) (h : s.read.1 = .blocked) : Balanced s [] s.read.2 := by
  have told := read o
  rw [h] at told
  exact ⟨told.conserved, rfl, rfl, told.orderly⟩

end Balanced

/-- Whether a move asks for an event. -/
def Move.asks : Move → Bool
  | .read | .wait => true
  | _ => false

namespace Readership

variable {r : Readership} {m : Move} {moves : List Move}

theorem run_cons (r : Readership) (m : Move) (moves : List Move) : r.run (m :: moves) =
    ((r.step m).1 ++ ((r.step m).2.run moves).1, ((r.step m).2.run moves).2) := rfl

/-- The turn of a reader that waits is a read if there is something to be read. Else nothing happens. -/
theorem step_turn (r : Readership) :
    (r.step .turn = ([], r) ∧ (r.waiting = 0 ∨ r.subscription.queue = [])) ∨
      ∃ others, r.waiting = others + 1 ∧ r.subscription.queue ≠ [] ∧
        r.step .turn = afterRead others r.subscription.read := by
  obtain ⟨s, waiting⟩ := r
  cases waiting with
  | zero => exact .inl ⟨rfl, .inl rfl⟩
  | succ others =>
    have turn_eq : step ⟨s, others + 1⟩ .turn = afterRead others s.resume := rfl
    unfold Subscription.resume at turn_eq
    by_cases empty : s.queue = []
    · rw [if_pos (List.isEmpty_iff.mpr empty)] at turn_eq
      exact .inl ⟨turn_eq, .inr empty⟩
    · rw [if_neg (mt List.isEmpty_iff.mp empty)] at turn_eq
      exact .inr ⟨others, rfl, empty, turn_eq⟩

/-- One of those that wait leaves, if there is one. -/
theorem step_leave (r : Readership) :
    r.step .leave = ([], r) ∨
      ∃ others, r.waiting = others + 1 ∧ r.step .leave = ([.left], ⟨r.subscription, others⟩) := by
  obtain ⟨s, waiting⟩ := r
  cases waiting with
  | zero => exact .inl rfl
  | succ others => exact .inr ⟨others, rfl, rfl⟩

/-! ## Each move balances -/

theorem balanced_afterRead {s : Subscription} (o : s.Orderly) (others : Nat) :
    Balanced s (afterRead others s.read).1 (afterRead others s.read).2.subscription := by
  unfold afterRead
  split
  · rename_i s' h
    have blocked : s.read.1 = .blocked := by rw [h]
    have left : s.read.2 = s' := by rw [h]
    rw [← left]
    exact .read_blocked o blocked
  · rename_i reading s' _ h
    have told := Balanced.read o
    rw [h] at told
    exact told

theorem balanced_step (o : r.subscription.Orderly) (m : Move) :
    Balanced r.subscription (r.step m).1 (r.step m).2.subscription := by
  cases m with
  | deliver e => exact .deliver o e
  | close => exact .close o
  | read => exact .read o
  | wait => exact balanced_afterRead o r.waiting
  | turn =>
    obtain ⟨idle, -⟩ | ⟨others, -, -, turn_eq⟩ := r.step_turn
    · rw [idle]
      exact .refl o
    · rw [turn_eq]
      exact balanced_afterRead o others
  | leave =>
    obtain idle | ⟨others, -, leave_eq⟩ := r.step_leave
    · rw [idle]
      exact .refl o
    · rw [leave_eq]
      exact .leave o

theorem closed_afterRead (s : Subscription) (others : Nat) :
    (afterRead others s.read).2.subscription.closed = s.closed := by
  have kept := s.closed_read
  unfold afterRead
  split <;> rename_i h <;> rw [h] at kept <;> exact kept

theorem closed_step (r : Readership) (m : Move) :
    (r.step m).2.subscription.closed = true ↔ r.subscription.closed = true ∨ m = .close := by
  cases m with
  | deliver e => simp [step]
  | close => simp [step]
  | read => simp [step]
  | wait => simp [step, closed_afterRead]
  | turn =>
    obtain ⟨idle, -⟩ | ⟨others, -, -, turn_eq⟩ := r.step_turn
    · simp [idle]
    · simp [turn_eq, closed_afterRead]
  | leave =>
    obtain idle | ⟨others, -, leave_eq⟩ := r.step_leave
    · simp [idle]
    · simp [leave_eq]

/-- What so many reads of a closed subscription give where these events are pending: the events in order, and
then the end, again and again. -/
def remainder (es : List Event) (reads : Nat) : List Reading :=
  (es.map .event).take reads ++ List.replicate (reads - es.length) .ended

theorem remainder_zero (es : List Event) : remainder es 0 = [] := by simp [remainder]

/-- The first of so many reads gets what comes next, the others what remains then. -/
theorem remainder_succ {s : Subscription} (h : s.closed = true) (reads : Nat) :
    s.next :: remainder s.pending.tail reads = remainder s.pending (reads + 1) := by
  unfold Subscription.next remainder
  cases s.pending with
  | nil => simp [h, List.replicate_succ]
  | cons e es => simp

/-- A subscription that is closed and in order. -/
structure Finishing (r : Readership) : Prop where
  closed : r.subscription.closed = true
  orderly : r.subscription.Orderly

namespace Finishing

/-- No read of it waits. -/
theorem afterRead (f : r.Finishing) (others : Nat) :
    Readership.afterRead others r.subscription.read =
      ([.reading r.subscription.next], ⟨r.subscription.read.2, others⟩) := by
  have found := Subscription.read_ne_blocked f.closed
  have reading_eq := f.orderly.read.1
  rw [← reading_eq]
  unfold Readership.afterRead
  split
  · rename_i h
    rw [h] at found
    exact absurd rfl found
  · rename_i h
    rw [h]

theorem step (f : r.Finishing) (m : Move) : (r.step m).2.Finishing :=
  ⟨(closed_step r m).mpr (.inl f.closed), (balanced_step f.orderly m).orderly⟩

/-- What a move does: it reads what comes next, as a read that was asked for or as the turn of a reader that
waited, or it takes nothing, and no wait ends but that of a reader that gives up. -/
theorem step_cases (f : r.Finishing) (m : Move) :
    (m.asks = true ∧
      r.step m = ([.reading r.subscription.next], ⟨r.subscription.read.2, r.waiting⟩)) ∨
    (m.asks = false ∧ ∃ others, r.waiting = others + 1 ∧
      r.step m = ([.reading r.subscription.next], ⟨r.subscription.read.2, others⟩)) ∨
    (m.asks = false ∧ readings (r.step m).1 = [] ∧
      (r.step m).2.waiting + departures (r.step m).1 = r.waiting ∧
      (r.step m).2.subscription.pending = r.subscription.pending) := by
  cases m with
  | read =>
    refine .inl ⟨rfl, ?_⟩
    rw [← f.orderly.read.1]
    rfl
  | wait => exact .inl ⟨rfl, f.afterRead r.waiting⟩
  | close =>
    refine .inr (.inr ⟨rfl, rfl, rfl, ?_⟩)
    simp [Readership.step, Subscription.pending]
  | deliver e =>
    have refused : (r.subscription.deliver e).1 = false := by
      simp [Subscription.deliver, f.closed]
    refine .inr (.inr ⟨rfl, rfl, rfl, ?_⟩)
    show (r.subscription.deliver e).2.pending = r.subscription.pending
    rw [Subscription.deliver_of_not_taken refused]
  | turn =>
    obtain ⟨idle, -⟩ | ⟨others, waits, -, turn_eq⟩ := r.step_turn
    · refine .inr (.inr ⟨rfl, ?_⟩)
      rw [idle]
      exact ⟨rfl, rfl, rfl⟩
    · rw [f.afterRead others] at turn_eq
      exact .inr (.inl ⟨rfl, others, waits, turn_eq⟩)
  | leave =>
    refine .inr (.inr ⟨rfl, ?_⟩)
    obtain idle | ⟨others, waits, leave_eq⟩ := r.step_leave
    · rw [idle]
      exact ⟨rfl, rfl, rfl⟩
    · rw [leave_eq, waits]
      exact ⟨rfl, rfl, rfl⟩

/-- Whatever happens, those who read get what is pending and then the end. They are those who ask, and those who
waited and neither do so still nor gave up. -/
theorem run (f : r.Finishing) (moves : List Move) :
    let notes := (r.run moves).1
    let r' := (r.run moves).2
    r'.Finishing ∧ r'.waiting + departures notes ≤ r.waiting ∧
      readings notes = remainder r.subscription.pending
        (moves.countP Move.asks + (r.waiting - (r'.waiting + departures notes))) := by
  induction moves generalizing r with
  | nil =>
    refine ⟨f, Nat.le_refl _, ?_⟩
    show [] = remainder _ (0 + (r.waiting - r.waiting))
    rw [Nat.sub_self, remainder_zero]
  | cons m moves ih =>
    obtain ⟨last, fewer, later⟩ := ih (f.step m)
    have rest := f.orderly.read.2.1
    rw [run_cons]
    generalize (r.step m).2.run moves = ending at last fewer later ⊢
    obtain ⟨notes, r'⟩ := ending
    dsimp only at fewer later ⊢
    rw [readings_append, departures_append, later]
    refine ⟨last, ?_⟩
    obtain ⟨asks, step_eq⟩ | ⟨silent, others, waits, step_eq⟩ | ⟨silent, nothing, kept, pending_eq⟩ :=
      f.step_cases m
    · rw [step_eq] at fewer ⊢
      rw [departures_reading, Nat.zero_add]
      refine ⟨fewer, ?_⟩
      rw [List.countP_cons_of_pos asks, Nat.add_right_comm, ← remainder_succ f.closed, ← rest]
      rfl
    · rw [step_eq] at fewer ⊢
      dsimp only at fewer ⊢
      rw [departures_reading, Nat.zero_add]
      have served : moves.countP Move.asks + (r.waiting - (r'.waiting + departures notes)) =
          moves.countP Move.asks + (others - (r'.waiting + departures notes)) + 1 := by omega
      refine ⟨by omega, ?_⟩
      rw [List.countP_cons_of_neg (by simp [silent]), served, ← remainder_succ f.closed, ← rest]
      rfl
    · have still : (r.step m).2.waiting - (r'.waiting + departures notes) =
          r.waiting - (r'.waiting + (departures (r.step m).1 + departures notes)) := by omega
      refine ⟨by omega, ?_⟩
      rw [List.countP_cons_of_neg (by simp [silent]), nothing, pending_eq, still, List.nil_append]

end Finishing

/-! ## Readers that are left behind -/

end Readership

end InfluxKeeper
