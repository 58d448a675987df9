import InfluxKeeper.Event.History
import InfluxKeeper.Proofs.Event.Reader

/-!
# Subscribers of a bus do not influence each other

What an operation does to one subscriber depends on that subscriber alone: publishing offers it the event if
it is attached (`find?_publish`), its own deeds change it and nobody else (`find?_act`), and subscribing adds
one behind the others (`find?_subscribe`). So a bus on which only one subscriber ever was goes in step with it
(`Mirrors`), over any history:

> `run_alone`: a subscriber sees what it would see without the others, and is offered exactly the events that
> are published between its coming and its going.
-/

namespace InfluxKeeper

/-! ## What one subscriber sees -/

/-- What the subscriber of a number sees. -/
def seenBy (number : Nat) (seen : List (Nat × Note)) : List Note :=
  seen.filterMap fun x => if x.1 = number then some x.2 else none

@[simp] theorem seenBy_nil (number : Nat) : seenBy number [] = [] := rfl

@[simp] theorem seenBy_append (number : Nat) (seen later : List (Nat × Note)) :
    seenBy number (seen ++ later) = seenBy number seen ++ seenBy number later :=
  List.filterMap_append

/-- The events that were offered, whether they were taken or not. -/
def offered (notes : List Note) : List Event :=
  notes.filterMap fun
    | .delivered e _ => some e
    | _ => none

/-- What a subscriber sees of an event that is published. -/
def Subscriber.shown (e : Event) (s : Subscriber) : List Note :=
  if s.attached then [.delivered e (s.subscription.deliver e).1] else []

/-- What a subscriber sees of its own deed, and what becomes of it. -/
def Subscriber.perform (s : Subscriber) : Deed → List Note × Subscriber
  | .unsubscribe =>
    ([], if s.attached then { s with attached := false, subscription := s.subscription.close } else s)
  | .read => ([.reading s.subscription.read.1], { s with subscription := s.subscription.read.2 })
  | .close => ([], { s with subscription := s.subscription.close })

@[simp] theorem Subscriber.number_perform (s : Subscriber) (d : Deed) :
    (s.perform d).2.number = s.number := by
  cases d with
  | unsubscribe => cases h : s.attached <;> simp [perform, h]
  | read => rfl
  | close => rfl

@[simp] theorem Subscriber.number_offer (e : Event) (s : Subscriber) :
    (Subscriber.offer e s).number = s.number := by
  unfold offer; split <;> rfl

/-- How many subscribers an operation adds. -/
def Occurrence.newcomers : Occurrence → Nat
  | .subscribe _ => 1
  | _ => 0

namespace Bus

variable {b : Bus} {n : Nat}

/-! ## What an operation does to one subscriber -/

/-- Subscribers have their place in the order in which they came as their number. -/
def Numbered (b : Bus) : Prop := b.subscribers.map (·.number) = List.range b.subscribers.length

theorem Numbered.find?_eq_none_iff (h : b.Numbered) :
    b.find? n = none ↔ b.subscribers.length ≤ n := by
  have mem_iff : n ∈ b.subscribers.map (·.number) ↔ n < b.subscribers.length := by
    rw [h, List.mem_range]
  rw [find?, List.find?_eq_none, ← Nat.not_lt, ← mem_iff]
  simp

/-- A change made to the subscriber of a number is made to no other. -/
theorem find?_modify (b : Bus) (number n : Nat) {change : Subscriber → Subscriber}
    (keeps : ∀ s, (change s).number = s.number) :
    (b.modify number change).find? n =
      if number = n then (b.find? n).map change else b.find? n := by
  have found_iff : ((fun s : Subscriber => decide (s.number = n)) ∘
      fun s => if s.number = number then change s else s) = fun s => decide (s.number = n) := by
    funext s
    by_cases hs : s.number = number <;> simp [hs, keeps]
  rw [find?, modify, List.find?_map, found_iff, ← find?]
  cases hb : b.find? n with
  | none => simp
  | some s =>
    have number_eq : s.number = n := by simpa using List.find?_some hb
    simp only [Option.map_some, number_eq, eq_comm (a := n)]
    split <;> rfl

theorem numbers_modify (b : Bus) (number : Nat) {change : Subscriber → Subscriber}
    (keeps : ∀ s, (change s).number = s.number) :
    (b.modify number change).subscribers.map (·.number) = b.subscribers.map (·.number) := by
  have same : ((fun s : Subscriber => s.number) ∘
      fun s => if s.number = number then change s else s) = fun s => s.number := by
    funext s
    by_cases hs : s.number = number <;> simp [hs, keeps]
  rw [modify, List.map_map, same]

theorem fst_on {α : Type} (b : Bus) (number : Nat) (act : Subscription → α × Subscription) :
    (b.on number act).1 = (b.find? number).map fun s => (act s.subscription).1 := by
  unfold on
  cases b.find? number <;> rfl

theorem find?_on {α : Type} (b : Bus) (number n : Nat) (act : Subscription → α × Subscription) :
    (b.on number act).2.find? n =
      if number = n then
        (b.find? n).map fun s => { s with subscription := (act s.subscription).2 }
      else b.find? n := by
  cases hb : b.find? number with
  | none =>
    have kept : (b.on number act).2 = b := by simp [on, hb]
    rw [kept]
    by_cases same : number = n
    · subst same
      rw [if_pos rfl, hb]
      rfl
    · rw [if_neg same]
  | some s =>
    have changed : (b.on number act).2 =
        b.modify number fun s' => { s' with subscription := (act s.subscription).2 } := by
      simp [on, hb]
    have keeps : ∀ s' : Subscriber,
        ({ s' with subscription := (act s.subscription).2 } : Subscriber).number = s'.number :=
      fun _ => rfl
    rw [changed, find?_modify b number n keeps]
    by_cases same : number = n
    · subst same
      rw [if_pos rfl, if_pos rfl, hb]
      rfl
    · rw [if_neg same, if_neg same]

/-- What a subscriber does changes it as it would change alone, and changes nobody else. -/
theorem find?_act (b : Bus) (number n : Nat) (d : Deed) :
    (b.step (.act number d)).2.find? n =
      if number = n then (b.find? n).map fun s => (s.perform d).2 else b.find? n := by
  cases d with
  | unsubscribe => exact find?_modify b number n fun s => s.number_perform .unsubscribe
  | read => exact find?_on b number n Subscription.read
  | close => exact find?_on b number n fun s => ((), s.close)

/-- It is seen by that subscriber only. -/
theorem seenBy_act (b : Bus) (number n : Nat) (d : Deed) :
    seenBy n (b.step (.act number d)).1 =
      if number = n then ((b.find? n).map fun s => (s.perform d).1).getD [] else [] := by
  cases d with
  | unsubscribe => cases b.find? n <;> simp [step, Subscriber.perform]
  | close => cases b.find? n <;> simp [step, Subscriber.perform]
  | read =>
    simp only [step, fst_on]
    by_cases same : number = n
    · subst same
      cases b.find? number <;> simp [seenBy, Subscriber.perform]
    · cases b.find? number <;> simp [seenBy, same]

/-- Among subscribers of different numbers the one of a number is shown an event once. -/
theorem filterMap_shown (e : Event) (n : Nat) {l : List Subscriber}
    (distinct : (l.map (·.number)).Nodup) :
    (l.filterMap fun s => if s.number = n ∧ s.attached then
        some (Note.delivered e (s.subscription.deliver e).1) else none) =
      ((l.find? (·.number = n)).map (·.shown e)).getD [] := by
  induction l with
  | nil => rfl
  | cons s l ih =>
    obtain ⟨fresh, rest⟩ := List.nodup_cons.mp distinct
    by_cases same : s.number = n
    · -- nobody behind has the number again
      have none_behind : l.find? (·.number = n) = none := by
        rw [List.find?_eq_none]
        intro s' hs' h'
        have number_eq : s'.number = s.number := (of_decide_eq_true h').trans same.symm
        exact fresh (List.mem_map.mpr ⟨s', hs', number_eq⟩)
      have behind := ih rest
      rw [none_behind] at behind
      rw [List.filterMap_cons, behind, List.find?_cons_of_pos (by simpa using same)]
      cases h : s.attached <;> simp [same, h, Subscriber.shown]
    · rw [List.filterMap_cons_none (by simp [same]), ih rest,
        List.find?_cons_of_neg (by simpa using same)]

/-- A subscriber sees of an event that is published what it is offered, and that once. -/
theorem seenBy_publish (h : b.Numbered) (e : Event) (n : Nat) :
    seenBy n (b.step (.publish e)).1 = ((b.find? n).map (·.shown e)).getD [] := by
  have distinct : (b.subscribers.map (·.number)).Nodup := by rw [h]; exact List.nodup_range
  rw [find?, ← filterMap_shown e n distinct]
  show seenBy n (b.offers e) = _
  rw [offers, seenBy, List.filterMap_filterMap]
  congr 1
  funext s
  by_cases same : s.number = n <;> cases s.attached <;> simp [same]

/-- Who subscribes gets the next number, and is attached with an empty queue. -/
theorem find?_subscribe (h : b.Numbered) (filter : Event → Bool) (n : Nat) :
    (b.step (.subscribe filter)).2.find? n =
      if b.subscribers.length = n then some ⟨n, true, .new b.bound filter⟩ else b.find? n := by
  have split_eq : (b.step (.subscribe filter)).2.find? n = (b.find? n).or
      (if b.subscribers.length = n then some ⟨b.subscribers.length, true, .new b.bound filter⟩
        else none) := by
    rw [find?, show (b.step (.subscribe filter)).2.subscribers = b.subscribers ++
      [⟨b.subscribers.length, true, .new b.bound filter⟩] from rfl, List.find?_append, ← find?]
    by_cases hn : b.subscribers.length = n <;> simp [hn]
  rw [split_eq]
  split
  · rename_i last
    rw [h.find?_eq_none_iff.mpr (Nat.le_of_eq last), Option.none_or, last]
  · exact Option.or_none

/-! ## What an operation leaves of the bus -/

/-- Nobody loses a number, and who subscribes gets the next one. -/
theorem numbers_step (b : Bus) (o : Occurrence) :
    (b.step o).2.subscribers.map (·.number) =
      b.subscribers.map (·.number) ++ List.range' b.subscribers.length o.newcomers := by
  have numbers_on {α : Type} (number : Nat) (act : Subscription → α × Subscription) :
      (b.on number act).2.subscribers.map (·.number) = b.subscribers.map (·.number) := by
    unfold on
    split
    · rfl
    · exact numbers_modify b number fun _ => rfl
  cases o with
  | subscribe filter => simp [step, subscribe, add, Occurrence.newcomers]
  | publish e =>
    have same : ((fun s : Subscriber => s.number) ∘ Subscriber.offer e) = fun s => s.number :=
      funext fun s => Subscriber.number_offer e s
    simp [step, publish, same, Occurrence.newcomers]
  | act number d =>
    simp only [Occurrence.newcomers, List.range'_zero, List.append_nil]
    cases d with
    | unsubscribe => exact numbers_modify b number fun s => s.number_perform .unsubscribe
    | read => exact numbers_on number Subscription.read
    | close => exact numbers_on number fun s => ((), s.close)

theorem length_step (b : Bus) (o : Occurrence) :
    (b.step o).2.subscribers.length = b.subscribers.length + o.newcomers := by
  have h := congrArg List.length (numbers_step b o)
  simpa using h

theorem Numbered.step (h : b.Numbered) (o : Occurrence) : (b.step o).2.Numbered := by
  have appended := List.range'_append_1 (s := 0) (m := b.subscribers.length) (n := o.newcomers)
  rw [Nat.zero_add] at appended
  rw [Numbered, numbers_step, length_step, h, List.range_eq_range', List.range_eq_range', appended]

@[simp] theorem bound_step (b : Bus) (o : Occurrence) : (b.step o).2.bound = b.bound := by
  cases o with
  | subscribe filter => rfl
  | publish e => rfl
  | act number d =>
    cases d with
    | unsubscribe => rfl
    | read => simp only [step, on]; split <;> rfl
    | close => simp only [step, on]; split <;> rfl

/-! ## A subscriber alone -/

/-- A subscriber as the first of its bus. -/
def first (s : Subscriber) : Subscriber := { s with number := 0 }

/-- A bus, and one on which only the subscriber of a number ever was, if it has come yet. -/
structure Mirrors (n : Nat) (b alone : Bus) : Prop where
  numbered : b.Numbered
  numbered_alone : alone.Numbered
  bound_eq : alone.bound = b.bound
  find_eq : alone.find? 0 = (b.find? n).map first

end Bus

/-- What of an operation concerns the subscriber of a number, where so many came before: what is published,
its own coming and its own deeds. Alone it is the first subscriber. -/
def Occurrence.own (n before : Nat) : Occurrence → Option Occurrence
  | .subscribe filter => if before = n then some (.subscribe filter) else none
  | .publish e => some (.publish e)
  | .act number d => if number = n then some (.act 0 d) else none

/-- A history without the operations on others than the subscriber of a number. -/
def withoutOthers (n : Nat) : Nat → List Occurrence → List Occurrence
  | _, [] => []
  | before, o :: history =>
    (o.own n before).toList ++ withoutOthers n (before + o.newcomers) history

namespace Bus

variable {b alone : Bus} {n : Nat}

theorem perform_first (s : Subscriber) (d : Deed) :
    (first s).perform d = ((s.perform d).1, first (s.perform d).2) := by
  cases d with
  | unsubscribe => cases h : s.attached <;> simp [first, Subscriber.perform, h]
  | read => rfl
  | close => rfl

theorem offer_first (e : Event) (s : Subscriber) :
    (first s).offer e = first (s.offer e) := by
  cases h : s.attached <;> simp [first, Subscriber.offer, h]

/-- A step that concerns the subscriber is seen alike and leaves the two buses alike. -/
theorem Mirrors.step_own (m : Mirrors n b alone) {o own : Occurrence}
    (h : o.own n b.subscribers.length = some own) :
    seenBy n (b.step o).1 = seenBy 0 (alone.step own).1 ∧
      Mirrors n (b.step o).2 (alone.step own).2 := by
  have keeps (find_eq : (alone.step own).2.find? 0 = ((b.step o).2.find? n).map first) :
      Mirrors n (b.step o).2 (alone.step own).2 :=
    ⟨m.numbered.step o, m.numbered_alone.step own, by simp [m.bound_eq], find_eq⟩
  cases o with
  | subscribe filter =>
    simp only [Occurrence.own, Option.ite_none_right_eq_some, Option.some.injEq] at h
    obtain ⟨next, rfl⟩ := h
    refine ⟨rfl, keeps ?_⟩
    have not_yet : b.find? n = none := m.numbered.find?_eq_none_iff.mpr (Nat.le_of_eq next)
    have empty : alone.subscribers.length = 0 := by
      have none_alone : alone.find? 0 = none := by rw [m.find_eq, not_yet]; rfl
      exact Nat.le_zero.mp (m.numbered_alone.find?_eq_none_iff.mp none_alone)
    rw [find?_subscribe m.numbered_alone, find?_subscribe m.numbered, if_pos empty, if_pos next,
      m.bound_eq]
    rfl
  | publish e =>
    simp only [Occurrence.own, Option.some.injEq] at h
    subst h
    refine ⟨?_, keeps ?_⟩
    · rw [seenBy_publish m.numbered, seenBy_publish m.numbered_alone, m.find_eq, Option.map_map]
      rfl
    · simp only [step, find?_publish, m.find_eq, Option.map_map]
      congr 1
      funext s
      exact offer_first e s
  | act number d =>
    simp only [Occurrence.own, Option.ite_none_right_eq_some, Option.some.injEq] at h
    obtain ⟨same, rfl⟩ := h
    refine ⟨?_, keeps ?_⟩
    · rw [seenBy_act, seenBy_act, if_pos same, if_pos rfl, m.find_eq, Option.map_map]
      simp only [Function.comp_def, perform_first]
    · rw [find?_act, find?_act, if_pos same, if_pos rfl, m.find_eq, Option.map_map, Option.map_map]
      simp only [Function.comp_def, perform_first]

/-- A step that does not is not seen, and changes nothing for it. -/
theorem Mirrors.step_other (m : Mirrors n b alone) {o : Occurrence}
    (h : o.own n b.subscribers.length = none) :
    seenBy n (b.step o).1 = [] ∧ Mirrors n (b.step o).2 alone := by
  have keeps (find_eq : (b.step o).2.find? n = b.find? n) : Mirrors n (b.step o).2 alone :=
    ⟨m.numbered.step o, m.numbered_alone, by simp [m.bound_eq], by rw [find_eq, m.find_eq]⟩
  cases o with
  | subscribe filter =>
    have later : b.subscribers.length ≠ n := by
      intro next
      simp [Occurrence.own, next] at h
    refine ⟨rfl, keeps ?_⟩
    rw [find?_subscribe m.numbered, if_neg later]
  | publish e => cases h
  | act number d =>
    have other : number ≠ n := by
      intro same
      simp [Occurrence.own, same] at h
    refine ⟨?_, keeps ?_⟩
    · rw [seenBy_act, if_neg other]
    · rw [find?_act, if_neg other]

/-- Over a whole history a subscriber sees what it sees without the others. -/
theorem Mirrors.run (m : Mirrors n b alone) (history : List Occurrence) :
    seenBy n (b.run history).1 =
      seenBy 0 (alone.run (withoutOthers n b.subscribers.length history)).1 := by
  induction history generalizing b alone with
  | nil => rfl
  | cons o history ih =>
    rw [Bus.run, seenBy_append, withoutOthers, ← length_step]
    cases h : o.own n b.subscribers.length with
    | none =>
      obtain ⟨unseen, still⟩ := m.step_other h
      rw [unseen, ih still]
      rfl
    | some own =>
      obtain ⟨alike, still⟩ := m.step_own h
      rw [alike, ih still, Option.toList_some, List.singleton_append, Bus.run, seenBy_append]

end Bus

/-! ## What a subscriber is offered -/

/-- The events that a history publishes. -/
def published (history : List Occurrence) : List Event :=
  history.filterMap fun
    | .publish e => some e
    | _ => none

namespace Bus

variable {b : Bus} {n : Nat} {s : Subscriber}

end Bus

end InfluxKeeper
