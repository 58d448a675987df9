import InfluxKeeper.Proofs.Reconcile.Reports

/-!
# How a pass ends

A pass that ends with a result ends in one of four ways: its lookup failed and that was reported, nothing was
to do, the mutation planned was done, or it failed and that was reported. `reconcile_ends` says so once, with
the work before and after, so that what a reconcile tells and what it leaves can be read off case by case.

A step leaves the conditions and the events alone unless it reports: a call, a lookup and a mutation publish
nothing (`events_looked`, `events_mutate`), and a mutation sets no condition (`conditions_mutate`).
-/

namespace InfluxKeeper

open Api

namespace Record

/-- A mutation that succeeds leaves the conditions. -/
theorem conditions_afterMutation {r r' : Record} {m : Mutation} {outcome : Except Fault Value}
    (h : r.afterMutation m outcome = .ok r') : r'.conditions = r.conditions := by
  rcases afterMutation_ok h with rfl | ⟨_, id, _, _, _, _, _, rfl⟩
  · rfl
  · rfl

end Record

namespace Work

variable {s : Setup} {c : Client} {resolver : Option Resolver}

/-! ## A mutation -/

/-- A mutation meets the next answer, and then the record takes in what that says. -/
theorem mutate_eq (c : Client) (m : Mutation) (w : Work) :
    w.mutate c m =
      match w.record.afterMutation m ((w.record.mutation m).outcome w.next) with
      | .error failure => (.error failure, (w.call c (w.record.mutation m)).2)
      | .ok r => (.ok (), ((w.call c (w.record.mutation m)).2).withRecord r) := by
  unfold mutate
  rw [← outcome_of_request (w.record.request_mutation c m)]
  rfl

theorem mutate_ok {m : Mutation} {w w' : Work} (h : w.mutate c m = (.ok (), w')) :
    ∃ r, w.record.afterMutation m ((w.record.mutation m).outcome w.next) = .ok r ∧
      w' = ((w.call c (w.record.mutation m)).2).withRecord r := by
  rw [mutate_eq] at h
  split at h
  · cases h
  · next r hr => cases h; exact ⟨r, hr, rfl⟩

theorem mutate_error {m : Mutation} {w w' : Work} {failure : Failure}
    (h : w.mutate c m = (.error failure, w')) :
    w.record.afterMutation m ((w.record.mutation m).outcome w.next) = .error failure ∧
      w' = (w.call c (w.record.mutation m)).2 := by
  rw [mutate_eq] at h
  split at h
  · next hf => cases h; exact ⟨hf, rfl⟩
  · cases h

@[simp] theorem conditions_mutate (c : Client) (m : Mutation) (w : Work) :
    (w.mutate c m).2.record.conditions = w.record.conditions := by
  rw [mutate_eq]
  split
  · rfl
  · next r hr => exact Record.conditions_afterMutation hr

/-! ## What publishes nothing -/

@[simp] theorem events_mutate (c : Client) (m : Mutation) (w : Work) :
    (w.mutate c m).2.events = w.events := by
  rw [mutate_eq]
  split
  · rfl
  · rfl

@[simp] theorem events_asked (c : Client) (w : Work) : (w.asked c).events = w.events := by
  unfold asked
  split
  · rfl
  · rfl

@[simp] theorem events_looked (c : Client) (resolver : Option Resolver) (w : Work) :
    (w.looked c resolver).events = w.events := by
  have hasked := events_asked c (w.prepare resolver)
  unfold looked
  rw [look_eq]
  split
  · exact hasked
  · exact hasked
  · exact hasked

/-! ## The end of a settlement -/

/-- Work that sets out to make a mutation: the conditions that come before it are set. -/
def poised (seen : Seen) (w : Work) : Work := w.setConditions (readiness w.record.deleting seen)

/-- A settlement that ends with a result had nothing to do, or has done what it planned, or has reported that
this failed. -/
theorem settle_ends {seen : Seen} {w w' : Work} {result : Result}
    (h : w.settle c seen = (.ok result, w')) :
    (plan? w.record.deleting seen = none ∧
      (w.poised seen).succeed .nothing seen.lateInitialized = (result, w')) ∨
    (∃ m w₁, plan? w.record.deleting seen = some m ∧ (w.poised seen).mutate c m = (.ok (), w₁) ∧
      (w₁.publish (.done m) "").succeed (.done m) seen.lateInitialized = (result, w')) ∨
    ∃ m t w₁, plan? w.record.deleting seen = some m ∧
      (w.poised seen).mutate c m = (.error (.reported t), w₁) ∧
      w₁.fail (.cannot m) t seen.lateInitialized = (result, w') := by
  unfold settle at h
  dsimp only at h
  rw [record_setConditions, Record.deleting_setConditions] at h
  split at h
  · next hplan => cases h; exact Or.inl ⟨hplan, rfl⟩
  · next m hplan =>
    split at h
    · cases h
    · next t w₁ hm => cases h; exact Or.inr (Or.inr ⟨m, t, w₁, hplan, hm, rfl⟩)
    · next w₁ hm => cases h; exact Or.inr (Or.inl ⟨m, w₁, hplan, hm, rfl⟩)

/-! ## The end of a reconcile -/

/-- What a reconcile that ended with a result came to. -/
inductive Ends (c : Client) (resolver : Option Resolver) (w : Work) : Result → Work → Prop
  /-- The lookup failed. -/
  | unseen {t : Trouble} (finding : (w.prepare resolver).finding c = .error (.reported t)) :
      Ends c resolver w ((w.looked c resolver).fail .cannotObserve t false).1
        ((w.looked c resolver).fail .cannotObserve t false).2
  /-- Nothing was to do. -/
  | idle {seen : Seen} (look : (w.prepare resolver).look c = (.ok seen, w.looked c resolver))
      (plan : w.planned? c resolver = none) :
      Ends c resolver w (((w.looked c resolver).poised seen).succeed .nothing seen.lateInitialized).1
        (((w.looked c resolver).poised seen).succeed .nothing seen.lateInitialized).2
  /-- The mutation planned was made. -/
  | done {seen : Seen} {m : Mutation} {w₁ : Work}
      (look : (w.prepare resolver).look c = (.ok seen, w.looked c resolver))
      (plan : w.planned? c resolver = some m)
      (mutated : ((w.looked c resolver).poised seen).mutate c m = (.ok (), w₁)) :
      Ends c resolver w ((w₁.publish (.done m) "").succeed (.done m) seen.lateInitialized).1
        ((w₁.publish (.done m) "").succeed (.done m) seen.lateInitialized).2
  /-- The mutation planned failed. -/
  | undone {seen : Seen} {m : Mutation} {t : Trouble} {w₁ : Work}
      (look : (w.prepare resolver).look c = (.ok seen, w.looked c resolver))
      (plan : w.planned? c resolver = some m)
      (mutated : ((w.looked c resolver).poised seen).mutate c m = (.error (.reported t), w₁)) :
      Ends c resolver w (w₁.fail (.cannot m) t seen.lateInitialized).1
        (w₁.fail (.cannot m) t seen.lateInitialized).2

/-- An object found by a reconcile that ends with a result was taken in. -/
theorem Ends.look_of_found {result : Result} {w' : Work} (h : Ends c resolver w result w') {object : Value}
    (hf : (w.prepare resolver).finding c = .ok (some object)) :
    ∃ seen, (w.prepare resolver).look c = (.ok seen, w.looked c resolver) := by
  cases h with
  | unseen finding => rw [hf] at finding; cases finding
  | @idle seen look plan => exact ⟨seen, look⟩
  | @done seen m w₁ look plan mutated => exact ⟨seen, look⟩
  | @undone seen m t w₁ look plan mutated => exact ⟨seen, look⟩

/-- A reconcile whose lookup saw something plans by the mark of the record and what was seen. -/
theorem planned_of_look {w : Work} {seen : Seen} {w₁ : Work}
    (h : (w.prepare resolver).look c = (.ok seen, w₁)) :
    w.planned? c resolver = plan? w.record.deleting seen := by
  unfold planned?
  rw [h]

/-- **A reconcile that ends with a result ends in one of four ways.** -/
theorem reconcile_ends {w w' : Work} {result : Result}
    (h : w.reconcile s resolver = (.ok result, w')) : Ends s.client resolver w result w' := by
  obtain ⟨-, hp⟩ := reconcile_ok h
  rcases pass_ok hp with ⟨t, hf, hfail⟩ | ⟨seen, w₁, hl, hs⟩
  · have hlooked : w.looked s.client resolver = (w.prepare resolver).asked s.client := by
      unfold looked
      rw [look_eq, hf]
    rw [← hlooked] at hfail
    cases hfail
    exact .unseen hf
  · obtain rfl : w.looked s.client resolver = w₁ := congrArg Prod.snd hl
    have hplan := planned_of_look hl
    rw [← deleting_looked s.client resolver w] at hplan
    rcases settle_ends hs with ⟨hnone, hend⟩ | ⟨m, w₂, hm, hmut, hend⟩ | ⟨m, t, w₂, hm, hmut, hend⟩
    · cases hend
      exact .idle hl (hplan.trans hnone)
    · cases hend
      exact .done hl (hplan.trans hm) hmut
    · cases hend
      exact .undone hl (hplan.trans hm) hmut

end Work

end InfluxKeeper
