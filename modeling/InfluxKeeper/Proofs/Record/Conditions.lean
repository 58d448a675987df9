import InfluxKeeper.Record.Basic

/-!
# Conditions, type by type

Of the conditions set one after the other, a type sees only its own: each is laid over the one that was there
(`Condition.laidOver`), which stays, with its time, if nothing but the time would change.

> `condition?_setConditions`: the first condition of a type, after any writes, is what its own writes make, in
> their order, of the one that was there before.

So a single write that changes nothing else keeps the time (`Condition.laidOver_eq_of_equivalent`). Two writes
need not: if the second brings back what the first has changed, it is the second that stays
(`Condition.laidOver_laidOver_of_equivalent`).
-/

namespace InfluxKeeper

namespace Condition

variable {a b c new old : Condition}

theorem Equivalent.refl (a : Condition) : a.Equivalent a := ⟨rfl, rfl, rfl, rfl⟩

theorem Equivalent.symm (h : a.Equivalent b) : b.Equivalent a :=
  ⟨h.1.symm, h.2.1.symm, h.2.2.1.symm, h.2.2.2.symm⟩

theorem Equivalent.trans (h : a.Equivalent b) (h' : b.Equivalent c) : a.Equivalent c :=
  ⟨h.1.trans h'.1, h.2.1.trans h'.2.1, h.2.2.1.trans h'.2.2.1, h.2.2.2.trans h'.2.2.2⟩

/-- A condition laid over the one of its type that was there, if any. -/
def laidOver (new : Condition) : Option Condition → Condition
  | none => new
  | some old => if old.Equivalent new then old else new

@[simp] theorem laidOver_none (new : Condition) : new.laidOver none = new := rfl

/-- What was there stays if nothing but the time would change. -/
theorem laidOver_of_equivalent (h : old.Equivalent new) : new.laidOver (some old) = old := if_pos h

/-- What was there gives way if more than the time changes. -/
theorem laidOver_of_not_equivalent (h : ¬old.Equivalent new) : new.laidOver (some old) = new := if_neg h

/-- Whatever was there, the condition set is seen, up to its time. -/
theorem laidOver_equivalent (new : Condition) (old : Option Condition) : (new.laidOver old).Equivalent new := by
  cases old with
  | none => exact .refl new
  | some old =>
    by_cases h : old.Equivalent new
    · rwa [laidOver_of_equivalent h]
    · rw [laidOver_of_not_equivalent h]
      exact .refl new

/-- One write that leaves what was there, but for the time, leaves the time too. -/
theorem laidOver_eq_of_equivalent (h : (new.laidOver (some old)).Equivalent old) : new.laidOver (some old) = old :=
  laidOver_of_equivalent (h.symm.trans (laidOver_equivalent new (some old)))

/-- At most one write that leaves what was there, but for the time, leaves the time too. -/
theorem foldl_laidOver_of_length_le_one {writes : List Condition} {after : Condition} (few : writes.length ≤ 1)
    (h : writes.foldl (fun old c => some (c.laidOver old)) (some old) = some after)
    (same : after.Equivalent old) : after = old := by
  rcases writes with _ | ⟨new, _ | ⟨_, _⟩⟩
  · exact (Option.some.inj h).symm
  · obtain rfl : new.laidOver (some old) = after := Option.some.inj h
    exact laidOver_eq_of_equivalent same
  · simp at few

/-- Two writes that differ, and leave what was there but for the time, leave the second: the first has changed
what was there, and the second has brought it back. -/
theorem laidOver_laidOver_of_equivalent (differ : ¬a.Equivalent b)
    (h : (b.laidOver (some (a.laidOver (some old)))).Equivalent old) :
    b.laidOver (some (a.laidOver (some old))) = b := by
  have hold : old.Equivalent b := h.symm.trans (laidOver_equivalent b _)
  have hfirst : a.laidOver (some old) = a := laidOver_of_not_equivalent fun ha => differ (ha.symm.trans hold)
  rw [hfirst]
  exact laidOver_of_not_equivalent differ

end Condition

/-- Conditions set one after the other are set at once. -/
theorem setConditions_append (first second conditions : List Condition) :
    setConditions second (setConditions first conditions) = setConditions (first ++ second) conditions :=
  (List.foldl_append ..).symm

/-- The condition of the type that is set. -/
theorem condition?_setCondition_self (new : Condition) (conditions : List Condition) :
    condition? new.type (setCondition new conditions) = some (new.laidOver (condition? new.type conditions)) := by
  induction conditions with
  | nil => simp [condition?, setCondition]
  | cons c rest ih =>
    unfold setCondition
    by_cases htype : c.type = new.type
    · have hfirst : condition? new.type (c :: rest) = some c := by simp [condition?, htype]
      rw [if_pos htype, hfirst]
      show (((if c.Equivalent new then c else new) :: rest).find? (·.type = new.type)) = _
      by_cases h : c.Equivalent new
      · rw [if_pos h, Condition.laidOver_of_equivalent h]
        exact hfirst
      · rw [if_neg h, Condition.laidOver_of_not_equivalent h]
        exact List.find?_cons_of_pos (by simp)
    · rw [if_neg htype]
      simpa [condition?, htype] using ih

/-- **A type sees its own writes only**, in their order. -/
theorem condition?_setConditions (type : String) (new conditions : List Condition) :
    condition? type (setConditions new conditions) =
      (new.filter (·.type = type)).foldl (fun old c => some (c.laidOver old)) (condition? type conditions) := by
  induction new generalizing conditions with
  | nil => rfl
  | cons c rest ih =>
    show condition? type (setConditions rest (setCondition c conditions)) = _
    rw [ih]
    by_cases htype : c.type = type
    · subst htype
      rw [condition?_setCondition_self, List.filter_cons_of_pos (by simp)]
      rfl
    · rw [condition?_setCondition_of_ne htype, List.filter_cons_of_neg (by simpa using htype)]

end InfluxKeeper
