import InfluxKeeper.Proofs.Record.Conditions

/-!
# Conditions as a map from types

Conditions of different types are a map: a write replaces what stands under its type, or adds it at the end. What
one write does to any conditions at all, also to those with a type twice, is said by `Condition.Sets`: the first of
its type stays if nothing but the time would change, and else gives way; a type that is not there is appended.
All else follows from that, for one write (`sets_setCondition`) and then for any number of calls.

> `Record.setConditions_keyed`: types stay different and in their order, with new ones behind; the last write of a
> type is seen under it; and a condition gets another time only by a write that differs from it in more.

The place where a write goes may also be found in two steps: look up what is there under its type, and then compare
that with all conditions in order. The first that equals it is itself, so it is the first of its type that gives way
(`setCondition_eq_of_lookup`).
-/

namespace InfluxKeeper

variable {new : Condition} {before after : List Condition}

namespace Condition

/-- The types of conditions, in their order. -/
def types (conditions : List Condition) : List String := conditions.map (·.type)

/-- The types of writes that are not among the given ones, in the order in which they first appear. -/
def newTypes (writes : List Condition) (given : List String) : List String :=
  ((types writes).filter (· ∉ given)).eraseDups

@[simp] theorem types_nil : types [] = [] := rfl

@[simp] theorem types_cons (c : Condition) (rest : List Condition) : types (c :: rest) = c.type :: types rest := rfl

@[simp] theorem types_append (first second : List Condition) :
    types (first ++ second) = types first ++ types second :=
  List.map_append

theorem mem_types_iff {type : String} : type ∈ types before ↔ ∃ c ∈ before, c.type = type := List.mem_map

/-- Types that are there are not new. -/
theorem newTypes_cons_of_mem {given : List String} (h : new.type ∈ given) (writes : List Condition) :
    newTypes (new :: writes) given = newTypes writes given := by
  unfold newTypes
  rw [types_cons, List.filter_cons_of_neg (by simpa using h)]

/-- A type that is not there is new, and no more so after it. -/
theorem newTypes_cons_of_not_mem {given : List String} (h : new.type ∉ given) (writes : List Condition) :
    newTypes (new :: writes) given = new.type :: newTypes writes (given ++ [new.type]) := by
  have hlater : (fun type => !type == new.type && decide (type ∉ given)) =
      fun type => decide (type ∉ given ++ [new.type]) := by
    funext type
    by_cases htype : type = new.type <;> simp [htype]
  unfold newTypes
  rw [types_cons, List.filter_cons_of_pos (by simpa using h), List.eraseDups_cons, List.filter_filter, hlater]

/-! ## One write -/

/-- What it makes of conditions to set one. -/
inductive Sets (new : Condition) : List Condition → List Condition → Prop
  /-- Nothing but the time of the first of its type would change. -/
  | kept {front back : List Condition} {old : Condition} (first : new.type ∉ types front)
      (same : old.Equivalent new) : new.Sets (front ++ old :: back) (front ++ old :: back)
  /-- The first of its type gives way, in its place. -/
  | replaced {front back : List Condition} {old : Condition} (first : new.type ∉ types front)
      (type : old.type = new.type) (differ : ¬old.Equivalent new) :
      new.Sets (front ++ old :: back) (front ++ new :: back)
  /-- There is none of its type. -/
  | appended {before : List Condition} (absent : new.type ∉ types before) : new.Sets before (before ++ [new])

namespace Sets

/-- A write of a type that is there leaves the types and their order. -/
theorem types_of_mem (h : new.Sets before after) (hmem : new.type ∈ types before) :
    types after = types before := by
  cases h with
  | kept first same => rfl
  | replaced first type differ => simp [type]
  | appended absent => exact absurd hmem absent

/-- A write of any other type adds it at the end. -/
theorem types_of_not_mem (h : new.Sets before after) (hmem : new.type ∉ types before) :
    types after = types before ++ [new.type] := by
  cases h with
  | kept first same => exact absurd (by simp [← same.1]) hmem
  | replaced first type differ => exact absurd (by simp [← type]) hmem
  | appended absent => simp

/-- Types that were different are so after a write. -/
theorem nodup (h : new.Sets before after) (distinct : (types before).Nodup) : (types after).Nodup := by
  by_cases hmem : new.type ∈ types before
  · rwa [h.types_of_mem hmem]
  · rw [h.types_of_not_mem hmem]
    exact List.nodup_append.mpr ⟨distinct, by simp, fun type htype _ hlast he =>
      hmem (List.mem_singleton.mp hlast ▸ he ▸ htype)⟩

/-- What is at a place is there after a write, or has given way to it. -/
theorem getElem? (h : new.Sets before after) {i : Nat} {old : Condition} (hold : before[i]? = some old) :
    after[i]? = some old ∨ after[i]? = some new ∧ old.type = new.type ∧ ¬old.Equivalent new := by
  cases h with
  | kept first same => exact .inl hold
  | appended absent =>
    have hlt := (List.getElem?_eq_some_iff.mp hold).1
    exact .inl (by rwa [List.getElem?_append_left hlt])
  | @replaced front back given first type differ =>
    rcases Nat.lt_trichotomy i front.length with hlt | rfl | hgt
    · rw [List.getElem?_append_left hlt] at hold ⊢
      exact .inl hold
    · obtain rfl : given = old := by simpa using hold
      exact .inr ⟨by simp, type, differ⟩
    · obtain ⟨k, hk⟩ := Nat.exists_eq_add_of_lt hgt
      rw [List.getElem?_append_right (by omega), show i - front.length = k + 1 by omega] at hold ⊢
      exact .inl hold

/-- What is there after a write was there before, or is what was written. -/
theorem mem (h : new.Sets before after) {c : Condition} (hc : c ∈ after) : c = new ∨ c ∈ before := by
  cases h with
  | kept first same => exact .inr hc
  | replaced first type differ =>
    rcases List.mem_append.mp hc with hfront | hrest
    · exact .inr (List.mem_append_left _ hfront)
    · rcases List.mem_cons.mp hrest with rfl | hback
      · exact .inl rfl
      · exact .inr (List.mem_append_right _ (List.mem_cons_of_mem _ hback))
  | appended absent => exact (List.mem_append.mp hc).symm.imp_left List.mem_singleton.mp

end Sets

end Condition

open Condition (types newTypes mem_types_iff newTypes_cons_of_mem newTypes_cons_of_not_mem)

/-- A condition is set in two steps: what is found under its type is the one to give way, and the first that
equals that one is its place. Whichever equality that is, it holds of a condition and itself, and only between
conditions of one type. -/
theorem setCondition_eq_of_lookup (equal : Condition → Condition → Bool) (self : ∀ c, equal c c = true)
    (typed : ∀ c d, equal c d = true → c.type = d.type) (new : Condition) (conditions : List Condition) :
    setCondition new conditions = match condition? new.type conditions with
      | none => conditions ++ [new]
      | some old => if old.Equivalent new then conditions else conditions.set (conditions.findIdx (equal old)) new := by
  induction conditions with
  | nil => rfl
  | cons c rest ih =>
    unfold setCondition
    by_cases htype : c.type = new.type
    · have hfound : condition? new.type (c :: rest) = some c := by simp [condition?, htype]
      rw [if_pos htype, hfound]
      by_cases h : c.Equivalent new
      · simp only [if_pos h]
      · simp only [if_neg h, List.findIdx_cons, self, cond_true, List.set_cons_zero]
    · have hlater : condition? new.type (c :: rest) = condition? new.type rest := by simp [condition?, htype]
      rw [if_neg htype, ih, hlater]
      cases hfound : condition? new.type rest with
      | none => rfl
      | some old =>
        have hold : old.type = new.type := by simpa using List.find?_some hfound
        -- one is of the type and the other is not, so the place is further back
        have hother : equal old c = false :=
          Bool.eq_false_iff.mpr fun h => htype ((typed old c h).symm.trans hold)
        by_cases h : old.Equivalent new
        · simp only [if_pos h]
        · simp only [if_neg h, List.findIdx_cons, hother, cond_false, List.set_cons_succ]

/-- Setting what is there already, but for its time, changes nothing. -/
theorem setCondition_eq_self {old : Condition} {conditions : List Condition}
    (h : condition? new.type conditions = some old) (same : old.Equivalent new) :
    setCondition new conditions = conditions := by
  rw [setCondition_eq_of_lookup (fun c d => decide (c = d)) (by simp) (by simp +contextual), h]
  exact if_pos same

theorem sets_setCondition (new : Condition) (conditions : List Condition) :
    new.Sets conditions (setCondition new conditions) := by
  rw [setCondition_eq_of_lookup (fun c d => decide (c = d)) (by simp) (by simp +contextual)]
  cases hfound : condition? new.type conditions with
  | none =>
    refine .appended fun h => ?_
    obtain ⟨c, hc, htype⟩ := mem_types_iff.mp h
    exact absurd htype (by simpa using List.find?_eq_none.mp hfound c hc)
  | some old =>
    obtain ⟨htype, front, back, rfl, hfront⟩ := List.find?_eq_some_iff_append.mp hfound
    have hold : old.type = new.type := by simpa using htype
    have hfirst : new.type ∉ types front := fun h => by
      obtain ⟨c, hc, hsame⟩ := mem_types_iff.mp h
      exact absurd hsame (by simpa using hfront c hc)
    by_cases h : old.Equivalent new
    · simp only [if_pos h]
      exact .kept hfirst h
    · -- what stands before it is of other types, so nothing there equals it
      have hplace : (front ++ old :: back).findIdx (fun c => decide (old = c)) = front.length := by
        have hnone : front.findIdx (fun c => decide (old = c)) = front.length :=
          List.findIdx_eq_length.mpr fun c hc => decide_eq_false fun he =>
            hfirst (mem_types_iff.mpr ⟨c, hc, he ▸ hold⟩)
        rw [List.findIdx_append, hnone, if_neg (Nat.lt_irrefl _)]
        simp [List.findIdx_cons]
      simp only [if_neg h]
      rw [hplace, List.set_append_right _ _ (Nat.le_refl _), Nat.sub_self, List.set_cons_zero]
      exact .replaced hfirst hold h

/-! ## Many writes -/

/-- Writes leave the types that there are, in their order, and add the new ones behind. -/
theorem types_setConditions (writes conditions : List Condition) :
    types (setConditions writes conditions) = types conditions ++ newTypes writes (types conditions) := by
  induction writes generalizing conditions with
  | nil => simp [setConditions, newTypes]
  | cons new rest ih =>
    show types (setConditions rest (setCondition new conditions)) = _
    have hsets := sets_setCondition new conditions
    rw [ih]
    by_cases hmem : new.type ∈ types conditions
    · rw [hsets.types_of_mem hmem, newTypes_cons_of_mem hmem]
    · rw [hsets.types_of_not_mem hmem, newTypes_cons_of_not_mem hmem, List.append_assoc, List.singleton_append]

theorem nodup_types_setConditions {conditions : List Condition} (distinct : (types conditions).Nodup)
    (writes : List Condition) : (types (setConditions writes conditions)).Nodup := by
  induction writes generalizing conditions with
  | nil => exact distinct
  | cons new rest ih => exact ih ((sets_setCondition new conditions).nodup distinct)

/-- The last write of a type is seen under it, up to its time. -/
theorem condition?_setConditions_of_mem {type : String} {writes : List Condition} (h : type ∈ types writes)
    (conditions : List Condition) : ∃ last shown, condition? type writes.reverse = some last ∧
      condition? type (setConditions writes conditions) = some shown ∧ shown.Equivalent last := by
  obtain ⟨c, hc, htype⟩ := mem_types_iff.mp h
  obtain ⟨last, hlast⟩ : ∃ last, condition? type writes.reverse = some last :=
    Option.isSome_iff_exists.mp (List.find?_isSome.mpr ⟨c, List.mem_reverse.mpr hc, by simpa using htype⟩)
  obtain ⟨hsame, later, earlier, hwrites, hlater⟩ := List.find?_eq_some_iff_append.mp hlast
  obtain rfl : last.type = type := by simpa using hsame
  obtain rfl : writes = earlier.reverse ++ [last] ++ later.reverse := by simpa using congrArg List.reverse hwrites
  -- after the last write of the type, only other types are written
  have hnone : later.reverse.filter (·.type = last.type) = [] :=
    List.filter_eq_nil_iff.mpr fun c hc => by simpa using hlater c (List.mem_reverse.mp hc)
  let there := setConditions earlier.reverse conditions
  refine ⟨last, last.laidOver (condition? last.type there), hlast, ?_, last.laidOver_equivalent _⟩
  rw [← setConditions_append, condition?_setConditions, hnone, ← setConditions_append]
  exact condition?_setCondition_self last there

/-- Under a type that is not written, what was seen is seen. -/
theorem condition?_setConditions_of_not_mem {type : String} {writes : List Condition} (h : type ∉ types writes)
    (conditions : List Condition) :
    condition? type (setConditions writes conditions) = condition? type conditions := by
  have hnone : writes.filter (·.type = type) = [] :=
    List.filter_eq_nil_iff.mpr fun c hc => by simpa using fun he => h (mem_types_iff.mpr ⟨c, hc, he⟩)
  rw [condition?_setConditions, hnone, List.foldl_nil]

namespace Record

/-- Calls set their conditions as one call would. -/
theorem foldl_setConditions (r : Record) (calls : List (List Condition)) :
    calls.foldl setConditions r = r.setConditions calls.flatten := by
  induction calls generalizing r with
  | nil => rfl
  | cons call rest ih =>
    rw [List.foldl_cons, ih, List.flatten_cons]
    unfold setConditions
    rw [setConditions_append]

/-- **Conditions of different types are a map from types, and their times are those of real changes.** Whatever the
calls, types stay different and in their order, and new ones follow in the order in which they first appear. Under
each type given the last condition given for it is seen, up to its time, and nothing is touched under any other
type. Whatever the types were, a write replaces at most the first condition of its type, and all others stay where
they are, or there is none of its type, and it is appended. The time at a place changes only by a write of that type
whose status, reason or message differs from what is there. -/
theorem setConditions_keyed (r : Record) (calls : List (List Condition)) :
    let writes := calls.flatten
    let r' := calls.foldl setConditions r
    ((types r.conditions).Nodup →
      (types r'.conditions).Nodup ∧
      types r'.conditions = types r.conditions ++ newTypes writes (types r.conditions) ∧
      (∀ type ∈ types writes, ∃ last shown, InfluxKeeper.condition? type writes.reverse = some last ∧
        r'.condition? type = some shown ∧ shown.Equivalent last) ∧
      ∀ type ∉ types writes, r'.condition? type = r.condition? type) ∧
    r' = r.setConditions writes ∧
    ∀ (earlier later : List Condition) (new : Condition), writes = earlier ++ new :: later →
      let before := (r.setConditions earlier).conditions
      let after := (r.setConditions (earlier ++ [new])).conditions
      new.Sets before after ∧
      ∀ (i : Nat) (old : Condition), before[i]? = some old → ∃ next, after[i]? = some next ∧
        (next.lastTransitionTime ≠ old.lastTransitionTime → next = new ∧ new.type = old.type ∧
          (new.status, new.reason, new.message) ≠ (old.status, old.reason, old.message)) := by
  intro writes r'
  have hr' : r' = r.setConditions writes := r.foldl_setConditions calls
  refine ⟨fun distinct => ?_, hr', fun earlier later new _ => ?_⟩
  · rw [hr']
    exact ⟨nodup_types_setConditions distinct writes, types_setConditions writes r.conditions,
      fun type htype => condition?_setConditions_of_mem htype r.conditions,
      fun type htype => condition?_setConditions_of_not_mem htype r.conditions⟩
  · intro before after
    have hafter : after = setCondition new before := (setConditions_append earlier [new] r.conditions).symm
    have hsets : new.Sets before after := hafter ▸ sets_setCondition new before
    refine ⟨hsets, fun i old hold => ?_⟩
    rcases hsets.getElem? hold with hkept | ⟨hnew, htype, hdiffer⟩
    · exact ⟨old, hkept, fun h => absurd rfl h⟩
    · refine ⟨new, hnew, fun _ => ⟨rfl, htype.symm, fun h => hdiffer ?_⟩⟩
      obtain ⟨hstatus, hreason, hmessage⟩ : new.status = old.status ∧ new.reason = old.reason ∧
          new.message = old.message := by simpa using h
      exact ⟨htype, hstatus.symm, hreason.symm, hmessage.symm⟩

/-- An organization with conditions. -/
def showing (conditions : List Condition) : Record :=
  ⟨defaultApiVersion, ⟨"acme", [], [], none⟩, conditions, .organization ⟨none⟩ .empty⟩

/-- A Ready condition that is written twice in one call is there once, as it was written last, and Synced comes
behind it. Of two Ready conditions only the first gives way, with its time. -/
theorem setConditions_keyed_rewritten :
    let once := showing [.available (.ofSeconds 0 0)]
    let calls : List (List Condition) :=
      [[.creating (.ofSeconds 1 0), .synced (.ofSeconds 1 0), .unavailable (.ofSeconds 1 0)],
        [.synced (.ofSeconds 2 0)]]
    let twice := showing [.available (.ofSeconds 0 0), .deleting (.ofSeconds 0 0)]
    let new : Condition := .creating (.ofSeconds 1 0)
    ((types once.conditions).Nodup ∧ types (calls.foldl setConditions once).conditions = ["Ready", "Synced"] ∧
      (∃ shown, (calls.foldl setConditions once).condition? "Ready" = some shown ∧
        shown.Equivalent (.unavailable (.ofSeconds 1 0))) ∧
      (calls.foldl setConditions once).condition? "Healthy" = none) ∧
    (twice.setConditions [new]).conditions = [new, .deleting (.ofSeconds 0 0)] ∧
    new.Sets twice.conditions (twice.setConditions [new]).conditions ∧
    ∃ next, (twice.setConditions [new]).conditions[0]? = some next ∧
      next.lastTransitionTime ≠ .ofSeconds 0 0 ∧ next = new := by
  intro once calls twice new
  have distinct : (types once.conditions).Nodup := by decide
  obtain ⟨-, horder, hgiven, hothers⟩ := (once.setConditions_keyed calls).1 distinct
  obtain ⟨last, shown, hlast, hshown, hsame⟩ := hgiven "Ready" (by decide)
  obtain ⟨hsets, htimes⟩ := (twice.setConditions_keyed [[new]]).2.2 [] [] new rfl
  obtain ⟨next, hnext, htime⟩ := htimes 0 (.available (.ofSeconds 0 0)) rfl
  have hlater : next.lastTransitionTime ≠ .ofSeconds 0 0 := by
    obtain rfl : new = next := Option.some.inj hnext
    decide
  refine ⟨⟨distinct, horder.trans (by decide), ⟨shown, hshown, ?_⟩, hothers "Healthy" (by decide)⟩, by decide,
    hsets, next, hnext, hlater, (htime hlater).1⟩
  obtain rfl : .unavailable (.ofSeconds 1 0) = last := Option.some.inj hlast
  exact hsame

/-- A condition of a type that is not there makes conditions more, also where one type is there twice. -/
theorem setConditions_keyed_longer :
    let twice := showing [.available (.ofSeconds 0 0), .deleting (.ofSeconds 0 0)]
    ¬(types twice.conditions).Nodup ∧
      (twice.setConditions [.synced (.ofSeconds 1 0)]).conditions.length ≠ twice.conditions.length := by
  decide

end Record

end InfluxKeeper
