import InfluxKeeper.Bucket.Sync
import InfluxKeeper.Proofs.Bucket.Places

/-!
# Filling retention rules

A rule is offered a duration by the observed rule at its place in order, or it is offered nothing: beyond the
end of the observed rules, by a rule of another type, or by one without a duration. What is offered depends on
the rule that takes it by its type and its place only, and this is how later modules compare two fillings.

> `getElem?_fillRules`: every rule takes what it is offered at its place, and stays where it is listed.
> `lateInitialize_eq`: a filling of parameters tells that it changed something exactly if it did.
-/

namespace InfluxKeeper.Bucket

/-! ## What is offered -/

/-- The duration that an observed rule offers to a rule, if it is there, of the same type, and has one. -/
def offer (want : RetentionRule) : Option RetentionRule → Option Int
  | some partner => if want.type = partner.type then partner.shardGroupDurationSeconds else none
  | none => none

/-- What a listed rule is offered at its place in order. -/
def offeredAt (desired observed : List RetentionRule) (e : RetentionRule × Nat) : Option Int :=
  offer e.1 (sortRules observed)[placeOf desired e]?

namespace RetentionRule

/-- A rule with an offered duration, if it has none. -/
def take (r : RetentionRule) (offered : Option Int) : RetentionRule :=
  { r with shardGroupDurationSeconds := r.shardGroupDurationSeconds.or offered }

variable {r : RetentionRule}

@[simp] theorem take_none (r : RetentionRule) : r.take none = r := by
  unfold take
  rw [Option.or_none]

/-- A rule takes nothing from itself. -/
theorem take_self (r : RetentionRule) : r.take r.shardGroupDurationSeconds = r := by
  unfold take
  rw [Option.or_self]

/-- A rule with a duration takes none. -/
theorem take_of_ne_none (h : r.shardGroupDurationSeconds ≠ none) (offered : Option Int) :
    r.take offered = r := by
  obtain ⟨n, hn⟩ := Option.ne_none_iff_exists'.mp h
  unfold take
  rw [hn, Option.some_or, ← hn]

/-- A rule without a duration has the one that it is offered. -/
theorem shardGroupDurationSeconds_take_of_none (h : r.shardGroupDurationSeconds = none)
    (offered : Option Int) : (r.take offered).shardGroupDurationSeconds = offered := by
  unfold take
  rw [h, Option.none_or]

end RetentionRule

theorem fillNumber_eq (desired observed : Option Int) :
    fillNumber desired observed = ⟨desired.or observed, decide (desired.or observed ≠ desired)⟩ := by
  cases desired <;> cases observed <;> simp [fillNumber]

theorem fillRule_eq (want partner : RetentionRule) :
    fillRule want partner =
      ⟨want.take (offer want (some partner)), decide (want.take (offer want (some partner)) ≠ want)⟩ := by
  obtain ⟨type, every, shard⟩ := want
  unfold fillRule offer
  by_cases htype : type = partner.type
  · simp [htype, fillNumber_eq, RetentionRule.take]
  · simp [htype]

/-- What becomes of a rule at its place when rules are filled. -/
def filledAt (desired observed : List RetentionRule) (e : RetentionRule × Nat) :
    Filled RetentionRule :=
  match ((placesInOrder desired).zip (sortRules observed)).lookup e.2 with
  | some partner => fillRule e.1 partner
  | none => ⟨e.1, false⟩

/-- Filling rules fills the rule at each place. -/
theorem fillRules_eq (desired observed : List RetentionRule) :
    fillRules desired observed =
      ⟨(desired.zipIdx.map (filledAt desired observed)).map (·.value),
        (desired.zipIdx.map (filledAt desired observed)).any (·.changed)⟩ := rfl

/-- A rule takes what is offered at its place in order. -/
theorem filledAt_eq {desired : List RetentionRule} {e : RetentionRule × Nat} (he : e ∈ desired.zipIdx)
    (observed : List RetentionRule) :
    filledAt desired observed e =
      ⟨e.1.take (offeredAt desired observed e), decide (e.1.take (offeredAt desired observed e) ≠ e.1)⟩ := by
  have hplace : (placesInOrder desired)[placeOf desired e]? = some e.2 := by
    show ((inOrder desired).map (·.2))[placeOf desired e]? = some e.2
    rw [List.getElem?_map, getElem?_inOrder he]
    rfl
  unfold filledAt offeredAt
  rw [lookup_zip_of_getElem? (nodup_placesInOrder desired) hplace]
  cases (sortRules observed)[placeOf desired e]? with
  | none => simp [offer]
  | some partner => exact fillRule_eq e.1 partner

theorem value_fillRules (desired observed : List RetentionRule) :
    (fillRules desired observed).value =
      desired.zipIdx.map fun e => e.1.take (offeredAt desired observed e) := by
  rw [fillRules_eq, List.map_map]
  exact List.map_congr_left fun e he => congrArg (·.value) (filledAt_eq he observed)

theorem value_fillRules_of_ordered {observed : List RetentionRule} (h : Ordered observed)
    (desired : List RetentionRule) :
    (fillRules desired observed).value =
      desired.zipIdx.map fun e => e.1.take (offer e.1 observed[placeOf desired e]?) := by
  rw [value_fillRules]
  unfold offeredAt
  rw [sortRules_of_ordered h]

/-- Filled rules stay where they are listed. -/
theorem getElem?_fillRules (desired observed : List RetentionRule) (i : Nat) :
    (fillRules desired observed).value[i]? =
      desired[i]?.map fun r => r.take (offeredAt desired observed (r, i)) := by
  rw [value_fillRules, List.getElem?_map, List.getElem?_zipIdx, Option.map_map]
  simp only [Function.comp_def, Nat.zero_add]

theorem zipIdx_fillRules (desired observed : List RetentionRule) :
    (fillRules desired observed).value.zipIdx =
      desired.zipIdx.map fun e => (e.1.take (offeredAt desired observed e), e.2) := by
  refine List.ext_getElem? fun i => ?_
  rw [List.getElem?_zipIdx, getElem?_fillRules, List.getElem?_map, List.getElem?_zipIdx]
  cases desired[i]? with
  | none => rfl
  | some r => simp

/-- The place of a rule among filled rules. -/
theorem placeOf_fillRules (desired observed : List RetentionRule) (e : RetentionRule × Nat) :
    placeOf (fillRules desired observed).value e =
      desired.zipIdx.countP fun f => ahead (f.1.take (offeredAt desired observed f), f.2) e := by
  unfold placeOf
  rw [zipIdx_fillRules, List.countP_map]
  rfl

/-- A filling tells whether it changed anything. -/
theorem changed_fillRules_eq_false_iff {desired observed : List RetentionRule} :
    (fillRules desired observed).changed = false ↔ (fillRules desired observed).value = desired := by
  rw [show (fillRules desired observed).value = desired ↔
      (fillRules desired observed).value = desired.zipIdx.map Prod.fst by rw [List.zipIdx_map_fst],
    value_fillRules, List.map_inj_left, fillRules_eq]
  dsimp only
  rw [List.any_map, List.any_eq_false]
  refine forall₂_congr fun e he => ?_
  rw [Function.comp_apply, filledAt_eq he]
  simp

/-- What becomes of a rule at a place in order. -/
def takenAt (observed : List RetentionRule) (e : RetentionRule × Nat) : RetentionRule :=
  e.1.take (offer e.1 (sortRules observed)[e.2]?)

/-- The rules in order, each with what it is offered at its place. -/
def filledInOrder (desired observed : List RetentionRule) : List RetentionRule :=
  (sortRules desired).zipIdx.map (takenAt observed)

theorem map_take_inOrder (desired observed : List RetentionRule) :
    (inOrder desired).map (fun e => e.1.take (offeredAt desired observed e)) =
      filledInOrder desired observed := by
  unfold filledInOrder
  refine List.ext_getElem? fun n => ?_
  rw [← map_fst_inOrder desired, List.getElem?_map, List.getElem?_map, List.getElem?_zipIdx,
    List.getElem?_map]
  cases hn : (inOrder desired)[n]? with
  | none => rfl
  | some e => simp [takenAt, offeredAt, placeOf_of_getElem? hn]

/-- Up to where they are listed, filled rules depend on the order of the rules only. -/
theorem fillRules_perm (desired observed : List RetentionRule) :
    (fillRules desired observed).value.Perm (filledInOrder desired observed) := by
  rw [value_fillRules, ← map_take_inOrder]
  exact (inOrder_perm desired).symm.map _

/-- A filling changes rules exactly if it changes one of them in order. -/
theorem fillRules_eq_self_iff {desired observed : List RetentionRule} :
    (fillRules desired observed).value = desired ↔ filledInOrder desired observed = sortRules desired := by
  have hlisted : (fillRules desired observed).value = desired ↔
      ∀ e ∈ desired.zipIdx, e.1.take (offeredAt desired observed e) = e.1 := by
    rw [value_fillRules, ← List.map_inj_left, List.zipIdx_map_fst]
  have hordered : filledInOrder desired observed = sortRules desired ↔
      ∀ e ∈ inOrder desired, e.1.take (offeredAt desired observed e) = e.1 := by
    rw [← map_take_inOrder, ← List.map_inj_left, map_fst_inOrder]
  rw [hlisted, hordered]
  exact forall_congr' fun e => imp_congr_left (inOrder_perm desired).mem_iff.symm

/-! ## Rules that offer a duration -/

/-- Observed rules that offer a duration of one second to every rule of a type up to a place. -/
def offering (type : String) (places : Nat) : List RetentionRule := List.replicate places ⟨type, 1, some 1⟩

theorem ordered_offering (type : String) (places : Nat) : Ordered (offering type places) :=
  List.pairwise_replicate.mpr (Or.inr (RetentionRule.before_of_key_eq rfl))

theorem offer_offering (want : RetentionRule) (type : String) (places n : Nat) :
    offer want (offering type places)[n]? = if n < places ∧ want.type = type then some 1 else none := by
  unfold offering
  rw [List.getElem?_replicate]
  by_cases hn : n < places
  · rw [if_pos hn]
    show (if want.type = type then some 1 else none) = _
    by_cases htype : want.type = type
    · rw [if_pos htype, if_pos ⟨hn, htype⟩]
    · rw [if_neg htype, if_neg fun h => htype h.2]
  · rw [if_neg hn, if_neg fun h => hn h.1]
    rfl

theorem offeredAt_offering (desired : List RetentionRule) (type : String) (places : Nat)
    (e : RetentionRule × Nat) :
    offeredAt desired (offering type places) e =
      if placeOf desired e < places ∧ e.1.type = type then some 1 else none := by
  unfold offeredAt
  rw [sortRules_of_ordered (ordered_offering type places), offer_offering]

/-- A rule that takes a duration of one second says something else. -/
theorem key_take_one_ne {r : RetentionRule} (hopen : r.shardGroupDurationSeconds = none) :
    (r.take (some 1)).key ≠ r.key := by
  intro hkey
  have hseconds := (RetentionRule.key_eq_iff.mp hkey).2.2
  unfold RetentionRule.shardSeconds at hseconds
  rw [RetentionRule.shardGroupDurationSeconds_take_of_none hopen, hopen] at hseconds
  exact absurd hseconds (by decide)

theorem takenAt_offering (type : String) (places : Nat) (e : RetentionRule × Nat) :
    takenAt (offering type places) e =
      e.1.take (if e.2 < places ∧ e.1.type = type then some 1 else none) := by
  unfold takenAt
  rw [sortRules_of_ordered (ordered_offering type places), offer_offering]

/-! ## Filling parameters -/

/-- Parameters filled from a bucket that has some rules. -/
def Parameters.filledFrom (p : Parameters) (entries : Entries) (observed : List RetentionRule) :
    Parameters :=
  { p with
    description := (fill p.description (entries.get "description")).value
    rp := (fill p.rp (entries.get "rp")).value
    schemaType := (fillText p.schemaType (entries.get "schemaType")).value
    retentionRules := (fillRules p.retentionRules observed).value }

theorem Parameters.filledFrom_eq_self_iff {p : Parameters} {entries : Entries}
    {observed : List RetentionRule} :
    p.filledFrom entries observed = p ↔
      (fill p.description (entries.get "description")).value = p.description ∧
        (fill p.rp (entries.get "rp")).value = p.rp ∧
        (fillText p.schemaType (entries.get "schemaType")).value = p.schemaType ∧
        (fillRules p.retentionRules observed).value = p.retentionRules := by
  obtain ⟨description, orgID, orgIDRef, orgIDSelector, rp, retentionRules, schemaType⟩ := p
  simp only [filledFrom, Parameters.mk.injEq, true_and]
  exact ⟨fun ⟨h₁, h₂, h₃, h₄⟩ => ⟨h₁, h₂, h₄, h₃⟩, fun ⟨h₁, h₂, h₃, h₄⟩ => ⟨h₁, h₂, h₄, h₃⟩⟩

/-- A filling of parameters tells that it changed something exactly if it did. -/
theorem lateInitialize_eq {p : Parameters} {entries : Entries} {observed : List RetentionRule}
    (h : observedRules (.map entries) = .ok observed) :
    lateInitialize p (.map entries) =
      (.ok (decide (p.filledFrom entries observed ≠ p)), p.filledFrom entries observed) := by
  have hflag : ((fill p.description (entries.get "description")).changed ||
      (fill p.rp (entries.get "rp")).changed ||
      (fillText p.schemaType (entries.get "schemaType")).changed ||
      (fillRules p.retentionRules observed).changed) = false ↔ p.filledFrom entries observed = p := by
    rw [Bool.or_eq_false_iff, Bool.or_eq_false_iff, Bool.or_eq_false_iff, changed_fill_eq_false_iff,
      changed_fill_eq_false_iff, changed_fillText_eq_false_iff, changed_fillRules_eq_false_iff,
      Parameters.filledFrom_eq_self_iff, and_assoc, and_assoc]
  unfold lateInitialize
  dsimp only
  rw [h]
  dsimp only
  by_cases hp : p.filledFrom entries observed = p
  · rw [hflag.mpr hp, decide_eq_false (not_not_intro hp)]
    rfl
  · rw [eq_true_of_ne_false fun hfalse => hp (hflag.mp hfalse), decide_eq_true hp]
    rfl

/-- A filling succeeds on a bucket whose rules make sense, and fills from these rules. -/
theorem lateInitialize_ok {p p' : Parameters} {v : Value} {changed : Bool}
    (h : lateInitialize p v = (.ok changed, p')) :
    ∃ entries observed, v = .map entries ∧ observedRules (.map entries) = .ok observed ∧
      p' = p.filledFrom entries observed := by
  unfold lateInitialize at h
  split at h
  next entries =>
    dsimp only at h
    split at h
    next => cases h
    next observed hobserved =>
      cases h
      exact ⟨entries, observed, rfl, hobserved, rfl⟩
  next => cases h

end InfluxKeeper.Bucket
