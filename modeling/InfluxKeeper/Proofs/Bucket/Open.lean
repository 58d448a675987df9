import InfluxKeeper.Proofs.Bucket.Settling
import Mathlib.Logic.Basic
import Mathlib.Tactic.ByContra

/-!
# What a filling takes from a bucket

Parameters take from a bucket what they leave open, and leave nothing else changed (`TakesFrom`). What they take
is no longer open, so the number of open parameters pays for the fillings that change something:

> `openFields_filledFrom_lt`: a filling that changes parameters leaves fewer of them open.

This holds of a filling that fails halfway as well: up to the rules it is a filling from a bucket without rules
(`exists_filledFrom`).
-/

namespace InfluxKeeper

/-- A value that is filled stays, or was null and is the observed one. -/
theorem value_fill_cases (desired observed : Value) :
    (fill desired observed).value = desired ∨ desired = .null ∧ (fill desired observed).value = observed := by
  unfold fill
  split
  next h => exact Or.inr ⟨Value.eq_null_of_isNull (Bool.and_eq_true_iff.mp h).1, rfl⟩
  next => exact Or.inl rfl

/-- A text that is filled stays, or did not count as true and is the observed one. -/
theorem value_fillText_cases (desired observed : Value) :
    (fillText desired observed).value = desired ∨
      desired.truthy = false ∧ (fillText desired observed).value = observed := by
  unfold fillText
  split
  next h => exact Or.inr ⟨(Bool.not_eq_true' _).mp (Bool.and_eq_true_iff.mp h).1, rfl⟩
  next => exact Or.inl rfl

/-- A filling leaves no value open that was not. -/
theorem isNull_fill_le (desired observed : Value) :
    (fill desired observed).value.isNull.toNat ≤ desired.isNull.toNat := by
  rcases value_fill_cases desired observed with h | ⟨rfl, -⟩
  · exact Nat.le_of_eq (by rw [h])
  · exact Bool.toNat_le _

/-- A filling that changes a value leaves it no longer open. -/
theorem isNull_fill_lt {desired observed : Value} (h : (fill desired observed).value ≠ desired) :
    (fill desired observed).value.isNull.toNat < desired.isNull.toNat := by
  obtain ⟨rfl, hvalue⟩ := (value_fill_cases desired observed).resolve_left h
  have hset : (fill .null observed).value.isNull = false :=
    Bool.eq_false_iff.mpr fun hnull => h (Value.eq_null_of_isNull hnull)
  rw [hset]
  exact Nat.zero_lt_one

theorem open_fillText_le (desired observed : Value) :
    (!(fillText desired observed).value.truthy).toNat ≤ (!desired.truthy).toNat := by
  rcases value_fillText_cases desired observed with h | ⟨h, -⟩
  · exact Nat.le_of_eq (by rw [h])
  · rw [h]
    exact Bool.toNat_le _

theorem open_fillText_lt {desired observed : Value} (h : (fillText desired observed).value ≠ desired) :
    (!(fillText desired observed).value.truthy).toNat < (!desired.truthy).toNat := by
  unfold fillText at h ⊢
  split at h
  next hopen =>
    obtain ⟨hdesired, hobserved⟩ := Bool.and_eq_true_iff.mp hopen
    rw [if_pos hopen, hobserved, hdesired]
    exact Nat.zero_lt_one
  next => exact absurd rfl h

namespace Bucket

/-! ## What is taken -/

/-- Parameters after a filling beside those before it. What changed was open: null, or a schema type that does
not count as true, or a rule without a duration. A parameter that changed is what the bucket has, and a rule that
changed has the duration of the observed rule that comes at its place when both lists are put in order, which is of
its type. -/
structure TakesFrom (entries : Entries) (observed : List RetentionRule) (p q : Parameters) : Prop where
  description : q.description = p.description ∨
    p.description = .null ∧ q.description = entries.get "description"
  rp : q.rp = p.rp ∨ p.rp = .null ∧ q.rp = entries.get "rp"
  schemaType : q.schemaType = p.schemaType ∨
    p.schemaType.truthy = false ∧ q.schemaType = entries.get "schemaType"
  organization : q.orgID = p.orgID ∧ q.orgIDRef = p.orgIDRef ∧ q.orgIDSelector = p.orgIDSelector
  listed : q.retentionRules.length = p.retentionRules.length
  rules : ∀ (i : Nat) (r r' : RetentionRule), p.retentionRules[i]? = some r →
    q.retentionRules[i]? = some r' → r' ≠ r →
      r.shardGroupDurationSeconds = none ∧ ∃ (place : Nat) (partner : RetentionRule),
        (inOrder p.retentionRules)[place]? = some (r, i) ∧ (sortRules observed)[place]? = some partner ∧
          partner.type = r.type ∧
            r' = { r with shardGroupDurationSeconds := partner.shardGroupDurationSeconds }

/-- A rule that changes had no duration, and takes that of the rule of its type at its place in order. -/
theorem exists_partner {desired observed : List RetentionRule} {i : Nat} {r : RetentionRule}
    (hr : desired[i]? = some r) (hchanged : r.take (offeredAt desired observed (r, i)) ≠ r) :
    r.shardGroupDurationSeconds = none ∧ ∃ (place : Nat) (partner : RetentionRule),
      (inOrder desired)[place]? = some (r, i) ∧ (sortRules observed)[place]? = some partner ∧
        partner.type = r.type ∧ r.take (offeredAt desired observed (r, i)) =
          { r with shardGroupDurationSeconds := partner.shardGroupDurationSeconds } := by
  have hopen : r.shardGroupDurationSeconds = none := by
    by_contra hset
    exact hchanged (RetentionRule.take_of_ne_none hset _)
  refine ⟨hopen, placeOf desired (r, i), ?_⟩
  unfold offeredAt at hchanged ⊢
  cases hpartner : (sortRules observed)[placeOf desired (r, i)]? with
  | none =>
    rw [hpartner] at hchanged
    exact absurd (RetentionRule.take_none r) hchanged
  | some partner =>
    rw [hpartner] at hchanged
    by_cases htype : r.type = partner.type
    · refine ⟨partner, getElem?_inOrder (List.mem_zipIdx_iff_getElem?.mpr hr), rfl, htype.symm, ?_⟩
      show r.take (if r.type = partner.type then _ else none) = _
      rw [if_pos htype]
      unfold RetentionRule.take
      rw [hopen, Option.none_or]
    · have hnothing : offer r (some partner) = none := if_neg htype
      rw [hnothing] at hchanged
      exact absurd (RetentionRule.take_none r) hchanged

/-- A filling takes what is open, and leaves all else. -/
theorem takesFrom_filledFrom (p : Parameters) (entries : Entries) (observed : List RetentionRule) :
    TakesFrom entries observed p (p.filledFrom entries observed) where
  description := value_fill_cases _ _
  rp := value_fill_cases _ _
  schemaType := value_fillText_cases _ _
  organization := ⟨rfl, rfl, rfl⟩
  listed := length_fillRules _ _
  rules i r r' hr hr' hne := by
    have hfilled := getElem?_fillRules p.retentionRules observed i
    rw [hr, Option.map_some] at hfilled
    obtain rfl : r.take (offeredAt p.retentionRules observed (r, i)) = r' :=
      Option.some.inj (hfilled.symm.trans hr')
    exact exists_partner hr hne

/-! ## What is left open -/

/-- The number of parameters that are open: the description, the retention policy and the schema type, and the
duration of each rule. -/
def Parameters.openFields (p : Parameters) : Nat :=
  p.description.isNull.toNat + p.rp.isNull.toNat + (!p.schemaType.truthy).toNat +
    (openRules p.retentionRules).length

theorem openFields_le (p : Parameters) : p.openFields ≤ p.retentionRules.length + 3 := by
  have hdescription := Bool.toNat_le p.description.isNull
  have hrp := Bool.toNat_le p.rp.isNull
  have htype := Bool.toNat_le (!p.schemaType.truthy)
  have hrules : (openRules p.retentionRules).length ≤ p.retentionRules.length :=
    List.length_filter_le _ _
  unfold Parameters.openFields
  omega

theorem length_openRules (rules : List RetentionRule) :
    (openRules rules).length = rules.zipIdx.countP fun e => e.1.shardGroupDurationSeconds.isNone := by
  have hcount := List.countP_map (p := fun r : RetentionRule => r.shardGroupDurationSeconds.isNone)
    (f := Prod.fst) (l := rules.zipIdx)
  rw [List.zipIdx_map_fst] at hcount
  exact (List.countP_eq_length_filter ..).symm.trans hcount

theorem length_openRules_fillRules (desired observed : List RetentionRule) :
    (openRules (fillRules desired observed).value).length = desired.zipIdx.countP fun e =>
      (e.1.take (offeredAt desired observed e)).shardGroupDurationSeconds.isNone := by
  unfold openRules
  rw [← List.countP_eq_length_filter, value_fillRules, List.countP_map]
  rfl

/-- A rule that is open after it has taken something was open before. -/
theorem isNone_of_take {r : RetentionRule} {offered : Option Int}
    (h : (r.take offered).shardGroupDurationSeconds.isNone = true) :
    r.shardGroupDurationSeconds.isNone = true := by
  rw [Option.isNone_iff_eq_none] at h ⊢
  exact (Option.or_eq_none_iff.mp h).1

/-- A filling opens no rule. -/
theorem length_openRules_fillRules_le (desired observed : List RetentionRule) :
    (openRules (fillRules desired observed).value).length ≤ (openRules desired).length := by
  rw [length_openRules_fillRules, length_openRules]
  exact List.countP_mono_left fun e _ => isNone_of_take

/-- A filling that changes rules leaves fewer of them open: one that changed is no longer open. -/
theorem length_openRules_fillRules_lt {desired observed : List RetentionRule}
    (h : (fillRules desired observed).value ≠ desired) :
    (openRules (fillRules desired observed).value).length < (openRules desired).length := by
  obtain ⟨e, he, hchanged⟩ : ∃ e ∈ desired.zipIdx, e.1.take (offeredAt desired observed e) ≠ e.1 := by
    by_contra hnone
    refine h ((value_fillRules desired observed).trans ?_)
    rw [List.map_congr_left fun e he => Decidable.not_not.mp fun hne => hnone ⟨e, he, hne⟩]
    exact List.zipIdx_map_fst 0 desired
  have hopen : e.1.shardGroupDurationSeconds = none := by
    by_contra hset
    exact hchanged (RetentionRule.take_of_ne_none hset _)
  have hset : (e.1.take (offeredAt desired observed e)).shardGroupDurationSeconds.isNone = false := by
    rw [RetentionRule.shardGroupDurationSeconds_take_of_none hopen, Bool.eq_false_iff]
    intro hnothing
    rw [Option.isNone_iff_eq_none.mp hnothing] at hchanged
    exact hchanged (RetentionRule.take_none e.1)
  rw [length_openRules_fillRules, length_openRules]
  exact countP_lt_of_imp (fun f _ => isNone_of_take) he hset (Option.isNone_iff_eq_none.mpr hopen)

/-- A filling opens nothing. -/
theorem openFields_filledFrom_le (p : Parameters) (entries : Entries) (observed : List RetentionRule) :
    (p.filledFrom entries observed).openFields ≤ p.openFields := by
  have hdescription := isNull_fill_le p.description (entries.get "description")
  have hrp := isNull_fill_le p.rp (entries.get "rp")
  have htype := open_fillText_le p.schemaType (entries.get "schemaType")
  have hrules := length_openRules_fillRules_le p.retentionRules observed
  unfold Parameters.openFields Parameters.filledFrom
  dsimp only
  omega

/-- **What is taken is no longer open.** A filling that changes parameters leaves fewer of them open. -/
theorem openFields_filledFrom_lt {p : Parameters} {entries : Entries} {observed : List RetentionRule}
    (h : p.filledFrom entries observed ≠ p) : (p.filledFrom entries observed).openFields < p.openFields := by
  have hdescription := isNull_fill_le p.description (entries.get "description")
  have hrp := isNull_fill_le p.rp (entries.get "rp")
  have htype := open_fillText_le p.schemaType (entries.get "schemaType")
  have hrules := length_openRules_fillRules_le p.retentionRules observed
  rw [ne_eq, Parameters.filledFrom_eq_self_iff, not_and_or, not_and_or, not_and_or] at h
  unfold Parameters.openFields Parameters.filledFrom
  dsimp only
  rcases h with h | h | h | h
  · have := isNull_fill_lt h
    omega
  · have := isNull_fill_lt h
    omega
  · have := open_fillText_lt h
    omega
  · have := length_openRules_fillRules_lt h
    omega

/-! ## Any filling -/

/-- Whatever parameters are filled from, they stay or are filled from a bucket, one without rules if the rules
make no sense. -/
theorem exists_filledFrom (p : Parameters) (v : Value) :
    (lateInitialize p v).2 = p ∨
      ∃ (entries : Entries) (observed : List RetentionRule),
        (lateInitialize p v).2 = p.filledFrom entries observed := by
  unfold lateInitialize
  split
  next entries =>
    dsimp only
    cases observedRules (.map entries) with
    | error fault =>
      refine Or.inr ⟨entries, [], ?_⟩
      have hrules : (fillRules p.retentionRules []).value = p.retentionRules := by
        rw [value_fillRules_of_ordered List.Pairwise.nil]
        simp only [List.getElem?_nil, offer, RetentionRule.take_none, List.zipIdx_map_fst]
      unfold Parameters.filledFrom
      rw [hrules]
    | ok observed => exact Or.inr ⟨entries, observed, rfl⟩
  next => exact Or.inl rfl

/-- No filling opens anything, also none that fails. -/
theorem openFields_lateInitialize_le (p : Parameters) (v : Value) :
    (lateInitialize p v).2.openFields ≤ p.openFields := by
  rcases exists_filledFrom p v with h | ⟨entries, observed, h⟩
  · exact Nat.le_of_eq (by rw [h])
  · rw [h]
    exact openFields_filledFrom_le p entries observed

end Bucket

end InfluxKeeper
