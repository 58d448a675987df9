import InfluxKeeper.Proofs.Bucket.Order
import InfluxKeeper.Proofs.Bucket.Rules
import Mathlib.Data.Multiset.Defs

/-!
# A bucket is as wanted if it limits its data as wanted

Rules are compared in order, place by place, and rules that keep data for ever are left out before. What a
list of rules comes to is therefore a multiset, its limits: the keys of its limiting rules, however they are
listed.

> `upToDate_iff_limits`: a bucket is as wanted exactly if its description and its limits are as wanted.

The comparison puts rules in order by the very keys that it compares, so equal lists of keys and equal
multisets of keys are the same thing (`sameRules_iff`).
-/

namespace InfluxKeeper.Bucket

/-- The rules that limit how long data is kept, as they are listed. -/
def limiting (rules : List RetentionRule) : List RetentionRule := rules.filter fun r => !r.keepsForever

/-- What rules come to: the keys of those that limit how long data is kept. -/
def limits (rules : List RetentionRule) : Multiset Key := (limiting rules).map RetentionRule.key

/-- Limits do not depend on how the limiting rules are listed. -/
theorem limits_of_perm {a b : List RetentionRule} (h : (limiting a).Perm (limiting b)) :
    limits a = limits b :=
  Multiset.coe_eq_coe.mpr (h.map _)

/-- Limits are told by the keys of all rules. -/
theorem limits_of_perm_keys {a b : List RetentionRule}
    (h : (a.map RetentionRule.key).Perm (b.map RetentionRule.key)) : limits a = limits b := by
  have hkeys (rules : List RetentionRule) : (limiting rules).map RetentionRule.key =
      (rules.map RetentionRule.key).filter fun k => !(k.1 == "expire" && k.2.1 == 0) := by
    rw [List.filter_map]
    rfl
  unfold limits
  rw [hkeys, hkeys]
  exact Multiset.coe_eq_coe.mpr (h.filter _)

/-- Two lists of rules say the same exactly if they come to the same. -/
theorem sameRules_iff {desired observed : List RetentionRule} :
    sameRules desired observed = true ↔ limits observed = limits desired := by
  unfold sameRules
  rw [beq_iff_eq, eq_comm (a := limits observed)]
  exact map_key_sortRules_eq_iff.trans Multiset.coe_eq_coe.symm

/-- The comparison asks for the limits and the description, and for nothing else. -/
theorem upToDate_eq {p : Parameters} {entries : Entries} {observed : List RetentionRule}
    (h : observedRules (.map entries) = .ok observed) :
    upToDate p (.map entries) = .ok (decide (limits observed = limits p.retentionRules) &&
      ((entries.get "description").orElse (.text "")).same (p.description.orElse (.text ""))) := by
  refine bind_ok_iff.mpr ⟨observed, h, ?_⟩
  by_cases hlimits : limits observed = limits p.retentionRules
  · rw [if_pos (sameRules_iff.mpr hlimits), decide_eq_true hlimits, Bool.true_and]
    exact bind_ok_iff.mpr ⟨entries.get "description", rfl, rfl⟩
  · rw [if_neg fun hsame => hlimits (sameRules_iff.mp hsame), decide_eq_false hlimits, Bool.false_and]
    rfl

/-- **The comparison is one of multisets.** Whatever rules a bucket has, it can be told whether it is as wanted.
It is exactly if its description is the wanted one and its limits are the wanted ones; so the answer stays when
rules are listed in another order, or rules that keep data for ever are added or dropped, on either side. -/
theorem upToDate_iff_limits {p : Parameters} {entries : Entries} {observed : List RetentionRule}
    (h : observedRules (.map entries) = .ok observed) :
    (∃ verdict : Bool, upToDate p (.map entries) = .ok verdict ∧
      (verdict = true ↔
        ((entries.get "description").orElse (.text "")).same (p.description.orElse (.text "")) = true ∧
          limits observed = limits p.retentionRules)) ∧
    ∀ (p' : Parameters) (entries' : Entries) (observed' : List RetentionRule),
      p'.description = p.description → entries'.get "description" = entries.get "description" →
      observedRules (.map entries') = .ok observed' →
      (limiting p'.retentionRules).Perm (limiting p.retentionRules) →
      (limiting observed').Perm (limiting observed) →
      upToDate p' (.map entries') = upToDate p (.map entries) := by
  constructor
  · refine ⟨_, upToDate_eq h, ?_⟩
    rw [Bool.and_eq_true, decide_eq_true_iff]
    exact and_comm
  · intro p' entries' observed' hwanted hdescription h' hdesired hobserved
    rw [upToDate_eq h, upToDate_eq h', limits_of_perm hdesired, limits_of_perm hobserved, hwanted,
      hdescription]

/-- A bucket with two limiting rules, without a description. -/
def limited : Entries :=
  [(.text "retentionRules", .list [.object [("everySeconds", .int 60), ("shardGroupDurationSeconds", .int 5)],
    .object [("everySeconds", .int 3600), ("shardGroupDurationSeconds", .int 0)]])]

/-- The same bucket, listed the other way round among rules that keep data for ever. -/
def limitedAmongDefaults : Entries :=
  [(.text "retentionRules", .list [.object [("everySeconds", .int 3600), ("shardGroupDurationSeconds", .int 0)],
    .object [("everySeconds", .int 0), ("shardGroupDurationSeconds", .int 7)],
    .object [("everySeconds", .int 60), ("shardGroupDurationSeconds", .int 5)], .object []])]

theorem upToDate_iff_limits_shuffled :
    let wanted : List RetentionRule := [⟨"expire", 3600, none⟩, ⟨"expire", 0, none⟩, ⟨"expire", 60, some 5⟩]
    let p := { Parameters.empty with retentionRules := wanted }
    let p' := { Parameters.empty with retentionRules := [⟨"expire", 60, some 5⟩, ⟨"expire", 3600, none⟩] }
    let observed : List RetentionRule := [⟨"expire", 60, some 5⟩, ⟨"expire", 3600, some 0⟩]
    observedRules (.map limited) = .ok observed ∧
      (∃ verdict : Bool, upToDate p (.map limited) = .ok verdict ∧
        (verdict = true ↔
          ((limited.get "description").orElse (.text "")).same (p.description.orElse (.text "")) = true ∧
            limits observed = limits wanted)) ∧
      upToDate p (.map limited) = .ok true ∧
      upToDate p' (.map limitedAmongDefaults) = upToDate p (.map limited) := by
  intro wanted p p' observed
  have h : observedRules (.map limited) = .ok observed := by decide +kernel
  have h' : observedRules (.map limitedAmongDefaults) = .ok [⟨"expire", 3600, some 0⟩,
      ⟨"expire", 0, some 7⟩, ⟨"expire", 60, some 5⟩, ⟨"expire", 0, none⟩] := by decide +kernel
  obtain ⟨hverdict, hshuffled⟩ := upToDate_iff_limits (p := p) h
  refine ⟨h, hverdict, ?_, hshuffled p' limitedAmongDefaults _ rfl rfl h' (by decide +kernel) (by decide +kernel)⟩
  rw [upToDate_eq h]
  decide +kernel

end InfluxKeeper.Bucket
