import InfluxKeeper.Bucket.Basic
import InfluxKeeper.Value.Fill

/-!
# Retention rules

Rules are compared by a key: their type, their seconds, and the duration of their shards, where a duration
that is not set counts as zero. A rule to expire data after zero seconds keeps it for ever and means the
same as no rule, so it is dropped before two lists are compared.
-/

namespace InfluxKeeper.Bucket

namespace RetentionRule

/-- The duration of a rule's shards, zero if it is not set. -/
def shardSeconds (r : RetentionRule) : Int := r.shardGroupDurationSeconds.getD 0

/-- What a rule is compared by. -/
def key (r : RetentionRule) : String × Int × Int := (r.type, r.everySeconds, r.shardSeconds)

/-- Whether a rule may stand before another: by type, then by seconds, then by duration. -/
def before (a b : RetentionRule) : Bool :=
  if a.type ≠ b.type then a.type < b.type
  else if a.everySeconds ≠ b.everySeconds then a.everySeconds < b.everySeconds
  else a.shardSeconds ≤ b.shardSeconds

/-- Whether two rules say the same. -/
def agrees (a b : RetentionRule) : Bool := a.key == b.key

/-- Whether a rule keeps data for ever. -/
def keepsForever (r : RetentionRule) : Bool := r.type == "expire" && r.everySeconds == 0

end RetentionRule

/-- Rules in order; rules that say the same keep their places relative to each other. -/
def sortRules (rules : List RetentionRule) : List RetentionRule := rules.mergeSort RetentionRule.before

/-- The rules that limit how long data is kept, in order. -/
def canonicalRules (rules : List RetentionRule) : List RetentionRule :=
  sortRules (rules.filter fun r => !r.keepsForever)

/-- Sorting keeps the rules. -/
theorem sortRules_perm (rules : List RetentionRule) : (sortRules rules).Perm rules :=
  List.mergeSort_perm rules _

/-- Whether two lists of rules say the same. -/
def sameRules (desired observed : List RetentionRule) : Bool :=
  (canonicalRules desired).map RetentionRule.key == (canonicalRules observed).map RetentionRule.key

/-- A rule with the shard duration of an observed rule of the same type, if it has none. -/
def fillRule (want have' : RetentionRule) : Filled RetentionRule :=
  if want.type = have'.type then
    let filled := fillNumber want.shardGroupDurationSeconds have'.shardGroupDurationSeconds
    ⟨{ want with shardGroupDurationSeconds := filled.value }, filled.changed⟩
  else ⟨want, false⟩

/-- The places of rules in the order of the rules. -/
def placesInOrder (rules : List RetentionRule) : List Nat :=
  (rules.zipIdx.mergeSort fun a b => a.1.before b.1).map (·.2)

/-- The rule at each place after filling: the rule that comes n-th in order is filled from the n-th
observed rule. -/
def fillRules (desired observed : List RetentionRule) : Filled (List RetentionRule) :=
  let partners := (placesInOrder desired).zip (sortRules observed)
  let filled := desired.zipIdx.map fun (rule, place) =>
    match partners.lookup place with
    | some partner => fillRule rule partner
    | none => ⟨rule, false⟩
  ⟨filled.map (·.value), filled.any (·.changed)⟩

/-- Filling keeps the number of rules. -/
@[simp] theorem length_fillRules (desired observed : List RetentionRule) :
    (fillRules desired observed).value.length = desired.length := by
  simp [fillRules]

end InfluxKeeper.Bucket
