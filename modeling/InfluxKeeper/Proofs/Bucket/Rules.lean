import InfluxKeeper.Proofs.Bucket.Filling
import InfluxKeeper.Proofs.Success

/-!
# Retention rules that the server has as they are wanted

Rules are sent as values, and rules are read back from the values that the server holds. Three facts make an
update of the rules settle: a rule is read back as it was sent (`check_toValue`), a list of rules says the
same as itself (`sameRules_self`), and rules filled from themselves stay as they are (`fillRules_self`).

The last one is about the order in which rules are filled: a rule meets the rule at its own place, which is
itself (`offeredAt_self`).
-/

namespace InfluxKeeper.Bucket

open Schema

/-! ## Reading back -/

/-- A rule sent is read back. -/
theorem check_toValue (r : RetentionRule) : RetentionRule.check (r.toValue false) = .valid r := by
  obtain ⟨type, every, shard⟩ := r
  cases shard <;>
    simp [RetentionRule.check, RetentionRule.toValue, Value.model, Value.object, Value.finite,
      Value.isNull, model, fieldOr, field, Entries.get?, Entries.find?, Scalar.isOne, Scalar.same,
      Scalar.number?, text, integer, Schema.optional, Checked.under] <;>
    rfl

/-- What a bucket lists as its rules. -/
def listedItems (entries : Entries) : Except Fault (List Value) :=
  (Entries.getOr entries "retentionRules" (.list [])).getItems

/-- The rules that items are read as. -/
def readRules (items : List Value) : Except Fault (List RetentionRule) :=
  items.mapM fun rule => fit "RetentionRule" (RetentionRule.check rule)

/-- The rules of a bucket are read from the items that it lists. -/
theorem observedRules_of_listed {entries : Entries} {items : List Value}
    (h : listedItems entries = .ok items) : observedRules (.map entries) = readRules items := by
  unfold listedItems at h
  unfold observedRules readRules
  dsimp only
  rw [h]
  rfl

theorem readRules_cons_ok_iff {item : Value} {items : List Value} {rules : List RetentionRule} :
    readRules (item :: items) = .ok rules ↔
      ∃ r rest, RetentionRule.check item = .valid r ∧ readRules items = .ok rest ∧ rules = r :: rest := by
  unfold readRules
  rw [List.mapM_cons, bind_ok_iff]
  constructor
  · intro ⟨r, hr, h⟩
    obtain ⟨rest, hrest, h⟩ := bind_ok_iff.mp h
    cases h
    exact ⟨r, rest, fit_ok_iff.mp hr, hrest, rfl⟩
  · intro ⟨r, rest, hr, hrest, h⟩
    exact ⟨r, fit_ok_iff.mpr hr, bind_ok_iff.mpr ⟨rest, hrest, congrArg _ h.symm⟩⟩

/-- Rules sent are read back. -/
theorem readRules_toValue (rules : List RetentionRule) :
    readRules (rules.map (·.toValue false)) = .ok rules := by
  induction rules with
  | nil => rfl
  | cons r rest ih => exact readRules_cons_ok_iff.mpr ⟨r, rest, check_toValue r, ih, rfl⟩

theorem listedItems_of_get? {entries : Entries} {items : List Value}
    (h : entries.get? "retentionRules" = some (.list items)) : listedItems entries = .ok items := by
  unfold listedItems Entries.getOr Entries.get Value.orElse
  rw [h]
  -- an empty list does not count as true, and is replaced by an empty list
  cases items <;> rfl

/-- The rules of a bucket that holds the values of rules are those rules. -/
theorem observedRules_toValue {entries : Entries} {rules : List RetentionRule}
    (h : entries.get? "retentionRules" = some (.list (rules.map (·.toValue false)))) :
    observedRules (.map entries) = .ok rules :=
  (observedRules_of_listed (listedItems_of_get? h)).trans (readRules_toValue rules)

/-- A bucket of which nothing is known but its rules. -/
def bare (rules : List RetentionRule) : Entries :=
  [(.text "retentionRules", .list (rules.map (·.toValue false)))]

theorem listedItems_bare (rules : List RetentionRule) :
    listedItems (bare rules) = .ok (rules.map (·.toValue false)) :=
  listedItems_of_get? rfl

theorem observedRules_bare (rules : List RetentionRule) : observedRules (.map (bare rules)) = .ok rules :=
  observedRules_toValue rfl

theorem get_bare {key : String} (h : key ≠ "retentionRules") (rules : List RetentionRule) :
    (bare rules).get key = .null := by
  simp [bare, Entries.get, Entries.get?, Entries.find?, h.symm]

/-- Only rules are filled from such a bucket. -/
theorem Parameters.filledFrom_bare {observed : List RetentionRule} (h : Ordered observed) (p : Parameters) :
    p.filledFrom (bare observed) observed =
      { p with
        retentionRules := p.retentionRules.zipIdx.map fun e =>
          e.1.take (offer e.1 observed[placeOf p.retentionRules e]?) } := by
  unfold filledFrom
  have hnull : Value.null.isNull = true := rfl
  have hfalse : Value.null.truthy = false := rfl
  rw [value_fillRules_of_ordered h, get_bare (by decide), get_bare (by decide), get_bare (by decide)]
  simp [fill, fillText, hnull, hfalse]

/-! ## Rules beside themselves -/

theorem sameRules_self (rules : List RetentionRule) : sameRules rules rules = true :=
  beq_self_eq_true _

/-- A rule is offered its own duration, if rules are filled from themselves. -/
theorem offeredAt_self {rules : List RetentionRule} {e : RetentionRule × Nat} (he : e ∈ rules.zipIdx) :
    offeredAt rules rules e = e.1.shardGroupDurationSeconds := by
  unfold offeredAt
  rw [← map_fst_inOrder, List.getElem?_map, getElem?_inOrder he]
  exact if_pos rfl

/-- Rules filled from themselves stay as they are. -/
theorem fillRules_self (rules : List RetentionRule) : fillRules rules rules = ⟨rules, false⟩ := by
  have hvalue : (fillRules rules rules).value = rules := by
    rw [value_fillRules]
    refine (List.map_congr_left fun e he => ?_).trans (List.zipIdx_map_fst 0 rules)
    rw [offeredAt_self he, RetentionRule.take_self]
  calc fillRules rules rules
      = ⟨(fillRules rules rules).value, (fillRules rules rules).changed⟩ := rfl
    _ = ⟨rules, false⟩ := by rw [changed_fillRules_eq_false_iff.mpr hvalue, hvalue]

end InfluxKeeper.Bucket
