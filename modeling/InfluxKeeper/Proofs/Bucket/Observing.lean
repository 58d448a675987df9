import InfluxKeeper.Proofs.Bucket.Comparison

/-!
# Observing a bucket

A bucket is observed in two steps: parameters are filled from it, and the filled parameters are compared with
it (`Observed`). The comparison sees the limits that are left after the filling, and nothing of the way there.

> `DifferInRules.exists_observed`: buckets that differ in their rules only are judged alike if they come to the
> same, and so do the rules that are filled from them.
-/

namespace InfluxKeeper.Bucket

/-- Parameters are filled from a bucket, and compared with it once they are filled: what becomes of them,
whether that changed them, and the verdict. -/
structure Observed (p : Parameters) (entries : Entries) (changed verdict : Bool) (q : Parameters) : Prop where
  filled : lateInitialize p (.map entries) = (.ok changed, q)
  compared : upToDate q (.map entries) = .ok verdict

/-- What an observation leaves of the parameters is known. -/
theorem Observed.eq_filledFrom {p q : Parameters} {entries : Entries} {changed verdict : Bool}
    {observed : List RetentionRule} (h : Observed p entries changed verdict q)
    (hobserved : observedRules (.map entries) = .ok observed) : q = p.filledFrom entries observed := by
  have hfilled := h.filled
  rw [lateInitialize_eq hobserved] at hfilled
  exact (Prod.mk.inj hfilled).2.symm

/-- Two buckets that list some items as their rules, and differ in nothing else. -/
structure DifferInRules (entries entries' : Entries) (items items' : List Value) : Prop where
  listed : listedItems entries = .ok items
  listed' : listedItems entries' = .ok items'
  others : ∀ key, key ≠ "retentionRules" → entries'.get key = entries.get key

theorem differInRules_bare (observed observed' : List RetentionRule) :
    DifferInRules (bare observed) (bare observed') (observed.map (·.toValue false))
      (observed'.map (·.toValue false)) := by
  refine ⟨listedItems_bare observed, listedItems_bare observed', fun key hkey => ?_⟩
  rw [get_bare hkey, get_bare hkey]

/-- An observation of a bucket of which nothing is known but its rules. -/
theorem observed_bare {p q : Parameters} {observed : List RetentionRule} {changed verdict : Bool}
    (h : Ordered observed)
    (hfilled : { p with
      retentionRules := p.retentionRules.zipIdx.map fun e =>
        e.1.take (offer e.1 observed[placeOf p.retentionRules e]?) } = q)
    (hchanged : decide (q ≠ p) = changed)
    (hverdict : (decide (limits observed = limits q.retentionRules) &&
      (Value.text "").same (q.description.orElse (.text ""))) = verdict) :
    Observed p (bare observed) changed verdict q := by
  constructor
  · rw [lateInitialize_eq (observedRules_bare observed), Parameters.filledFrom_bare h, hfilled, hchanged]
  · rw [upToDate_eq (observedRules_bare observed), get_bare (by decide)]
    exact congrArg _ hverdict

/-- Buckets that differ in their rules only are judged alike if they come to the same, and so do the rules that
are filled from them. -/
theorem DifferInRules.exists_observed {entries entries' : Entries} {items items' : List Value}
    (h : DifferInRules entries entries' items items') {observed observed' : List RetentionRule}
    (hread : observedRules (.map entries) = .ok observed)
    (hread' : observedRules (.map entries') = .ok observed') (p p' : Parameters)
    (hdescription : p'.description = p.description) (hobserved : limits observed' = limits observed)
    (hfilled : limits (fillRules p'.retentionRules observed').value =
      limits (fillRules p.retentionRules observed).value) :
    ∃ verdict : Bool,
      Observed p entries (decide (p.filledFrom entries observed ≠ p)) verdict
          (p.filledFrom entries observed) ∧
        Observed p' entries' (decide (p'.filledFrom entries' observed' ≠ p')) verdict
          (p'.filledFrom entries' observed') := by
  refine ⟨_, ⟨lateInitialize_eq hread, upToDate_eq hread⟩, lateInitialize_eq hread', ?_⟩
  rw [upToDate_eq hread']
  unfold Parameters.filledFrom
  dsimp only
  rw [hobserved, hfilled, hdescription, h.others "description" (by decide)]

end InfluxKeeper.Bucket
